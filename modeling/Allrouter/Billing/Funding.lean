import Allrouter.Subscription.PreConsume
import Allrouter.Billing.Wallet

/-!
# Funding sources

A request is paid from the wallet of the user or from a subscription, and, unless
it is a playground request or paid from a subscription, counted on the quota of its token
as well. A funding source remembers what it took for the request, and gives
that back on a refund (`FundingSource`).

The sources write through the operations of the stores (`BillingStores`). These
are a parameter: the operations of the tables (`Accounts.stores`) are one
instance, and what they amount to for a single request another one.
-/

namespace Allrouter

open Text

/-- The operations on the stores behind a charge. An operation returns what the stores
    hold afterwards, or fails, and then they are as they were. -/
structure BillingStores (σ ε : Type*) where
  decreaseUserQuotaPreferReward : σ → ℤ → Except ε (UserQuotaBreakdown × σ)
  increaseUserQuotaByBreakdown : σ → ℤ → ℤ → Except ε σ
  increaseUserQuota : σ → ℤ → Except ε σ
  preConsumeUserSubscription : σ → PreConsumeRequest → Except ε (σ × SubscriptionPreConsumeResult)
  settleSubscriptionPreConsume : σ → String → ℤ → Except ε σ
  refundSubscriptionPreConsume : σ → String → Except ε σ
  adjustSubscriptionPreConsume : σ → String → ℤ → Except ε σ
  postConsumeUserSubscriptionDelta : σ → ℤ → ℤ → Except ε σ
  /-- Reserves token quota, of which there must be enough unless the token is unlimited. -/
  preConsumeTokenQuota : σ → Bool → ℤ → Except ε σ
  (decreaseTokenQuota increaseTokenQuota : σ → ℤ → Except ε σ)
  /-- The token is still there. -/
  tokenFound : σ → Bool

/-! ## The wallet -/

/-- What a request took from the wallet, and from which part of it. -/
structure WalletFunding where
  (consumed rewardConsumed paidConsumed : ℤ := 0)
  deriving DecidableEq

namespace WalletFunding

variable {σ ε : Type*} (stores : BillingStores σ ε) (w : WalletFunding)

/-- The charge of `b` on top of what was taken. -/
def add (b : UserQuotaBreakdown) (consumed : ℤ) : WalletFunding where
  consumed := consumed
  rewardConsumed := w.rewardConsumed + b.rewardUsed
  paidConsumed := w.paidConsumed + b.paidUsed

def preConsume (x : σ) (amount : ℤ) : Except ε (WalletFunding × σ) :=
  if amount ≤ 0 then .ok (w, x)
  else (stores.decreaseUserQuotaPreferReward x amount).map fun (b, x) => (w.add b amount, x)

/-- The parts of what is given back, the paid part first. -/
def refundParts (refundTotal : ℤ) : ℤ × ℤ :=
  let paidRefund := min refundTotal w.paidConsumed
  let remainingRefund := refundTotal - paidRefund
  (paidRefund, if remainingRefund > 0 then min remainingRefund w.rewardConsumed else 0)

def sub (paidRefund rewardRefund : ℤ) : WalletFunding where
  consumed := w.consumed - (paidRefund + rewardRefund)
  rewardConsumed := w.rewardConsumed - rewardRefund
  paidConsumed := w.paidConsumed - paidRefund

/-- Takes `delta` more, or gives `-delta` back. -/
def settle (x : σ) (delta : ℤ) : Except ε (WalletFunding × σ) :=
  if delta = 0 then .ok (w, x)
  else if delta > 0 then
    (stores.decreaseUserQuotaPreferReward x delta).map fun (b, x) =>
      (w.add b (w.consumed + delta), x)
  else
    let (paidRefund, rewardRefund) := w.refundParts (-delta)
    (stores.increaseUserQuotaByBreakdown x (paidRefund + rewardRefund) rewardRefund).map fun x =>
      (w.sub paidRefund rewardRefund, x)

def refund (x : σ) : Except ε σ :=
  if w.consumed ≤ 0 then .ok x
  else stores.increaseUserQuotaByBreakdown x w.consumed w.rewardConsumed

end WalletFunding

/-! ## Subscriptions -/

/-- What a request took from a subscription: `preConsumed` in advance, and
    `currentAmount` by the record as it is settled. -/
structure SubscriptionFunding where
  requestId : String
  userId : ℤ
  modelName : String
  amount : ℤ
  (subscriptionId preConsumed currentAmount : ℤ := 0)
  currentAmountInitialized : Bool := false
  deriving DecidableEq

/-- Up to three attempts. An attempt that fails leaves the stores as they were. -/
def refundWithRetry {σ ε : Type*} (attempt : σ → Except ε σ) (x : σ) : Except ε σ :=
  (attempt x).tryCatch fun _ => (attempt x).tryCatch fun _ => attempt x

namespace SubscriptionFunding

variable {σ ε : Type*} (stores : BillingStores σ ε) (f : SubscriptionFunding)

def request : PreConsumeRequest where
  requestId := f.requestId
  userId := f.userId
  modelName := f.modelName
  amount := f.amount

/-- Reserves the amount the source was made with, whatever the session asks for. -/
def preConsume (x : σ) : Except ε (SubscriptionFunding × σ) :=
  (stores.preConsumeUserSubscription x f.request).map fun (x, result) =>
    ({ f with
      subscriptionId := result.userSubscriptionId
      preConsumed := result.preConsumed
      currentAmount := result.preConsumed
      currentAmountInitialized := true }, x)

/-- Settles the record at the amount it has come to. A request without a record moves the
    counter of the subscription. -/
def settle (x : σ) (delta : ℤ) : Except ε (SubscriptionFunding × σ) :=
  if trimSpace f.requestId ≠ "" ∧ f.preConsumed > 0 then
    let currentAmount := if f.currentAmountInitialized then f.currentAmount else f.preConsumed
    let actual := max 0 (currentAmount + delta)
    (stores.settleSubscriptionPreConsume x f.requestId actual).map fun x =>
      ({ f with currentAmount := actual, currentAmountInitialized := true }, x)
  else if delta = 0 then .ok (f, x)
  else
    (stores.postConsumeUserSubscriptionDelta x f.subscriptionId delta).map fun x =>
      ({ f with currentAmount := max 0 (f.currentAmount + delta), currentAmountInitialized :=
        true }, x)

def refund (x : σ) : Except ε σ :=
  if f.preConsumed ≤ 0 then .ok x
  else refundWithRetry (stores.refundSubscriptionPreConsume · f.requestId) x

end SubscriptionFunding

/-! ## Either of them -/

/-- What pays for a session. -/
inductive FundingSource
  | wallet (w : WalletFunding)
  | subscription (f : SubscriptionFunding)
  deriving DecidableEq

namespace FundingSource

variable {σ ε : Type*} (stores : BillingStores σ ε)

def isSubscription : FundingSource → Bool
  | .wallet _ => false
  | .subscription _ => true

def preConsume (x : σ) (amount : ℤ) : FundingSource → Except ε (FundingSource × σ)
  | .wallet w => (w.preConsume stores x amount).map fun (w, x) => (.wallet w, x)
  | .subscription f => (f.preConsume stores x).map fun (f, x) => (.subscription f, x)

def settle (x : σ) (delta : ℤ) : FundingSource → Except ε (FundingSource × σ)
  | .wallet w => (w.settle stores x delta).map fun (w, x) => (.wallet w, x)
  | .subscription f => (f.settle stores x delta).map fun (f, x) => (.subscription f, x)

def refund (x : σ) : FundingSource → Except ε σ
  | .wallet w => w.refund stores x
  | .subscription f => f.refund stores x

/-- The source has taken something that a refund gives back. -/
def refundable : FundingSource → Bool
  | .wallet w => w.consumed > 0
  | .subscription f => f.preConsumed > 0

end FundingSource

/-! ## What a source has taken -/

/-- The source has taken `amount`: its own figures say so, and account for all of it. -/
def FundingSource.Took (amount : ℤ) : FundingSource → Prop
  | .wallet w => w.consumed = amount ∧ w.rewardConsumed + w.paidConsumed = amount ∧
      0 ≤ w.rewardConsumed ∧ 0 ≤ w.paidConsumed
  | .subscription f => trimSpace f.requestId ≠ "" ∧ 0 < f.preConsumed ∧
      f.currentAmountInitialized = true ∧ f.currentAmount = amount ∧ 0 ≤ amount

section

variable {w : WalletFunding} {amount delta : ℤ}

variable (h : (FundingSource.wallet w).Took amount)
include h

/-- No more is given back than was taken, so that the parts add up. -/
lemma WalletFunding.refundParts_spec (h0 : 0 ≤ delta)
    (hle : delta ≤ amount) : ∃ paid reward, w.refundParts delta = (paid, reward) ∧ 0 ≤ paid ∧
      0 ≤ reward ∧
      paid + reward = delta ∧ paid ≤ w.paidConsumed ∧ reward ≤ w.rewardConsumed := by
  obtain ⟨-, hsum, h₁, h₂⟩ := h
  refine ⟨_, _, rfl, le_min h0 h₂, ?_, ?_, min_le_right _ _, ?_⟩ <;>
  · split_ifs <;> omega

lemma WalletFunding.took_sub {paid reward : ℤ} (hpaid : paid ≤ w.paidConsumed)
    (hreward : reward ≤ w.rewardConsumed) :
    (FundingSource.wallet (w.sub paid reward)).Took (amount - (paid + reward)) := by
  obtain ⟨hc, hsum, -, -⟩ := h
  exact ⟨by simp only [sub,
    hc], by simp only [sub]; omega, sub_nonneg.2 hreward, sub_nonneg.2 hpaid⟩

end

end Allrouter
