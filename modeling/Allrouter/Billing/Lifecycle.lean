import Allrouter.Billing.Session
import Allrouter.Library.Transaction

/-!
# The life of a billing session

What the stores hold of a single request is the net amount taken from its funding
source and from its token (`Ledger`). A store operation takes full effect on it, or
fails (`Ledger.stores`); which of the two is up to chance (`Fate`).

The calls on a session interleave with the steps of what takes its charge back
(`SessionCall`, `Worker.step`). From the moment a session was charged in advance, with
an amount that is not below zero, in every state that is reached (`sessionSafe_iff`):

* the net amounts are those the session knows of, until the refund of that side
  has gone through, and each side is refunded at most once;
* nothing is left of the charge once the session counts as refunded;
* nothing more is charged once a refund has started.

The argument is one invariant: at most one worker is under way, of the kind that the
phase of the session allows, and it knows what the flags say (`Undoing`).
-/

namespace Allrouter

open Interleaving Text Except UserWallet

/-! ## The ledger of a request -/

/-- The net amounts taken for a request. -/
structure Ledger where
  (funding token : ℤ := 0)
  deriving DecidableEq

/-- How the store operations of a step end: `none` and `false` are failures. A wallet
    operation finds some row, and a charge of a subscription picks one. -/
structure Fate where
  wallet : Option UserWallet := none
  subscription : Option ℤ := none
  token : Bool := false
  deriving DecidableEq

/-- The stores, as far as they concern a single request. -/
def Ledger.stores (fate : Fate) : BillingStores Ledger Unit where
  decreaseUserQuotaPreferReward l quota :=
    match fate.wallet with
    | none => .error ()
    | some wallet =>
      match Allrouter.decreaseUserQuotaPreferReward wallet quota with
      | .error _ => .error ()
      | .ok (b, _) => .ok (b, { l with funding := l.funding + quota })
  increaseUserQuotaByBreakdown l total reward :=
    match fate.wallet with
    | none => .error ()
    | some wallet =>
      match Allrouter.increaseUserQuotaByBreakdown wallet total reward with
      | .error _ => .error ()
      | .ok _ => .ok { l with funding := l.funding - total }
  increaseUserQuota l quota :=
    match fate.wallet with
    | none => .error ()
    | some wallet =>
      match Allrouter.increaseUserQuota wallet quota with
      | .error _ => .error ()
      | .ok _ => .ok { l with funding := l.funding - quota }
  preConsumeUserSubscription l request :=
    match fate.subscription with
    | none => .error ()
    | some id =>
      if trimSpace request.requestId = "" ∨ request.amount ≤ 0 then .error ()
      else .ok ({ l with funding := request.amount },
        { userSubscriptionId := id, preConsumed := request.amount, amountTotal := 0
          amountUsedBefore := 0, amountUsedAfter := request.amount })
  settleSubscriptionPreConsume l _ actualAmount :=
    match fate.subscription with
    | none => .error ()
    | some _ => .ok { l with funding := actualAmount }
  refundSubscriptionPreConsume l _ :=
    match fate.subscription with
    | none => .error ()
    | some _ => .ok { l with funding := 0 }
  adjustSubscriptionPreConsume l _ delta :=
    match fate.subscription with
    | none => .error ()
    | some _ => .ok { l with funding := l.funding + delta }
  postConsumeUserSubscriptionDelta l _ delta :=
    match fate.subscription with
    | none => .error ()
    | some _ => .ok { l with funding := l.funding + delta }
  preConsumeTokenQuota l _ quota :=
    if fate.token then .ok { l with token := l.token + quota } else .error ()
  decreaseTokenQuota l quota :=
    if fate.token then .ok { l with token := l.token + quota } else .error ()
  increaseTokenQuota l quota :=
    if fate.token then .ok { l with token := l.token - quota } else .error ()
  tokenFound _ := true

section

variable {fate : Fate} {l l' : Ledger} {b : UserQuotaBreakdown}
  {quota total reward amount delta : ℤ} {requestId : String}

lemma Ledger.decrease_eq_ok (hpos : 0 < quota)
    (h : (Ledger.stores fate).decreaseUserQuotaPreferReward l quota = .ok (b, l')) :
    l' = { l with funding := l.funding + quota } ∧ b.rewardUsed + b.paidUsed = quota ∧
      0 ≤ b.rewardUsed ∧ 0 ≤ b.paidUsed := by
  simp only [Ledger.stores] at h
  split at h
  · cases h
  · split at h
    · cases h
    · rename_i wallet _ b' _ hb
      cases h
      rw [decreaseUserQuotaPreferReward, if_neg hpos.not_gt, if_neg hpos.ne'] at hb
      obtain ⟨b', hb', ⟨⟩⟩ := map_eq_ok.1 hb
      obtain ⟨-, rfl⟩ := checkDecrease_eq_ok.1 hb'
      exact ⟨rfl, by simp [breakdown], le_min (le_max_right _ _) hpos.le,
        sub_nonneg.2 (min_le_right _ _)⟩

lemma Ledger.increase_eq_ok
    (h : (Ledger.stores fate).increaseUserQuotaByBreakdown l total reward = .ok l') :
    l' = { l with funding := l.funding - total } := by
  simp only [Ledger.stores] at h
  split at h
  · cases h
  · split at h <;> cases h
    rfl

lemma Ledger.settleSubscription_eq_ok
    (h : (Ledger.stores fate).settleSubscriptionPreConsume l requestId amount = .ok l') :
    l' = { l with funding := amount } := by
  simp only [Ledger.stores] at h
  split at h <;> cases h
  rfl

lemma Ledger.refundSubscription_eq_ok
    (h : refundWithRetry ((Ledger.stores fate).refundSubscriptionPreConsume · requestId) l =
      .ok l') :
    l' = { l with funding := 0 } := by
  cases hfate : fate.subscription <;> simp only [Ledger.stores, hfate] at h <;> cases h
  rfl

lemma Ledger.adjustTokenQuota_eq_ok
    (h : BillingSession.adjustTokenQuota (Ledger.stores fate) l delta = .ok l') :
    l' = { l with token := l.token + delta } := by
  simp only [BillingSession.adjustTokenQuota, Ledger.stores] at h
  split_ifs at h with h₀ <;> cases h
  · simp [h₀]
  · rfl
  · simp

lemma Ledger.increaseToken_eq_ok (h : (Ledger.stores fate).increaseTokenQuota l quota = .ok l') :
    l' = { l with token := l.token - quota } := by
  simp only [Ledger.stores] at h
  split_ifs at h
  cases h
  rfl

end

/-! ## What a source does on the ledger -/

namespace FundingSource

variable {fate : Fate} {f f' : FundingSource} {l l' : Ledger} {amount delta : ℤ}

lemma Took.nonneg (h : f.Took amount) : 0 ≤ amount := by
  cases f with
  | wallet w => exact h.2.1 ▸ add_nonneg h.2.2.1 h.2.2.2
  | subscription f => exact h.2.2.2.2

/-- A settlement moves what was taken by `delta`, on the ledger as in the figures of the source. -/
lemma Took.settle (h : f.Took amount) (hl : l.funding = amount) (htarget : 0 ≤ amount + delta)
    (hok : f.settle (Ledger.stores fate) l delta = .ok (f', l')) :
    f'.Took (amount + delta) ∧ l' = { l with funding := amount + delta } ∧
      f'.isSubscription = f.isSubscription := by
  cases f with
  | wallet w =>
    obtain ⟨⟨w', l₁⟩, hsettle, ⟨⟩⟩ := map_eq_ok.1 hok
    rw [WalletFunding.settle] at hsettle
    split_ifs at hsettle with h₀ hpos
    · cases hsettle
      subst h₀ hl
      exact ⟨by simpa using h, by simp, rfl⟩
    · obtain ⟨⟨b, l₂⟩, hdec, ⟨⟩⟩ := map_eq_ok.1 hsettle
      obtain ⟨rfl, hparts, hreward, hpaid⟩ := Ledger.decrease_eq_ok hpos hdec
      obtain ⟨hc, htook, h₁, h₂⟩ := h
      rw [hc, hl]
      exact ⟨⟨rfl, by simp only [WalletFunding.add]; omega, add_nonneg h₁ hreward,
        add_nonneg h₂ hpaid⟩, rfl, rfl⟩
    · obtain ⟨paid, reward, hrefund, -, -, hsum, hpaid, hreward⟩ :=
        WalletFunding.refundParts_spec h (show 0 ≤ -delta by omega) (by omega)
      simp only [hrefund] at hsettle
      obtain ⟨l₂, hinc, ⟨⟩⟩ := map_eq_ok.1 hsettle
      obtain rfl := Ledger.increase_eq_ok hinc
      have hdelta : amount + delta = amount - (paid + reward) := by omega
      rw [hdelta, hl]
      exact ⟨WalletFunding.took_sub h hpaid hreward, rfl, rfl⟩
  | subscription f =>
    obtain ⟨⟨f', l₁⟩, hsettle, ⟨⟩⟩ := map_eq_ok.1 hok
    obtain ⟨hid, hpre, hinit, hcurrent, -⟩ := h
    rw [SubscriptionFunding.settle, if_pos ⟨hid, hpre⟩] at hsettle
    simp only [hinit, if_true, hcurrent, max_eq_right htarget] at hsettle
    obtain ⟨l₂, hset, ⟨⟩⟩ := map_eq_ok.1 hsettle
    exact ⟨⟨hid, hpre, rfl, rfl, htarget⟩, Ledger.settleSubscription_eq_ok hset, rfl⟩

lemma Took.refund (h : f.Took amount) (hl : l.funding = amount)
    (hok : f.refund (Ledger.stores fate) l = .ok l') : l' = { l with funding := 0 } := by
  cases f with
  | wallet w =>
    have hnonneg := h.nonneg
    obtain ⟨hconsumed, -⟩ := h
    simp only [FundingSource.refund, WalletFunding.refund] at hok
    split_ifs at hok with hzero
    · cases hok
      have : l.funding = 0 := by omega
      rw [← this]
    · rw [Ledger.increase_eq_ok hok, hl, hconsumed, sub_self]
  | subscription f =>
    simp only [FundingSource.refund, SubscriptionFunding.refund, if_neg (not_le.2 h.2.1)] at hok
    exact Ledger.refundSubscription_eq_ok hok

end FundingSource

/-! ## Sessions charged in advance -/

/-- Before anything is taken back: the session knows what is on the ledger. -/
structure Balanced (s : BillingSession) (l : Ledger) : Prop where
  initialized : s.quotaStateInitialized = true
  took : s.funding.Took s.fundingQuota
  funding : l.funding = s.fundingQuota
  token : l.token = s.tokenQuota
  tokenConsumed : s.tokenConsumed = s.tokenQuota
  tokenQuota : 0 ≤ s.tokenQuota
  tokenFree : s.tokenQuotaRequired = false → s.tokenQuota = 0

def walletSession (relayInfo : RelayInfo) : BillingSession where
  relayInfo := relayInfo
  funding := .wallet {}

/-- What is reserved on a subscription: at least one. -/
def subConsume (preConsumedQuota : ℤ) : ℤ := if preConsumedQuota ≤ 0 then 1 else preConsumedQuota

def subscriptionSession (relayInfo : RelayInfo) (requestId : String) (userId : ℤ)
    (modelName : String) (preConsumedQuota : ℤ) : BillingSession where
  relayInfo := relayInfo
  funding := .subscription
    { requestId := requestId, userId := userId, modelName := modelName
      amount := subConsume preConsumedQuota }

/-- A charge in advance, on a wallet or on a subscription. -/
inductive AdvanceCharge
  | wallet (relayInfo : RelayInfo) (quota : ℤ)
  | subscription (relayInfo : RelayInfo) (requestId : String) (userId : ℤ) (modelName : String)
      (quota : ℤ)

namespace AdvanceCharge

/-- The session before the charge. -/
def session : AdvanceCharge → BillingSession
  | wallet relayInfo _ => walletSession relayInfo
  | subscription relayInfo requestId userId modelName quota =>
    subscriptionSession relayInfo requestId userId modelName quota

/-- What the session is asked to charge. -/
def amount : AdvanceCharge → ℤ
  | wallet _ quota => quota
  | subscription _ _ _ _ quota => subConsume quota

/-- The charge goes through, on an empty ledger. -/
def Opens (charge : AdvanceCharge) (fate : Fate) (s : BillingSession) (l : Ledger) : Prop :=
  charge.session.preConsume (Ledger.stores fate) {} charge.amount = ⟨none, s, l⟩

/-- The amount is not below zero, or the user is trusted, so that nothing is charged. On a
    subscription it never is. -/
def Nonneg (charge : AdvanceCharge) : Prop :=
  0 ≤ charge.amount ∨ charge.session.shouldTrust = true

end AdvanceCharge

section

variable {fate : Fate} {s s' : BillingSession} {l l' : Ledger} {quota target : ℤ}

lemma subConsume_pos : 0 < subConsume quota := by
  rw [subConsume]
  split_ifs <;> omega

lemma preConsume_eq_none (h : s.preConsume (Ledger.stores fate) l quota = ⟨none, s', l'⟩) :
    ∃ effectiveQuota s₁ l₁ funding, effectiveQuota = (if s.shouldTrust then 0 else quota) ∧
      s.reserveToken (Ledger.stores fate) l effectiveQuota = .ok (s₁, l₁) ∧
      s₁.funding.preConsume (Ledger.stores fate) l₁ effectiveQuota = .ok (funding, l') ∧
        s' = { s₁ with
        funding := funding
        preConsumedQuota := effectiveQuota
        fundingQuota := effectiveQuota
        tokenQuota := s₁.tokenConsumed
        quotaStateInitialized := true } := by
  rw [BillingSession.preConsume] at h
  split at h
  · cases h
  · rename_i s₁ l₁ hreserve
    split at h
    · rw [BillingSession.rollbackReservation] at h
      split_ifs at h
      · split at h <;> cases h
      · cases h
    · rename_i funding l₂ hfunding
      cases h
      exact ⟨_, _, _, _, rfl, hreserve, hfunding, rfl⟩

/-- The token reservation, on a session that has not been charged. -/
lemma reserveToken_eq_ok (hquota : 0 ≤ quota) (h0 : s.tokenConsumed = 0) (hl : l.token = 0)
    (h : s.reserveToken (Ledger.stores fate) l quota = .ok (s', l')) :
    s' = { s with tokenConsumed := if s.tokenQuotaRequired then quota else 0 } ∧
      l' = { l with token := if s.tokenQuotaRequired then quota else 0 } := by
  rw [BillingSession.reserveToken] at h
  split_ifs at h with hcond
  · obtain ⟨l₁, hpre, ⟨⟩⟩ := map_eq_ok.1 h
    simp only [Ledger.stores] at hpre
    split_ifs at hpre
    cases hpre
    simp [hcond.2, hl]
  · cases h
    have hnone := ite_eq_right_iff.2 fun hrequired =>
      le_antisymm (not_lt.1 fun hpos => hcond ⟨hpos, hrequired⟩) hquota
    rw [hnone]
    exact ⟨by rw [← h0], by rw [← hl]⟩

lemma took_of_wallet_preConsume {w : WalletFunding} (hquota : 0 ≤ quota) (hl : l.funding = 0)
    (h : WalletFunding.preConsume (Ledger.stores fate) {} l quota = .ok (w, l')) :
    (FundingSource.wallet w).Took quota ∧ l' = { l with funding := quota } := by
  rw [WalletFunding.preConsume] at h
  split_ifs at h with hzero
  · cases h
    obtain rfl : quota = 0 := le_antisymm hzero hquota
    exact ⟨⟨rfl, rfl, le_rfl, le_rfl⟩, by rw [← hl]⟩
  · obtain ⟨⟨b, l₁⟩, hdec, ⟨⟩⟩ := map_eq_ok.1 h
    obtain ⟨rfl, hparts, hreward, hpaid⟩ := Ledger.decrease_eq_ok (not_le.1 hzero) hdec
    exact ⟨⟨rfl, by simpa [WalletFunding.add] using hparts,
      by simpa [WalletFunding.add] using hreward, by simpa [WalletFunding.add] using hpaid⟩,
      by rw [hl, zero_add]⟩

lemma took_of_subscription_preConsume {f f' : SubscriptionFunding} (hamount : f.amount = quota)
    (h : f.preConsume (Ledger.stores fate) l = .ok (f', l')) :
    (FundingSource.subscription f').Took quota ∧ l' = { l with funding := quota } := by
  obtain ⟨⟨l₁, result⟩, hpre, ⟨⟩⟩ := map_eq_ok.1 h
  simp only [Ledger.stores] at hpre
  split at hpre
  · cases hpre
  · split_ifs at hpre with hcond
    cases hpre
    simp only [SubscriptionFunding.request, not_or, not_le, hamount] at hcond
    exact ⟨⟨hcond.1, by simpa [SubscriptionFunding.request, hamount] using hcond.2, rfl,
      by simp [SubscriptionFunding.request,
        hamount], hcond.2.le⟩, by simp [SubscriptionFunding.request, hamount]⟩

lemma took_of_preConsume {source funding : FundingSource}
    (hsource : source = .wallet {} ∨ ∃ f, source = .subscription f ∧ f.amount = quota)
    (hquota : 0 ≤ quota) (hl : l.funding = 0)
    (h : source.preConsume (Ledger.stores fate) l quota = .ok (funding, l')) :
    funding.Took quota ∧ l' = { l with funding := quota } ∧
      funding.isSubscription = source.isSubscription := by
  obtain rfl | ⟨f, rfl, hamount⟩ := hsource
  · obtain ⟨⟨w, l₁⟩, hpre, ⟨⟩⟩ := map_eq_ok.1 h
    obtain ⟨htook, rfl⟩ := took_of_wallet_preConsume hquota hl hpre
    exact ⟨htook, rfl, rfl⟩
  · obtain ⟨⟨g, l₁⟩, hpre, ⟨⟩⟩ := map_eq_ok.1 h
    obtain ⟨htook, rfl⟩ := took_of_subscription_preConsume hamount hpre
    exact ⟨htook, rfl, rfl⟩

end

/-! ## Calls and workers -/

/-- A session, the ledger of its request, and how often each side was refunded. -/
structure SessionState where
  session : BillingSession
  ledger : Ledger
  (fundingRefunds tokenRefunds : ℕ := 0)
  deriving DecidableEq

/-- The calls on a session. Those that settle hold its lock to the end; those that take the
    charge back leave a worker behind. -/
inductive SessionCall
  | settleProgress (delta : ℤ) (fate : Fate)
  | settle (actualQuota : ℤ) (fate : Fate)
  | refund
  | rollbackSettlement

/-- A call is answered under the lock, and may start a worker. -/
def SessionCall.run (s : SessionState) : SessionCall → SessionState × Option Worker
  | .settleProgress delta fate =>
    let r := s.session.settleProgress (Ledger.stores fate) s.ledger delta
    ({ s with session := r.session, ledger := r.store }, none)
  | .settle actualQuota fate =>
    let r := s.session.settle (Ledger.stores fate) s.ledger actualQuota
    ({ s with session := r.session, ledger := r.store }, none)
  | .refund => ({ s with session := s.session.refund.1 }, s.session.refund.2)
  | .rollbackSettlement => ({ s with session := s.session.rollbackSettlement.1 },
    s.session.rollbackSettlement.2)

/-- A step of a worker; an operation that gives something back is counted when it
    goes through. -/
def Worker.step (fate : Fate) (s : SessionState) (w : Worker) : SessionState × Option Worker :=
  let ((session, ledger), o) := w.next (Ledger.stores fate) s.session s.ledger
  let fundingReturned := w.stage = .funding ∧ o.map (·.stage) = some .fundingDone
  let tokenReturned := w.stage = .token ∧ w.returnsToken s.session ∧
    o.map (·.stage) = some .tokenDone
  ({ session := session
     ledger := ledger
     fundingRefunds := if fundingReturned then s.fundingRefunds + 1 else s.fundingRefunds
     tokenRefunds := if tokenReturned then s.tokenRefunds + 1 else s.tokenRefunds }, o)

def SessionCall.Runs (s s' : SessionState) (o : Option Worker) : Prop :=
  ∃ call : SessionCall, call.run s = (s', o)

/-- The steps of the workers, whatever the store operations do. -/
def Worker.Steps (s : SessionState) (w : Worker) (s' : SessionState) (o : Option Worker) : Prop :=
  ∃ fate, w.step fate s = (s', o)

/-- The states that calls and workers reach in any interleaving. -/
abbrev SessionRun : Pool SessionState Worker → Pool SessionState Worker → Prop :=
  Run SessionCall.Runs Worker.Steps

/-- What a step of a worker may do. -/
inductive WorkerStep (s : SessionState) (w : Worker) : SessionState → Option Worker → Prop
  | skipFunding (hstage : w.stage = .funding) : WorkerStep s w s (some { w with stage := .token })
  | returnFunding {fate : Fate} {l : Ledger} (hstage : w.stage = .funding)
    (hdone : w.fundingDone = false)
      (hrefund : s.session.funding.refund (Ledger.stores fate) s.ledger = .ok l) :
      WorkerStep s w { s with ledger := l, fundingRefunds := s.fundingRefunds + 1 }
        (some { w with stage := .fundingDone })
  | markFunding (hstage : w.stage = .fundingDone) :
      WorkerStep s w { s with session := s.session.markFunding w.undo }
        (some { w with stage := .token })
  | skipToken (hstage : w.stage = .token) : WorkerStep s w s (some { w with stage := .finish })
  | freeToken (hstage : w.stage = .token) (hreturns : w.returnsToken s.session = false) :
      WorkerStep s w s (some { w with stage := .tokenDone })
  | returnToken (hstage : w.stage = .token) (hreturns : w.returnsToken s.session = true) :
      WorkerStep s w
        { s with
          ledger := { s.ledger with token := s.ledger.token - w.tokenAmount }
          tokenRefunds := s.tokenRefunds + 1 }
        (some { w with stage := .tokenDone })
  | markToken (hstage : w.stage = .tokenDone) :
      WorkerStep s w { s with session := s.session.markToken w.undo }
        (some { w with stage := .finish })
  | finish (hstage : w.stage = .finish) :
      WorkerStep s w { s with session := s.session.finish w.undo } none

lemma Worker.Steps.workerStep {s s' : SessionState} {w : Worker} {o : Option Worker}
    (h : w.Steps s s' o) : WorkerStep s w s' o := by
  obtain ⟨fate, h⟩ := h
  obtain ⟨rfl, rfl⟩ : (w.step fate s).1 = s' ∧ (w.step fate s).2 = o := by simp [h]
  cases hstage : w.stage with
  | funding =>
    cases hdone : w.fundingDone with
    | true => simpa [Worker.step, Worker.next, hstage,
      hdone] using WorkerStep.skipFunding (s := s) hstage
    | false =>
      cases hrefund : s.session.funding.refund (Ledger.stores fate) s.ledger with
      | error e => simpa [Worker.step, Worker.next, hstage,
        hrefund] using WorkerStep.skipFunding (s := s) hstage
      | ok l => simpa [Worker.step, Worker.next, hstage, hdone,
        hrefund] using WorkerStep.returnFunding hstage hdone hrefund
  | fundingDone => simpa [Worker.step, Worker.next, hstage] using WorkerStep.markFunding hstage
  | token =>
    cases hreturns : w.returnsToken s.session with
    | true =>
      cases htoken : (Ledger.stores fate).increaseTokenQuota s.ledger w.tokenAmount with
      | error e => simpa [Worker.step, Worker.next, hstage, hreturns,
        htoken] using WorkerStep.skipToken hstage
      | ok l =>
        obtain rfl := Ledger.increaseToken_eq_ok htoken
        simpa [Worker.step, Worker.next, hstage, hreturns, htoken] using WorkerStep.returnToken
          hstage hreturns
    | false =>
      cases hundo : w.undo with
      | refund => simpa [Worker.step, Worker.next, hstage, hreturns,
        hundo] using WorkerStep.skipToken (s := s) hstage
      | rollback => simpa [Worker.step, Worker.next, hstage, hreturns,
        hundo] using WorkerStep.freeToken hstage hreturns
  | tokenDone => simpa [Worker.step, Worker.next, hstage] using WorkerStep.markToken hstage
  | finish => simpa [Worker.step, Worker.next, hstage] using WorkerStep.finish hstage

/-! ## The invariant -/

namespace BillingSession

variable (s : BillingSession)

def fundingDone : Undo → Bool
  | .refund => s.refundFundingDone
  | .rollback => s.rollbackFundingDone

def tokenDone : Undo → Bool
  | .refund => s.refundTokenDone
  | .rollback => s.rollbackTokenDone

def inFlight : Undo → Bool
  | .refund => s.refundInFlight
  | .rollback => s.rollbackInFlight

def NoRefund : Prop :=
  s.refundStarted = false ∧ s.refundInFlight = false ∧ s.refundFundingDone = false ∧
    s.refundTokenDone = false

def NoRollback : Prop :=
  s.settlementRolledBack = false ∧ s.rollbackInFlight = false ∧ s.rollbackFundingDone = false ∧
    s.rollbackTokenDone = false

/-- How the charge may be taken back: by a refund until it is settled, and by a rollback
    from then on. -/
def Phase : Undo → Prop
  | .refund => s.settled = false ∧ s.NoRollback ∧
      (s.refundStarted = false → s.NoRefund ∧ s.refunded = false)
  | .rollback => s.settled = true ∧ s.NoRefund ∧ (s.settlementRolledBack = true → s.refunded = true)

variable {s} {undo : Undo}

lemma Phase.of_inFlight (h : s.Phase undo) (hbusy : s.inFlight undo = true) :
    (s.markFunding undo).Phase undo ∧ (s.markToken undo).Phase undo ∧
      (s.finish undo).Phase undo := by
  cases undo with
  | refund =>
    obtain ⟨hsettled, hrollback, hstarted⟩ := h
    have : s.refundStarted = true := by
      by_contra hnot
      have hidle := (hstarted (by simpa using hnot)).1.2.1
      simp [inFlight, hidle] at hbusy
    refine ⟨⟨hsettled, hrollback, ?_⟩, ⟨hsettled, hrollback, ?_⟩, ⟨hsettled, hrollback, ?_⟩⟩ <;>
      simp [markFunding, markToken, finish, this]
  | rollback =>
    obtain ⟨hsettled, hrefund, hrolled⟩ := h
    refine ⟨⟨hsettled, hrefund, hrolled⟩, ⟨hsettled, hrefund, hrolled⟩, ⟨hsettled, hrefund, ?_⟩⟩
    simp only [finish, Bool.or_eq_true]
    exact Or.imp_left hrolled

end BillingSession

open BillingSession

/-- The worker knows whether the token side is done, and what it amounts to. -/
def Worker.KnowsToken (w : Worker) (s : BillingSession) : Prop :=
  w.tokenDone = s.tokenDone w.undo ∧ (w.tokenDone = false → w.tokenAmount = s.tokenQuota)

/-- What the worker has read of the session still holds where it uses it. -/
def Worker.Knows (w : Worker) (s : BillingSession) : Prop :=
  match w.stage with
  | .funding => w.fundingDone = s.fundingDone w.undo ∧ w.KnowsToken s
  | .fundingDone => w.KnowsToken s
  | .token => w.KnowsToken s
  | .tokenDone => True
  | .finish => True

/-- The funding side was given back: it is noted, or the worker is about to note it. -/
def fundingReturned (undo : Undo) (s : BillingSession) (o : Option Worker) : Prop :=
  s.fundingDone undo = true ∨ ∃ w ∈ o, w.stage = .fundingDone

/-- The token side was given back, or has nothing to give. -/
def tokenReturned (undo : Undo) (s : BillingSession) (o : Option Worker) : Prop :=
  s.tokenDone undo = true ∨ ∃ w ∈ o, w.stage = .tokenDone

/-- The state of a session whose charge may be taken back by `undo`, with the worker that
    is under way, if any. -/
structure Undoing (undo : Undo) (s : SessionState) (o : Option Worker) : Prop where
  phase : s.session.Phase undo
  initialized : s.session.quotaStateInitialized = true
  took : s.session.funding.Took s.session.fundingQuota
  tokenQuota : 0 ≤ s.session.tokenQuota
  tokenFree : s.session.tokenQuotaRequired = false → s.session.tokenQuota = 0
  funding : (s.fundingRefunds = 0 ∧ s.ledger.funding = s.session.fundingQuota ∧
      ¬ fundingReturned undo s.session o) ∨
    (s.fundingRefunds = 1 ∧ s.ledger.funding = 0 ∧ fundingReturned undo s.session o)
  token : (s.tokenRefunds = 0 ∧ s.ledger.token = s.session.tokenQuota ∧
      (tokenReturned undo s.session o → s.session.tokenQuota = 0)) ∨
    (s.tokenRefunds = 1 ∧ s.ledger.token = 0 ∧ tokenReturned undo s.session o)
  tokenConsumed : s.session.tokenDone undo = false → s.session.tokenConsumed = s.session.tokenQuota
  inFlight : s.session.inFlight undo = o.isSome
  refunded : s.session.refunded = true →
    s.session.fundingDone undo = true ∧ s.session.tokenDone undo = true
  worker : ∀ w ∈ o, w.undo = undo ∧ w.Knows s.session

section

variable {undo : Undo} {s s' : SessionState} {w : Worker} {o : Option Worker}

lemma fundingReturned_some : fundingReturned undo s.session (some w) ↔
    s.session.fundingDone undo = true ∨ w.stage = .fundingDone := by
  simp [fundingReturned]

lemma tokenReturned_some : tokenReturned undo s.session (some w) ↔
    s.session.tokenDone undo = true ∨ w.stage = .tokenDone := by
  simp [tokenReturned]

variable (h : Undoing undo s (some w))
include h

lemma Undoing.advance {w' : Worker} (hundo : w'.undo = w.undo)
    (hknows : w'.Knows s.session) (hfunding : w.stage ≠ .fundingDone ∧ w'.stage ≠ .fundingDone)
    (htoken : w.stage ≠ .tokenDone ∧ w'.stage ≠ .tokenDone) : Undoing undo s (some w') :=
  { h with
    funding := by simpa [fundingReturned_some, hfunding] using h.funding
    token := by simpa [tokenReturned_some, htoken] using h.token
    worker := by
      rintro _ ⟨⟩
      exact ⟨hundo.trans (h.worker w rfl).1, hknows⟩ }

/-- The funding side is given back, once: the worker has read that it was not. -/
lemma Undoing.returnFunding {fate : Fate} {l : Ledger} (hstage : w.stage = .funding)
    (hdone : w.fundingDone = false)
    (hrefund : s.session.funding.refund (Ledger.stores fate) s.ledger = .ok l) :
    Undoing undo { s with ledger := l, fundingRefunds := s.fundingRefunds + 1 }
      (some { w with stage := .fundingDone }) := by
  obtain ⟨rfl, hknows⟩ := h.worker w rfl
  simp only [Worker.Knows, hstage] at hknows
  obtain ⟨h₀, hl, -⟩ := h.funding.resolve_right fun h' => by
    simp [fundingReturned_some, hstage, ← hknows.1, hdone] at h'
  obtain rfl := h.took.refund hl hrefund
  exact { h with
    funding := .inr ⟨by simp [h₀], rfl, by simp [fundingReturned]⟩
    token := by simpa [tokenReturned_some, hstage] using h.token
    worker := by
      rintro _ ⟨⟩
      exact ⟨rfl, hknows.2⟩ }

lemma Undoing.returnToken (hstage : w.stage = .token) (hreturns : w.returnsToken s.session = true) :
    Undoing undo
      { s with
        ledger := { s.ledger with token := s.ledger.token - w.tokenAmount }
        tokenRefunds := s.tokenRefunds + 1 }
      (some { w with stage := .tokenDone }) := by
  obtain ⟨rfl, hknows⟩ := h.worker w rfl
  simp only [Worker.Knows, hstage] at hknows
  simp only [Worker.returnsToken, Bool.and_eq_true, Bool.not_eq_true'] at hreturns
  obtain ⟨h₀, hl, -⟩ := h.token.resolve_right fun h' => by
    simp [tokenReturned_some, hstage, ← hknows.1, hreturns.1.1] at h'
  exact { h with
    funding := by simpa [fundingReturned_some, hstage] using h.funding
    token := .inr ⟨by simp [h₀], by simp [hl, hknows.2 hreturns.1.1], by simp [tokenReturned]⟩
    worker := by
      rintro _ ⟨⟩
      exact ⟨rfl, trivial⟩ }

/-- A token that the worker has nothing to give back to has nothing left of the charge. -/
lemma Undoing.freeToken (hstage : w.stage = .token) (hreturns : w.returnsToken s.session = false) :
    Undoing undo s (some { w with stage := .tokenDone }) := by
  obtain ⟨rfl, hknows⟩ := h.worker w rfl
  simp only [Worker.Knows, hstage] at hknows
  have hzero : s.session.tokenDone w.undo = false → s.session.tokenQuota = 0 := by
    intro hdone
    rw [← hknows.1] at hdone
    simp only [Worker.returnsToken, hdone, Bool.and_eq_false_iff, decide_eq_false_iff_not, not_lt,
      hknows.2 hdone, Bool.not_eq_false', Bool.not_false, reduceCtorEq, false_or] at hreturns
    rcases hreturns with hle | hplayground
    · exact le_antisymm hle h.tokenQuota
    · exact h.tokenFree (by simp [tokenQuotaRequired, hplayground])
  exact { h with
    funding := by simpa [fundingReturned_some, hstage] using h.funding
    token := by
      rcases h.token with ⟨h₀, hl, hfree⟩ | ⟨h₁, hl, -⟩
      · refine .inl ⟨h₀, hl, fun _ => ?_⟩
        by_cases hdone : s.session.tokenDone w.undo = true
        · exact hfree (.inl hdone)
        · exact hzero (by simpa using hdone)
      · exact .inr ⟨h₁, hl, by simp [tokenReturned]⟩
    worker := by
      rintro _ ⟨⟩
      exact ⟨rfl, trivial⟩ }

lemma Undoing.markFunding (hstage : w.stage = .fundingDone) :
    Undoing undo { s with session := s.session.markFunding undo }
      (some { w with stage := .token }) := by
  obtain ⟨hundo, hknows⟩ := h.worker w rfl
  simp only [Worker.Knows, hstage, Worker.KnowsToken, hundo] at hknows
  obtain ⟨h₁, hl, -⟩ := h.funding.resolve_left fun h' =>
    h'.2.2 (fundingReturned_some.2 (.inr hstage))
  have hphase := (h.phase.of_inFlight h.inFlight).1
  cases undo <;> exact { h with
    phase := hphase
    funding := .inr ⟨h₁, hl, .inl rfl⟩
    token := by simpa [tokenReturned, hstage, markFunding, tokenDone] using h.token
    refunded := fun h' => ⟨rfl, (h.refunded h').2⟩
    worker := by
      rintro _ ⟨⟩
      simp only [Worker.Knows, Worker.KnowsToken, hundo]
      exact ⟨trivial, hknows⟩ }

lemma Undoing.markToken (hstage : w.stage = .tokenDone) :
    Undoing undo { s with session := s.session.markToken undo }
      (some { w with stage := .finish }) := by
  have hphase := (h.phase.of_inFlight h.inFlight).2.1
  cases undo <;> exact { h with
    phase := hphase
    funding := by simpa [fundingReturned, hstage, markToken, fundingDone] using h.funding
    token := by simpa [tokenReturned, hstage, markToken, tokenDone] using h.token
    tokenConsumed := fun h' => by cases h'
    refunded := fun h' => ⟨(h.refunded h').1, rfl⟩
    worker := by
      rintro _ ⟨⟩
      exact ⟨(h.worker w rfl).1, trivial⟩ }

lemma Undoing.finish (hstage : w.stage = .finish) :
    Undoing undo { s with session := s.session.finish undo } none := by
  have hphase := (h.phase.of_inFlight h.inFlight).2.2
  cases undo <;> exact { h with
    phase := hphase
    funding := by simpa [fundingReturned, hstage, finish, fundingDone] using h.funding
    token := by simpa [tokenReturned, hstage, finish, tokenDone] using h.token
    inFlight := rfl
    refunded := by
      simp only [finish, Bool.or_eq_true, Bool.and_eq_true]
      exact fun h' => h'.elim h.refunded fun h' => h'
    worker := by simp }

lemma Undoing.workerStep (hstep : WorkerStep s w s' o) : Undoing undo s' o := by
  obtain ⟨hundo, hknows⟩ := h.worker w rfl
  cases hstep with
  | skipFunding hstage =>
    simp only [Worker.Knows, hstage] at hknows
    exact h.advance rfl hknows.2 (by simp [hstage]) (by simp [hstage])
  | returnFunding hstage hdone hrefund => exact h.returnFunding hstage hdone hrefund
  | markFunding hstage => exact hundo ▸ h.markFunding hstage
  | skipToken hstage => exact h.advance rfl trivial (by simp [hstage]) (by simp [hstage])
  | freeToken hstage hreturns => exact h.freeToken hstage hreturns
  | returnToken hstage hreturns => exact h.returnToken hstage hreturns
  | markToken hstage => exact hundo ▸ h.markToken hstage
  | finish hstage => exact hundo ▸ h.finish hstage

end

/-! ## The calls -/

section

variable {fate : Fate} {s s' : BillingSession} {l l' : Ledger} {target : ℤ}

lemma Balanced.adjustFunding (h : Balanced s l) (htarget : 0 ≤ target)
    (hok : s.adjustFunding (Ledger.stores fate) l target = .ok (s', l')) :
    Balanced s' l' ∧ ∃ funding, s' = { s with funding := funding, fundingQuota := target } := by
  rw [BillingSession.adjustFunding] at hok
  split_ifs at hok with hdelta
  · obtain ⟨⟨funding, l₁⟩, hsettle, ⟨⟩⟩ := map_eq_ok.1 hok
    have hsum : s.fundingQuota + (target - s.fundingQuota) = target := by omega
    obtain ⟨htook, rfl, hsource⟩ := h.took.settle h.funding (hsum.symm ▸ htarget) hsettle
    rw [hsum] at htook ⊢
    refine ⟨⟨h.initialized, htook, rfl, h.token, h.tokenConsumed, h.tokenQuota, fun hfree => ?_⟩, _,
      rfl⟩
    exact h.tokenFree (by simpa [tokenQuotaRequired, hsource] using hfree)
  · cases hok
    obtain rfl : target = s.fundingQuota := by omega
    exact ⟨h, s.funding, rfl⟩

lemma Balanced.adjustToken (h : Balanced s l) (htarget : 0 ≤ target)
    (hok : s.adjustToken (Ledger.stores fate) l target = .ok (s', l')) :
    Balanced s' l' ∧ ∃ quota, s' = { s with tokenQuota := quota, tokenConsumed := quota } := by
  rw [BillingSession.adjustToken] at hok
  split_ifs at hok with hrequired
  · obtain ⟨l₁, hadjust, ⟨⟩⟩ := map_eq_ok.1 hok
    obtain rfl := Ledger.adjustTokenQuota_eq_ok hadjust
    refine ⟨⟨h.initialized, h.took, h.funding, ?_, rfl, htarget, fun hfree => ?_⟩, _, rfl⟩
    · simp only [h.token]
      omega
    · exact absurd hrequired (by simpa [tokenQuotaRequired] using hfree)
  · cases hok
    refine ⟨⟨h.initialized, h.took, h.funding, ?_, rfl, le_rfl, fun _ => rfl⟩, _, rfl⟩
    rw [h.token, h.tokenFree (by simpa using hrequired)]

/-- Moving to a target keeps the session balanced, also where it fails half way, and
    leaves everything but the amounts alone. -/
lemma Balanced.applyTarget (h : Balanced s l) (fate : Fate) (target : ℤ) :
    Balanced (s.applyTarget (Ledger.stores fate) l target).session
      (s.applyTarget (Ledger.stores fate) l target).store ∧
      ∃ funding fundingQuota tokenQuota, (s.applyTarget (Ledger.stores fate) l target).session =
        { s with
          funding := funding
          fundingQuota := fundingQuota
          tokenQuota := tokenQuota
          tokenConsumed := tokenQuota } ∧
        ((s.applyTarget (Ledger.stores fate) l target).error = none → fundingQuota = target) := by
  have hsame := congrArg (fun quota => { s with tokenConsumed := quota }) h.tokenConsumed
  rcases applyTarget_cases (Ledger.stores fate) h.initialized l target with
    ⟨-, hr⟩ | ⟨-, e, -, hr⟩ | ⟨htarget, s₁, l₁, hfunding, hr⟩
  · rw [hr]
    exact ⟨h, _, _, _, hsame, nofun⟩
  · rw [hr]
    exact ⟨h, _, _, _, hsame, nofun⟩
  · obtain ⟨h₁, funding, rfl⟩ := h.adjustFunding htarget hfunding
    rcases hr with ⟨e, -, hr⟩ | ⟨s₂, l₂, htoken, hr⟩
    · rw [hr]
      exact ⟨h₁, funding, target, s.tokenQuota, by rw [h.tokenConsumed], nofun⟩
    · obtain ⟨h₂, quota, rfl⟩ := h₁.adjustToken htarget htoken
      rw [hr]
      exact ⟨h₂, funding, target, quota, rfl, fun _ => rfl⟩

lemma settle_of_closed {actualQuota : ℤ} (h : s.refundStarted = true ∨ s.settled = true) :
    (s.settle (Ledger.stores fate) l actualQuota).session = s ∧
      (s.settle (Ledger.stores fate) l actualQuota).store = l := by
  rw [settle]
  split_ifs with h₁ h₂
  · exact ⟨rfl, rfl⟩
  · exact ⟨rfl, rfl⟩
  · simp_all

lemma settleProgress_of_closed {delta : ℤ} (h : s.refundStarted = true ∨ s.settled = true) :
    (s.settleProgress (Ledger.stores fate) l delta).session = s ∧
      (s.settleProgress (Ledger.stores fate) l delta).store = l := by
  rw [settleProgress]
  split_ifs with h₁ h₂
  · exact ⟨rfl, rfl⟩
  · exact ⟨rfl, rfl⟩
  · simp_all

end

section

variable {undo : Undo} {s : SessionState} {o : Option Worker}

/-- A balanced session of which nothing was ever taken back, settled or not. -/
lemma undoing_of_balanced (hbalanced : Balanced s.session s.ledger)
    (hcounts : s.fundingRefunds = 0 ∧ s.tokenRefunds = 0) (hrefund : s.session.NoRefund)
    (hrollback : s.session.NoRollback) (hrefunded : s.session.refunded = false) :
      ∃ undo, Undoing undo s none := by
  have hundoing : ∀ undo, s.session.Phase undo → Undoing undo s none := by
    intro undo hphase
    have hflags : s.session.fundingDone undo = false ∧ s.session.tokenDone undo = false ∧
        s.session.inFlight undo = false := by
      obtain ⟨-, h₁, h₂, h₃⟩ := hrefund
      obtain ⟨-, h₄, h₅, h₆⟩ := hrollback
      cases undo
      · exact ⟨h₂, h₃, h₁⟩
      · exact ⟨h₅, h₆, h₄⟩
    exact { hbalanced with
      phase := hphase
      funding := .inl ⟨hcounts.1, hbalanced.funding, by simp [fundingReturned, hflags.1]⟩
      token := .inl ⟨hcounts.2, hbalanced.token, by simp [tokenReturned, hflags.2.1]⟩
      tokenConsumed := fun _ => hbalanced.tokenConsumed
      inFlight := hflags.2.2
      refunded := by simp [hrefunded]
      worker := by simp }
  cases hsettled : s.session.settled with
  | false => exact ⟨.refund, hundoing _ ⟨hsettled, hrollback, fun _ => ⟨hrefund, hrefunded⟩⟩⟩
  | true => exact ⟨.rollback, hundoing _ ⟨hsettled, hrefund, by simp [hrollback.1]⟩⟩

variable (h : Undoing undo s o)
include h

lemma Undoing.idle (hidle : s.session.inFlight undo = false) : o = none := by
  simpa [hidle] using h.inFlight

/-- Until a refund is started or the session is settled, nothing was taken back. -/
lemma Undoing.balanced (hstarted : s.session.refundStarted = false)
    (hsettled : s.session.settled = false) :
    o = none ∧ Balanced s.session s.ledger ∧ (s.fundingRefunds = 0 ∧ s.tokenRefunds = 0) ∧
      s.session.NoRefund ∧ s.session.NoRollback ∧ s.session.refunded = false := by
  cases undo with
  | rollback => exact absurd h.phase.1 (by simp [hsettled])
  | refund =>
    obtain ⟨-, hrollback, hopen⟩ := h.phase
    obtain ⟨hrefund, hrefunded⟩ := hopen hstarted
    obtain ⟨-, hidle, hfunding, htoken⟩ := hrefund
    obtain rfl := h.idle hidle
    obtain ⟨h₀, hl, -⟩ := h.funding.resolve_right fun h' => by
      simp [fundingReturned, fundingDone, hfunding] at h'
    obtain ⟨h₀', hl', -⟩ := h.token.resolve_right fun h' => by
      simp [tokenReturned, tokenDone, htoken] at h'
    exact ⟨rfl, ⟨h.initialized, h.took, hl, hl', h.tokenConsumed htoken, h.tokenQuota, h.tokenFree⟩,
      ⟨h₀, h₀'⟩, h.phase.2.2 hstarted |>.1, hrollback, hrefunded⟩

lemma Undoing.settle (fate : Fate) (actualQuota : ℤ) : ∃ undo, Undoing undo { s with
        session := (s.session.settle (Ledger.stores fate) s.ledger actualQuota).session
        ledger := (s.session.settle (Ledger.stores fate) s.ledger actualQuota).store } o := by
  by_cases hclosed : s.session.refundStarted = true ∨ s.session.settled = true
  · rw [(settle_of_closed hclosed).1, (settle_of_closed hclosed).2]
    exact ⟨undo, h⟩
  simp only [not_or, Bool.not_eq_true] at hclosed
  obtain ⟨rfl, hbalanced, hcounts, hrefund, hrollback, hrefunded⟩ := h.balanced hclosed.1 hclosed.2
  obtain ⟨r, hr, hsettle⟩ := settle_of_open (Ledger.stores fate) hclosed.1 hclosed.2
    hrollback.1 hrefunded s.ledger actualQuota
  have hb : Balanced { s.session with progressPending := false } s.ledger :=
    { hbalanced with }
  obtain ⟨hb', funding, fundingQuota, tokenQuota, hsession, -⟩ := hb.applyTarget fate actualQuota
  rw [← hr] at hb' hsession
  rw [hsettle]
  rw [hsession] at hb' ⊢
  exact undoing_of_balanced { hb' with } hcounts hrefund hrollback hrefunded

lemma Undoing.settleProgress (fate : Fate) (delta : ℤ) : ∃ undo, Undoing undo { s with
        session := (s.session.settleProgress (Ledger.stores fate) s.ledger delta).session
        ledger := (s.session.settleProgress (Ledger.stores fate) s.ledger delta).store } o := by
  by_cases hclosed : s.session.refundStarted = true ∨ s.session.settled = true
  · rw [(settleProgress_of_closed hclosed).1, (settleProgress_of_closed hclosed).2]
    exact ⟨undo, h⟩
  simp only [not_or, Bool.not_eq_true] at hclosed
  obtain ⟨rfl, hbalanced, hcounts, hrefund, hrollback, hrefunded⟩ := h.balanced hclosed.1 hclosed.2
  obtain ⟨r, hr, hsettle⟩ := settleProgress_of_open (Ledger.stores fate) hclosed.1 hclosed.2
    hbalanced.initialized s.ledger delta
  have hb : Balanced { s.session with
      progressPending := true
      pendingProgressDelta := delta
      pendingProgressTarget := s.session.progressTarget delta } s.ledger :=
    { hbalanced with }
  obtain ⟨hb', funding, fundingQuota, tokenQuota, hsession, -⟩ :=
    hb.applyTarget fate (s.session.progressTarget delta)
  rw [← hr] at hb' hsession
  rw [hsettle]
  rw [hsession] at hb' ⊢
  exact undoing_of_balanced { hb' with } hcounts hrefund hrollback hrefunded

/-- Starting a refund: the worker is the only one, and reads the flags as they are. -/
lemma Undoing.refund :
    (o = none ∧ ∃ undo, Undoing undo { s with session := s.session.refund.1 } s.session.refund.2) ∨
      s.session.refund = (s.session, none) := by
  rw [BillingSession.refund]
  split_ifs with hguard
  · exact .inr rfl
  refine .inl ?_
  simp only [Bool.or_eq_true, not_or, Bool.not_eq_true] at hguard
  obtain ⟨⟨⟨hsettled, hrefunded⟩, hidle⟩, -⟩ := hguard
  cases undo with
  | rollback => exact absurd h.phase.1 (by simp [hsettled])
  | refund =>
    obtain rfl := h.idle hidle
    have hinit : s.session.initializeQuotaState = s.session := if_pos h.initialized
    rw [hinit]
    refine ⟨rfl, .refund, ?_⟩
    have hzero : s.session.relayInfo.isPlayground = true ∨ s.session.tokenConsumed ≤ 0 →
        s.session.refundTokenDone = false → s.session.tokenQuota = 0 := by
      rintro (hplayground | hle) hdone
      · exact h.tokenFree (by simp [tokenQuotaRequired, hplayground])
      · rw [h.tokenConsumed hdone] at hle
        exact le_antisymm hle h.tokenQuota
    exact { h with
      phase := ⟨hsettled, h.phase.2.1, fun h' => by cases h'⟩
      funding := by simpa [fundingReturned, fundingDone] using h.funding
      token := by
        have := h.token
        simp only [tokenReturned, tokenDone, Option.mem_def, reduceCtorEq, false_and,
          exists_false, or_false, Option.some.injEq, exists_eq_left', Bool.or_eq_true,
            decide_eq_true_eq,
          or_assoc] at this ⊢
        rcases this with ⟨h₀, hl, hfree⟩ | ⟨h₁, hl, hdone⟩
        · refine .inl ⟨h₀, hl, ?_⟩
          rintro (hdone | hnone)
          · exact hfree hdone
          · cases hdone : s.session.refundTokenDone with
            | true => exact hfree hdone
            | false => exact hzero hnone hdone
        · exact .inr ⟨h₁, hl, .inl hdone⟩
      tokenConsumed := fun h' => by
        simp only [tokenDone, Bool.or_eq_false_iff] at h'
        exact h.tokenConsumed h'.1.1
      inFlight := rfl
      refunded := fun h' => absurd h' (by simp [hrefunded])
      worker := by
        rintro _ ⟨⟩
        refine ⟨rfl, rfl, rfl, fun h' => ?_⟩
        simp only [Bool.or_eq_false_iff] at h'
        exact h.tokenConsumed h'.1.1 }

lemma Undoing.rollbackSettlement :
    (o = none ∧ ∃ undo, Undoing undo { s with session := s.session.rollbackSettlement.1 }
        s.session.rollbackSettlement.2) ∨ s.session.rollbackSettlement = (s.session, none) := by
  rw [BillingSession.rollbackSettlement]
  split_ifs with hdone hsettled hneeds hbusy
  · exact .inr rfl
  · exact h.refund
  · exact .inr rfl
  · exact .inr rfl
  refine .inl ?_
  simp only [Bool.not_eq_true'] at hsettled
  cases undo with
  | refund => exact absurd h.phase.1 (by simp [hsettled])
  | rollback =>
    obtain rfl := h.idle (Bool.eq_false_iff.2 hbusy)
    have hinit : s.session.initializeQuotaState = s.session := if_pos h.initialized
    rw [hinit]
    refine ⟨rfl, .rollback, ?_⟩
    exact { h with
      funding := by simpa [fundingReturned, fundingDone] using h.funding
      token := by simpa [tokenReturned, tokenDone] using h.token
      inFlight := rfl
      worker := by
        rintro _ ⟨⟩
        exact ⟨rfl, rfl, rfl, fun _ => rfl⟩ }

lemma Undoing.call {s' : SessionState} {o' : Option Worker} (hcall : SessionCall.Runs s s' o') :
    (o = none ∧ ∃ undo, Undoing undo s' o') ∨ (o' = none ∧ ∃ undo, Undoing undo s' o) := by
  obtain ⟨call, hcall⟩ := hcall
  cases call with
  | settleProgress delta fate =>
    cases hcall
    exact .inr ⟨rfl, h.settleProgress fate delta⟩
  | settle actualQuota fate =>
    cases hcall
    exact .inr ⟨rfl, h.settle fate actualQuota⟩
  | refund =>
    cases hcall
    refine h.refund.imp (fun h' => h') fun h' => ?_
    rw [h']
    exact ⟨rfl, undo, h⟩
  | rollbackSettlement =>
    cases hcall
    refine h.rollbackSettlement.imp (fun h' => h') fun h' => ?_
    rw [h']
    exact ⟨rfl, undo, h⟩

end

/-! ## Every run -/

/-- The session takes no more charges: it is settled, or being refunded. -/
def BillingSession.Closed (s : BillingSession) : Prop := s.refundStarted = true ∨ s.settled = true

/-- What holds at every point in the life of a session. -/
structure SessionSafe (p : Pool SessionState Worker) : Prop where
  funding : p.shared.fundingRefunds = 0 → p.shared.ledger.funding = p.shared.session.fundingQuota
  token : p.shared.tokenRefunds = 0 → p.shared.ledger.token = p.shared.session.tokenQuota
  fundingOnce : p.shared.fundingRefunds ≤ 1
  tokenOnce : p.shared.tokenRefunds ≤ 1
  refunded : p.shared.session.refunded = true ∨ p.shared.session.settlementRolledBack = true →
    p.shared.ledger = { funding := 0, token := 0 }
  /-- A session is closed as soon as anything is taken back, and stays so. -/
  closed : p.threads ≠ [] → p.shared.session.Closed
  noCharge : p.shared.session.Closed → ∀ q, Step SessionCall.Runs Worker.Steps p q →
    q.shared.session.Closed ∧ q.shared.ledger.funding ≤ p.shared.ledger.funding ∧
      q.shared.ledger.token ≤ p.shared.ledger.token

section

variable {undo : Undo} {s s' : SessionState} {w : Worker} {o : Option Worker}

lemma closed_of_call (hclosed : s.session.Closed) (hcall : SessionCall.Runs s s' o) :
    s'.session.Closed ∧ s'.ledger = s.ledger := by
  obtain ⟨call, hcall⟩ := hcall
  have hrefund : s.session.refund.1.Closed := by
    rw [refund]
    split_ifs
    · exact hclosed
    · exact .inl rfl
  cases call with
  | settleProgress delta fate =>
    cases hcall
    simpa [settleProgress_of_closed hclosed] using hclosed
  | settle actualQuota fate =>
    cases hcall
    simpa [settle_of_closed hclosed] using hclosed
  | refund =>
    cases hcall
    exact ⟨hrefund, rfl⟩
  | rollbackSettlement =>
    cases hcall
    refine ⟨?_, rfl⟩
    simp only [rollbackSettlement]
    split_ifs
    · exact hclosed
    · exact hrefund
    · exact hclosed
    · exact hclosed
    · simpa [initializeQuotaState, BillingSession.Closed, apply_ite] using hclosed

lemma Undoing.closed (h : Undoing undo s (some w)) : s.session.Closed := by
  cases undo with
  | rollback => exact .inr h.phase.1
  | refund =>
    by_contra hopen
    simp only [BillingSession.Closed, not_or, Bool.not_eq_true] at hopen
    obtain ⟨hnone, -⟩ := h.balanced hopen.1 hopen.2
    cases hnone

lemma Undoing.ledger_le (h : Undoing undo s (some w)) (hstep : WorkerStep s w s' o) :
    s'.session.Closed ∧ s'.ledger.funding ≤ s.ledger.funding ∧
      s'.ledger.token ≤ s.ledger.token := by
  have hclosed := h.closed
  have hmarks : (s.session.markFunding w.undo).Closed ∧ (s.session.markToken w.undo).Closed ∧
      (s.session.finish w.undo).Closed := by
    cases w.undo <;> exact ⟨hclosed, hclosed, hclosed⟩
  cases hstep with
  | skipFunding => exact ⟨hclosed, le_rfl, le_rfl⟩
  | returnFunding hstage hdone hrefund =>
    have hknows := (h.worker w rfl).2
    simp only [Worker.Knows, hstage] at hknows
    obtain ⟨-, hl, -⟩ := h.funding.resolve_right fun h' => by
      simp [fundingReturned_some, hstage, ← (h.worker w rfl).1, ← hknows.1, hdone] at h'
    obtain rfl := h.took.refund hl hrefund
    exact ⟨hclosed, hl ▸ h.took.nonneg, le_rfl⟩
  | markFunding => exact ⟨hmarks.1, le_rfl, le_rfl⟩
  | skipToken => exact ⟨hclosed, le_rfl, le_rfl⟩
  | freeToken => exact ⟨hclosed, le_rfl, le_rfl⟩
  | returnToken hstage hreturns =>
    simp only [Worker.returnsToken, Bool.and_eq_true, decide_eq_true_eq] at hreturns
    exact ⟨hclosed, le_rfl, by simpa using hreturns.1.2.le⟩
  | markToken => exact ⟨hmarks.2.1, le_rfl, le_rfl⟩
  | finish => exact ⟨hmarks.2.2, le_rfl, le_rfl⟩

lemma Undoing.sessionSafe (h : Undoing undo s o) : SessionSafe ⟨s, o.toList⟩ where
  funding h₀ := (h.funding.resolve_right fun h' => absurd (h'.1.symm.trans h₀) one_ne_zero).2.1
  token h₀ := (h.token.resolve_right fun h' => absurd (h'.1.symm.trans h₀) one_ne_zero).2.1
  fundingOnce := by
    rcases h.funding with h' | h' <;> simp [h'.1]
  tokenOnce := by
    rcases h.token with h' | h' <;> simp [h'.1]
  refunded hdone := by
    have hrefunded := hdone.elim (fun h' => h') fun hrolled => by
      cases undo with
      | refund => exact absurd hrolled (by simp [h.phase.2.1.1])
      | rollback => exact h.phase.2.2 hrolled
    obtain ⟨hfunding, htoken⟩ := h.refunded hrefunded
    have h₁ := (h.funding.resolve_left fun h' => h'.2.2 (.inl hfunding)).2.1
    have h₂ : s.ledger.token = 0 := by
      rcases h.token with h' | h'
      · rw [h'.2.1, h'.2.2 (.inl htoken)]
      · exact h'.2.1
    exact congrArg₂ Ledger.mk h₁ h₂
  closed hthreads := by
    cases o with
    | none => exact absurd rfl hthreads
    | some w => exact h.closed
  noCharge hclosed q hstep := by
    rcases hstep.of_toList with ⟨s', o', hcall, rfl⟩ | ⟨w, s', o', rfl, hmove, rfl⟩
    · obtain ⟨hc, hl⟩ := closed_of_call hclosed hcall
      exact ⟨hc, (congrArg _ hl).le, (congrArg _ hl).le⟩
    · exact h.ledger_le hmove.workerStep

end

/-- A session that was charged, and neither settled nor refunded. -/
structure OpenSession (s : BillingSession) (l : Ledger) : Prop where
  balanced : Balanced s l
  settled : s.settled = false
  refunded : s.refunded = false
  noRefund : s.NoRefund
  noRollback : s.NoRollback

/-- A session after the charge in advance, and before it. -/
structure Precharge (s₀ s : BillingSession) (l : Ledger) : Prop extends OpenSession s l where
  relayInfo : s.relayInfo = s₀.relayInfo
  source : s.funding.isSubscription = s₀.funding.isSubscription
  ledger : l = ⟨s.preConsumedQuota, if s.tokenQuotaRequired then s.preConsumedQuota else 0⟩

section

variable {fate : Fate} {s₀ s : BillingSession} {l : Ledger} {quota effectiveQuota : ℤ}

lemma Precharge.shouldTrust (h : Precharge s₀ s l) : s.shouldTrust = s₀.shouldTrust := by
  rw [BillingSession.shouldTrust, h.relayInfo, h.source]
  rfl

/-- A new session takes the amount from its source, and from a token that is charged with it. -/
lemma charged_of_preConsume {source : FundingSource}
    (hs₀ : s₀ = { relayInfo := s₀.relayInfo, funding := source })
    (hsource : source = .wallet {} ∨ ∃ f, source = .subscription f ∧ f.amount = effectiveQuota)
    (heffective : (if s₀.shouldTrust then 0 else quota) = effectiveQuota)
    (h : s₀.preConsume (Ledger.stores fate) {} quota = ⟨none, s, l⟩) :
    s.preConsumedQuota = effectiveQuota ∧ (0 ≤ effectiveQuota → Precharge s₀ s l) := by
  generalize s₀.relayInfo = relayInfo at hs₀
  subst hs₀
  obtain ⟨_, s₁, l₁, funding, rfl, hreserve, htake, rfl⟩ := preConsume_eq_none h
  rw [heffective] at hreserve htake ⊢
  refine ⟨rfl, fun hnonneg => ?_⟩
  obtain ⟨rfl, rfl⟩ := reserveToken_eq_ok hnonneg rfl rfl hreserve
  obtain ⟨htook, rfl, hsame⟩ := took_of_preConsume hsource hnonneg rfl htake
  have hrequired : (!relayInfo.isPlayground && !source.isSubscription) =
      (!relayInfo.isPlayground && !funding.isSubscription) := by rw [hsame]
  simp only [tokenQuotaRequired, hrequired]
  refine ⟨⟨⟨rfl, htook, rfl, rfl, rfl, ?_, fun hfree => if_neg (Bool.eq_false_iff.1 hfree)⟩, rfl,
    rfl, ⟨rfl, rfl, rfl, rfl⟩, ⟨rfl, rfl, rfl, rfl⟩⟩, rfl, hsame, rfl⟩
  split_ifs
  exacts [hnonneg, le_rfl]

/-- A subscription is never trusted. -/
lemma subscriptionSession_pays {relayInfo : RelayInfo} {requestId modelName : String}
    {userId amount : ℤ} :
    (if (subscriptionSession relayInfo requestId userId modelName quota).shouldTrust then 0
      else amount) = amount :=
  if_neg (by simp [shouldTrust, subscriptionSession, FundingSource.isSubscription])

lemma AdvanceCharge.Opens.openSession {charge : AdvanceCharge} (h : charge.Opens fate s l)
    (hnonneg : charge.Nonneg) : OpenSession s l := by
  cases charge with
  | wallet relayInfo quota =>
    refine ((charged_of_preConsume rfl (.inl rfl) rfl h).2 ?_).toOpenSession
    split_ifs with htrust
    exacts [le_rfl, hnonneg.resolve_right htrust]
  | subscription relayInfo requestId userId modelName quota =>
    have hpays := @subscriptionSession_pays quota relayInfo requestId modelName userId
      (subConsume quota)
    exact ((charged_of_preConsume rfl (.inr ⟨_, rfl, rfl⟩) hpays h).2
      subConsume_pos.le).toOpenSession

/-- A session that counts an amount below zero as taken, though nothing is. -/
def undercharged (relayInfo : RelayInfo) (quota : ℤ) : BillingSession :=
  { walletSession relayInfo with
    preConsumedQuota := quota
    fundingQuota := quota
    quotaStateInitialized := true }

/-- A charge below zero goes through without a store being asked. -/
lemma preConsume_of_neg {relayInfo : RelayInfo}
    (htrust : (walletSession relayInfo).shouldTrust = false) (hneg : quota < 0) :
    (walletSession relayInfo).preConsume (Ledger.stores fate) l quota =
      ⟨none, undercharged relayInfo quota, l⟩ := by
  have hreserve : (walletSession relayInfo).reserveToken (Ledger.stores fate) l quota =
      .ok (walletSession relayInfo, l) := if_neg fun h => absurd h.1 hneg.not_gt
  have hfunding : (walletSession relayInfo).funding.preConsume (Ledger.stores fate) l quota =
      .ok (.wallet {}, l) := by
    simp [walletSession, FundingSource.preConsume, WalletFunding.preConsume, hneg.le, Except.map]
  simp only [preConsume, htrust, Bool.false_eq_true, if_false, hreserve, hfunding]
  rfl

lemma AdvanceCharge.Opens.eq_undercharged {charge : AdvanceCharge} (h : charge.Opens fate s l)
    (hneg : ¬charge.Nonneg) :
    ∃ relayInfo quota, quota < 0 ∧ s = undercharged relayInfo quota ∧ l = {} := by
  obtain ⟨hamount, htrust⟩ := not_or.1 hneg
  cases charge with
  | wallet relayInfo quota =>
    have hquota : quota < 0 := not_le.1 hamount
    have htrust : (walletSession relayInfo).shouldTrust = false := Bool.eq_false_iff.2 htrust
    rw [Opens, session, amount, preConsume_of_neg htrust hquota] at h
    cases h
    exact ⟨relayInfo, quota, hquota, rfl, rfl⟩
  | subscription => exact absurd subConsume_pos.le hamount

end

/-- **Safety of a session.** Whatever calls are made on a session that was charged in advance, and
    whichever store operations fail: the session is safe in every state that is reached, exactly
    if the charge is not below zero. -/
theorem sessionSafe_iff {charge : AdvanceCharge} {fate : Fate} {s : BillingSession} {l : Ledger}
    (hopens : charge.Opens fate s l) :
    (∀ p, SessionRun ⟨⟨s, l, 0, 0⟩, []⟩ p → SessionSafe p) ↔ charge.Nonneg := by
  refine ⟨fun hsafe => ?_, fun hnonneg p hrun => ?_⟩
  · -- A charge below zero is counted as taken from the beginning.
    by_contra hneg
    obtain ⟨relayInfo, quota, hquota, rfl, rfl⟩ := hopens.eq_undercharged hneg
    have hfunding : 0 = quota := (hsafe _ .refl).funding rfl
    exact hquota.ne hfunding.symm
  · -- A session that has been charged in advance is balanced.
    have ho := hopens.openSession hnonneg
    obtain ⟨undo, hundoing⟩ : ∃ undo, Undoing undo ⟨s, l, 0, 0⟩ none :=
      undoing_of_balanced ho.balanced ⟨rfl, rfl⟩ ho.noRefund ho.noRollback ho.refunded
    obtain ⟨s', o, rfl, undo', hundoing'⟩ := Run.exclusive (fun s o => ∃ undo, Undoing undo s o)
      (fun ⟨_, h⟩ hcall => h.call hcall)
      (fun ⟨undo, h⟩ hmove => ⟨undo, h.workerStep hmove.workerStep⟩)
      hrun ⟨_, none, rfl, undo, hundoing⟩
    exact hundoing'.sessionSafe

namespace Retried

def working : Fate := { wallet := some ⟨100, 4⟩, token := true }

def tokenDown : Fate := { wallet := some ⟨90, 0⟩, token := false }

def opened : Outcome Ledger Unit := (walletSession {}).preConsume (Ledger.stores working) {} 10

/-- The settlement at `25` fails on the token; the refund gives the wallet back,
    fails on the token, and is repeated. -/
def schedule : List (Action SessionCall Fate) :=
  [.call (.settle 25 tokenDown), .call .refund, .move 0 working, .move 0 working, .move 0 tokenDown,
    .move 0 working, .call .refund, .move 0 working, .move 0 working, .move 0 working,
      .move 0 working]

def start : Pool SessionState Worker := ⟨⟨opened.session, opened.store, 0, 0⟩, []⟩

def final : Pool SessionState Worker :=
  (play (fun call s => call.run s) (fun fate s w => w.step fate s) start schedule).getD start

end Retried

/-- A refund whose first attempt fails gives everything back once. -/
theorem sessionSafe_of_retried_refund :
    SessionRun Retried.start Retried.final ∧ Retried.start.shared.ledger = ⟨10, 10⟩ ∧
      Retried.final.threads = [] ∧ Retried.final.shared.session.refunded = true ∧
      Retried.final.shared.fundingRefunds = 1 ∧ SessionSafe Retried.final := by
  have hopens : (AdvanceCharge.wallet {} 10).Opens Retried.working Retried.opened.session
      Retried.opened.store := by
    rw [AdvanceCharge.Opens]
    decide +kernel
  have hplay : play (fun call s => SessionCall.run s call) (fun fate s w =>
    w.step fate s) Retried.start
      Retried.schedule = some Retried.final := by decide +kernel
  have hrun := run_of_play hplay
  exact ⟨hrun, by decide +kernel, by decide +kernel, by decide +kernel, by decide +kernel,
    (sessionSafe_iff hopens).2 (.inl (by decide)) _ hrun⟩

/-- After a charge of `-5` a settlement at `10` takes `15`. -/
theorem session_below_zero_overcharged :
    let opened := (walletSession {}).preConsume (Ledger.stores Retried.working) {} (-5)
    (AdvanceCharge.wallet {} (-5)).Opens Retried.working opened.session opened.store ∧
      ∃ p, SessionRun ⟨⟨opened.session, opened.store, 0, 0⟩, []⟩ p ∧ p.shared.fundingRefunds = 0 ∧
        p.shared.ledger.funding = 15 ∧ p.shared.session.fundingQuota = 10 ∧ ¬SessionSafe p := by
  intro opened
  refine ⟨by rw [AdvanceCharge.Opens]; decide +kernel, ?_⟩
  let start : Pool SessionState Worker := ⟨⟨opened.session, opened.store, 0, 0⟩, []⟩
  let after := play (fun call s => SessionCall.run s call) (fun fate s w => w.step fate s) start
    [.call (.settle 10 Retried.working)]
  have hplay : after = some (after.getD start) := by decide +kernel
  have hrefunds : (after.getD start).shared.fundingRefunds = 0 := by decide +kernel
  exact ⟨_, run_of_play hplay, hrefunds, by decide +kernel, by decide +kernel,
    fun hsafe => absurd (hsafe.funding hrefunds) (by decide +kernel)⟩

end Allrouter
