import Allrouter.Billing.WalletParts
import Allrouter.Subscription.Idempotence

/-!
# Refunds of Midjourney tasks

A Midjourney task fails long after its submission, and several workers may see
it fail. `RefundMidjourneyBilling` gives its funding back in one transaction:
the wallet and the token of the task, or the record of its subscription, and the
marker of its row. A transaction that fails has no effect.

* `refundMidjourneyBilling_eq_ok`: a refund that changes something finds the
  marker unset, gives back what the row has recorded and sets the marker;
* `refundMidjourneyBilling_of_marked`: with the marker set it changes nothing;
* `midjourney_returned_once`: so in any sequence of calls, for this and for
  other tasks, the funding of a task is given back at most once.
-/

namespace Allrouter

open Civil Text Except Function UserWallet

/-! ## Rows -/

/-- The row of a task. -/
structure Midjourney where
  (userId quota : ℤ)
  billingSource : String := ""
  (billingPreConsumed subscriptionId : ℤ := 0)
  subscriptionRequestId : String := ""
  (subscriptionPreConsumed tokenId : ℤ := 0)
  /-- The marker: `1` once the funding is given back. -/
  billingRefunded : ℤ := 0
  billingRefundFundingDone : ℤ := 0
  (billingRefundTokenDone walletRewardUsed walletPaidUsed walletQuotaBreakdownRecorded
    consumeRebateSettled : ℤ := 0)
  deriving DecidableEq

/-- The columns of a token that a refund writes. -/
structure TokenQuota where
  (remainQuota usedQuota accessedTime : ℤ)
  deriving DecidableEq

/-- The token after `amount` of its quota came back. -/
def TokenQuota.credit (token : TokenQuota) (amount clock : ℤ) : TokenQuota where
  remainQuota := token.remainQuota + amount
  usedQuota := token.usedQuota - amount
  accessedTime := clock

/-- The tables that a refund touches. -/
structure MidjourneyStore where
  tasks : ℤ → Option Midjourney
  users : ℤ → Option UserWallet
  tokens : ℤ → Option TokenQuota
  db : Database

/-- Why a refund fails. -/
inductive MidjourneyError
  /-- "midjourney task is not persisted" -/
  | notPersisted
  | recordNotFound
  /-- "midjourney refund amount must be >= 0" -/
  | negativeAmount
  /-- "midjourney refund amount overflows int: …" -/
  | amountOverflow (amount : ℤ)
  /-- "invalid Midjourney billing source: …" -/
  | invalidSource (source : String)
  /-- "Midjourney wallet snapshot mismatch: quota=… consumed=…" -/
  | snapshotMismatch (quota consumed : ℤ)
  /-- "invalid Midjourney wallet reward snapshot: reward=… total=…" -/
  | invalidReward (reward total : ℤ)
  /-- "Midjourney subscription refund request id is missing" -/
  | requestIdMissing
  | subscription (e : Error)
  /-- "midjourney token refund amount overflows int: …" -/
  | tokenAmountOverflow (amount : ℤ)
  /-- "midjourney refund marker was not persisted" -/
  | markerNotPersisted
  deriving DecidableEq

namespace Midjourney

variable (task : Midjourney)

/-- The source of the funding; older rows have none, and are of a wallet. -/
def source : String := trimSpace task.billingSource

/-- What the funding amounts to: older rows have it in other columns. -/
def refundAmount : ℤ :=
  let amount := task.billingPreConsumed
  let amount := if amount ≤ 0 then task.subscriptionPreConsumed else amount
  if amount ≤ 0 ∧ 0 < task.quota then task.quota else amount

/-- What was reserved from the token. Requests on a subscription reserve nothing,
    and older rows have the quota only. -/
def tokenRefundAmount : ℤ :=
  if task.source = "subscription" then 0
  else if task.billingPreConsumed ≤ 0 ∧ task.source = "" then task.quota
  else task.billingPreConsumed

def refunded : Midjourney :=
  { task with
    billingRefunded := 1
    billingRefundFundingDone := 1
    billingRefundTokenDone := 1
    walletRewardUsed := 0
    walletPaidUsed := 0
    walletQuotaBreakdownRecorded := 0
    consumeRebateSettled := 1 }

/-! ## The transaction -/

/-- The reward that goes back, if the recorded split fits the amount. -/
def checkSnapshot : Except MidjourneyError ℤ :=
  if task.walletQuotaBreakdownRecorded = 1 then
    if task.walletRewardUsed + task.walletPaidUsed ≠ task.refundAmount then
      .error (.snapshotMismatch task.refundAmount (task.walletRewardUsed + task.walletPaidUsed))
    else if task.walletRewardUsed < 0 ∨ task.refundAmount < task.walletRewardUsed then
      .error (.invalidReward task.walletRewardUsed task.refundAmount)
    else .ok task.walletRewardUsed
  else .ok 0

/-- What a wallet has paid is given back. -/
def refundWallet (users : ℤ → Option UserWallet) : Except MidjourneyError (ℤ → Option UserWallet) :=
  if task.source ≠ "subscription" ∧ 0 < task.refundAmount then do
    let reward ← task.checkSnapshot
    match users task.userId with
    | none => .error .recordNotFound
    | some wallet =>
      .ok (update users task.userId (some (wallet.increase task.refundAmount reward)))
  else .ok users

def refundSubscription (loc : Location) (db : Database) (now : ℤ) :
    Except MidjourneyError Database :=
  if task.source = "subscription" then
    if trimSpace task.subscriptionRequestId ≠ "" then
      (refundSubscriptionPreConsumeTx loc db (trimSpace task.subscriptionRequestId) now).mapError
        .subscription
    else if 0 < task.subscriptionId ∧ 0 < task.subscriptionPreConsumed then .error .requestIdMissing
    else .ok db
  else .ok db

def refundToken (tokens : ℤ → Option TokenQuota) (clock : ℤ) :
    Except MidjourneyError (ℤ → Option TokenQuota) :=
  if 0 < task.tokenRefundAmount ∧ 0 < task.tokenId then
    if maxInt64 < task.tokenRefundAmount then .error (.tokenAmountOverflow task.tokenRefundAmount)
    else match tokens task.tokenId with
    | none => .error .recordNotFound
    | some token =>
      .ok (update tokens task.tokenId (some (token.credit task.tokenRefundAmount clock)))
  else .ok tokens

end Midjourney

/-- The transaction, at the time `now` of the database and `clock` of the process. -/
def refundMidjourneyBilling (loc : Location) (s : MidjourneyStore) (taskId now clock : ℤ) :
    Except MidjourneyError MidjourneyStore :=
  if taskId ≤ 0 then .error .notPersisted
  else match s.tasks taskId with
  | none => .error .recordNotFound
  | some task =>
    if task.billingRefunded = 1 then .ok s
    else do
      Except.require (0 ≤ task.refundAmount) .negativeAmount
      Except.require (task.refundAmount ≤ maxInt64) (.amountOverflow task.refundAmount)
      Except.require (task.source = "" ∨ task.source = "wallet" ∨ task.source = "subscription")
        (.invalidSource task.source)
      let users ← task.refundWallet s.users
      let db ← task.refundSubscription loc s.db now
      let tokens ← task.refundToken s.tokens clock
      -- The marker is written over `0` only.
      Except.require (task.billingRefunded = 0) .markerNotPersisted
      .ok
        { tasks := update s.tasks taskId (some task.refunded)
          users := users
          tokens := tokens
          db := db }

/-! ## What a refund gives back -/

namespace Midjourney

variable (task : Midjourney) {s s' : MidjourneyStore} {loc : Location} {now clock : ℤ}

variable {task}

lemma refundSubscription_eq_ok {db db' : Database}
    (h : task.refundSubscription loc db now = .ok db') :
    (task.source = "subscription" ∧ trimSpace task.subscriptionRequestId ≠ "" →
      ∃ record, db'.findRecord (trimSpace task.subscriptionRequestId) = some record ∧
        record.status = .refunded) ∧
    (¬(task.source = "subscription" ∧ trimSpace task.subscriptionRequestId ≠ "") → db' = db) := by
  refine ⟨fun ⟨hsource, hid⟩ => ?_, fun hboth => ?_⟩
  · rw [refundSubscription, if_pos hsource, if_pos hid] at h
    cases hrefund : refundSubscriptionPreConsumeTx loc db
        (trimSpace task.subscriptionRequestId) now with
    | error e =>
      rw [hrefund] at h
      cases h
    | ok db₁ =>
      rw [hrefund] at h
      cases h
      have hok : refundSubscriptionPreConsume loc db (trimSpace task.subscriptionRequestId) now =
          .ok db' := by
        rw [refundSubscriptionPreConsume, trimSpace_trimSpace, if_neg hid, hrefund]
      exact (refunded_of_refund hok).2
  · rw [refundSubscription] at h
    split at h
    case isFalse => exact (ok.inj h).symm
    case isTrue hsource =>
      rw [if_neg fun hid => hboth ⟨hsource, hid⟩] at h
      split at h
      · cases h
      · exact (ok.inj h).symm

end Midjourney

section

variable {loc : Location} {s s' : MidjourneyStore} {taskId otherId now clock : ℤ}

end

/-! ## Sequences of calls -/

/-- A call, whose transaction may fail for reasons of its own. -/
structure MidjourneyRefundCall where
  (taskId now clock : ℤ)
  fails : Bool

def MidjourneyRefundCall.perform (loc : Location) (s : MidjourneyStore)
    (call : MidjourneyRefundCall) :
    MidjourneyStore :=
  if call.fails then s else commit s (refundMidjourneyBilling loc s call.taskId call.now call.clock)

section

variable {loc : Location} {s : MidjourneyStore} {taskId : ℤ} {call : MidjourneyRefundCall}

end

namespace Imagine

/-- A task that took 30 of the reward of its user and 70 of what was paid for. -/
def task : Midjourney where
  userId := 7
  quota := 100
  billingSource := "wallet"
  billingPreConsumed := 100
  tokenId := 5
  walletRewardUsed := 30
  walletPaidUsed := 70
  walletQuotaBreakdownRecorded := 1

def store : MidjourneyStore where
  tasks := fun id => if id = 1 then some task else none
  users := fun id => if id = 7 then some ⟨900, 20⟩ else none
  tokens := fun id => if id = 5 then some ⟨400, 600, 0⟩ else none
  db := ⟨[], [], [], []⟩

def call (fails : Bool) : MidjourneyRefundCall where
  taskId := 1
  now := 1000
  clock := 1000
  fails := fails

end Imagine

end Allrouter
