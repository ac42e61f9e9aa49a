import Allrouter.Billing.Funding
import Allrouter.Library.Durable

/-!
# Billing of asynchronous tasks

A task is charged when it is submitted, and its charge is settled when it has come to
an end: at what it turned out to cost, or at nothing if it failed. Funding and token
quota are in different stores, so a settlement moves one after the other, and
writes down in the row of the task how far it has come
(`settleTaskBillingTarget`). A settlement that stopped halfway is taken up again from
that *checkpoint* (`retryPendingTaskBilling`).

The functions are programs that commit to the stores and to the row
(`Durable.Program`). In between they work on the task as they have it in memory.
-/

namespace Allrouter

open Durable Text Program

/-! ## Tasks -/

/-- The status of a task, which may be any text that the upstream service reports. -/
inductive TaskStatus
  | notStart
  | dispatching
  | submitted
  | queued
  | inProgress
  | failure
  | success
  | unknown
  | other (text : String)
  deriving DecidableEq

/-- Where a task is paid from; older tasks do not tell. -/
inductive BillingSource
  | wallet
  | subscription
  | unset
  deriving DecidableEq

/-- The private data in the row of a task, for the most part on its billing. -/
structure TaskPrivateData where
  (upstreamTaskID resultURL : String := "")
  autoDLResultUploadFailures : ℤ := 0
  (miniMaxH3UpscaleTaskID miniMaxH3UpscaleStatus miniMaxH3UpscaleURL : String := "")
  miniMaxH3PersistFailures : ℤ := 0
  billingSource : BillingSource := .unset
  subscriptionId : ℤ := 0
  subscriptionRequestId : String := ""
  /-- What was reserved on the subscription when the task was submitted. -/
  subscriptionPreConsumed : ℤ := 0
  tokenId : ℤ := 0
  /-- The provider in the billing context, zero if there is none. -/
  billingContextProviderId : ℤ := 0
  /-- The parts of the wallet that the charge was taken from are known. -/
  walletQuotaBreakdownRecorded : Bool := false
  (walletRewardUsed walletPaidUsed : ℤ := 0)
  (consumeRebateSettled billingSettlementPending : Bool := false)
  (billingSettlementTarget billingSettlementFundingAmount billingSettlementTokenAmount : ℤ := 0)
  (billingSettlementFundingDone billingSettlementTokenDone billingRefunded : Bool := false)
  deriving DecidableEq

/-- The row of a task. -/
structure Task where
  status : TaskStatus
  quota : ℤ
  (action failReason : String := "")
  (submitTime startTime finishTime : ℤ := 0)
  (progress originModelName : String := "")
  privateData : TaskPrivateData := {}
  data : String := ""
  deriving DecidableEq

/-- What is durable of a task: its row, and the stores. -/
structure TaskWorld (σ : Type) where
  row : Task
  store : σ
  deriving DecidableEq

/-- What a settlement commits: a checkpoint to the row, or a change to one of the stores. -/
inductive TaskCommit
  | checkpoint
  | funding
  | token
  deriving DecidableEq

/-- Why a settlement or a refund stops. -/
inductive TaskError (ε : Type)
  | store (e : ε)
  /-- "actual quota must be >= 0" -/
  | negativeTarget
  /-- "task wallet refund exceeds consumed quota: refund=…, consumed=…" -/
  | refundExceedsConsumed (refund consumed : ℤ)
  /-- "task reward refund exceeds consumed reward quota: refund=…, consumed=…" -/
  | rewardRefundExceedsConsumed (refund consumed : ℤ)
  deriving DecidableEq

abbrev TaskProgram (σ ε α : Type) := Program TaskCommit (TaskWorld σ) (TaskError ε) α

namespace Task

variable (task : Task)

def isSubscription : Bool :=
  task.privateData.billingSource = .subscription && task.privateData.subscriptionId > 0

/-- The token of a task counts it, unless a subscription pays. -/
def tokenQuotaRequired : Bool :=
  task.privateData.billingSource ≠ .subscription && task.privateData.tokenId > 0

/-- What there is to give back for a task. A subscription keeps its reservation where the
    submission came out at a quota of zero. -/
def refundQuota : ℤ :=
  if task.quota > 0 then task.quota
  else if !task.isSubscription || task.privateData.subscriptionPreConsumed ≤ 0 then 0
  else min task.privateData.subscriptionPreConsumed maxInt64

/-- What a settlement at the end of a task starts from. -/
def preConsumedQuota : ℤ :=
  if task.quota ≤ 0 ∧ task.isSubscription then task.refundQuota else task.quota

end Task

/-! ## The two sides -/

section

variable {σ ε : Type} (stores : BillingStores σ ε)

/-- A change of the stores, after which the task in memory is `task`. -/
def commitStore (side : TaskCommit) (task : Task) (f : σ → Except ε σ) : TaskProgram σ ε Task :=
  commit side fun w =>
    match f w.store with
    | .error e => .error (.store e)
    | .ok x => .ok (task, { w with store := x })

/-- The row with the quota and the billing data of a task. -/
def TaskWorld.persist (w : TaskWorld σ) (task : Task) : TaskWorld σ :=
  { w with row := { w.row with quota := task.quota, privateData := task.privateData } }

variable (task : Task)

def persistTaskBillingState : TaskProgram σ ε Task :=
  commit .checkpoint fun w => .ok (task, w.persist task)

def Task.withParts (reward paid : ℤ) : Task :=
  { task with privateData := { task.privateData with
      walletRewardUsed := reward
      walletPaidUsed := paid } }

/-- Takes `delta` from the wallet, the reward part first. -/
def taskChargeWallet (delta : ℤ) : TaskProgram σ ε Task :=
  let data := task.privateData
  commit .funding fun w =>
    match stores.decreaseUserQuotaPreferReward w.store delta with
    | .error e => .error (.store e)
    | .ok (b, x) =>
      .ok (if data.walletQuotaBreakdownRecorded then
          task.withParts (data.walletRewardUsed + b.rewardUsed) (data.walletPaidUsed + b.paidUsed)
        else task, { w with store := x })

/-- Gives `refundTotal` back to the wallet by the parts it was taken from, the paid one
    first. An older task does not know the parts. -/
def taskRefundWallet (refundTotal : ℤ) : TaskProgram σ ε Task :=
  let data := task.privateData
  let consumedTotal := data.walletRewardUsed + data.walletPaidUsed
  let paidRefund := min refundTotal data.walletPaidUsed
  let rewardRefund := refundTotal - paidRefund
  if !data.walletQuotaBreakdownRecorded then
    commitStore .funding task (stores.increaseUserQuota · refundTotal)
  else if refundTotal > consumedTotal then .fail (.refundExceedsConsumed refundTotal consumedTotal)
  else if rewardRefund > data.walletRewardUsed then
    .fail (.rewardRefundExceedsConsumed rewardRefund data.walletRewardUsed)
  else
    commitStore .funding
      (task.withParts (data.walletRewardUsed - rewardRefund) (data.walletPaidUsed - paidRefund))
      (stores.increaseUserQuotaByBreakdown · refundTotal rewardRefund)

/-- Takes `delta` more from what pays for the task, or gives `-delta` back. -/
def taskAdjustFunding (delta : ℤ) : TaskProgram σ ε Task :=
  let data := task.privateData
  if task.isSubscription then
    let requestId := trimSpace data.subscriptionRequestId
    if requestId ≠ "" then
      commitStore .funding task (stores.adjustSubscriptionPreConsume · requestId delta)
    else commitStore .funding task
      (stores.postConsumeUserSubscriptionDelta · data.subscriptionId delta)
  else if delta > 0 then taskChargeWallet stores task delta
  else if delta = 0 then pure task
  else taskRefundWallet stores task (-delta)

/-- Counts `delta` more on the token of the task, or gives `-delta` back. A token that was
    deleted since is passed over. -/
def taskAdjustTokenQuota (delta : ℤ) : TaskProgram σ ε Task :=
  if !task.tokenQuotaRequired || delta = 0 then pure task
  else do
    let w ← get
    if !stores.tokenFound w.store then pure task
    else if delta > 0 then commitStore .token task (stores.decreaseTokenQuota · delta)
    else commitStore .token task (stores.increaseTokenQuota · (-delta))

/-! ## The settlement -/

/-- The checkpoint of a settlement at `target` that has come to `funding` and `token`. -/
def Task.checkpoint (target funding token : ℤ) : Task :=
  { task with privateData := { task.privateData with
      billingSettlementPending := true
      billingSettlementTarget := target
      billingSettlementFundingAmount := funding
      billingSettlementTokenAmount := token
      billingSettlementFundingDone := funding = target
      billingSettlementTokenDone := token = target || !task.tokenQuotaRequired } }

/-- Starts a settlement at `target`, from `current` on both sides. A checkpoint that is
    there stays. -/
def initializeTaskBillingSettlementAt (current target : ℤ) : TaskProgram σ ε Task :=
  if task.privateData.billingSettlementPending then pure task
  else persistTaskBillingState (task.checkpoint target current current)

def clearTaskBillingSettlement : Task :=
  { task with privateData := { task.privateData with
      billingSettlementPending := false
      billingSettlementTarget := 0
      billingSettlementFundingAmount := 0
      billingSettlementTokenAmount := 0
      billingSettlementFundingDone := false
      billingSettlementTokenDone := false } }

/-- The checkpoint that leads to `target`: a pending settlement keeps what it has come to. -/
def retargetTaskBillingSettlement (target : ℤ) : TaskProgram σ ε Task :=
  let data := task.privateData
  if data.billingSettlementPending then
    if data.billingSettlementTarget ≠ target then
      persistTaskBillingState (task.checkpoint target data.billingSettlementFundingAmount
        data.billingSettlementTokenAmount)
    else pure task
  else initializeTaskBillingSettlementAt task task.quota target

/-- Moves the funds to the target, and marks that. -/
def settleTaskFunding (target : ℤ) : TaskProgram σ ε Task :=
  if task.privateData.billingSettlementFundingDone then pure task
  else do
    let task ← taskAdjustFunding stores task
      (target - task.privateData.billingSettlementFundingAmount)
    persistTaskBillingState { task with privateData := { task.privateData with
      billingSettlementFundingAmount := target
      billingSettlementFundingDone := true } }

def settleTaskToken (target : ℤ) : TaskProgram σ ε Task :=
  if task.privateData.billingSettlementTokenDone then pure task
  else do
    let task ← taskAdjustTokenQuota stores task
      (target - task.privateData.billingSettlementTokenAmount)
    persistTaskBillingState { task with privateData := { task.privateData with
      billingSettlementTokenAmount := target
      billingSettlementTokenDone := true } }

/-- Brings funding and token quota to `target`, each followed by a checkpoint. -/
def settleTaskBillingTarget (target : ℤ) : TaskProgram σ ε Task :=
  if target < 0 then .fail .negativeTarget
  else do
    let task ← retargetTaskBillingSettlement task target
    let task ← settleTaskFunding stores task target
    settleTaskToken stores task target

/-! ## The calls -/

/-- The checkpoint a refund starts from. A pending settlement is given back from where it
    has come to on each side. -/
def startTaskRefund : TaskProgram σ ε Task :=
  let data := task.privateData
  if data.billingSettlementPending then
    persistTaskBillingState (task.checkpoint 0 data.billingSettlementFundingAmount
      data.billingSettlementTokenAmount)
  else
    initializeTaskBillingSettlementAt task
      (if task.quota > 0 then task.quota else task.refundQuota) 0

/-- What a refund finds to give back: a checkpoint may have come further than the quota. -/
def Task.pendingRefundQuota : ℤ :=
  let data := task.privateData
  if data.billingSettlementPending then
    max (max task.refundQuota data.billingSettlementFundingAmount) data.billingSettlementTokenAmount
  else task.refundQuota

/-- Marks the task as refunded, and then its rebate as settled. -/
def finishTaskRefund : TaskProgram σ ε Task := do
  let cleared := clearTaskBillingSettlement task
  let task ← persistTaskBillingState
    { cleared with privateData := { cleared.privateData with billingRefunded := true } }
  if task.privateData.walletQuotaBreakdownRecorded then
    persistTaskBillingState
      { task with privateData := { task.privateData with consumeRebateSettled := true } }
  else pure task

/-- Gives the charge of a task that has failed back, and marks it as refunded. -/
def refundTaskQuota : TaskProgram σ ε Task :=
  if task.privateData.billingRefunded then pure task
  else if task.pendingRefundQuota ≤ 0 then pure task
  else do
    let task ← startTaskRefund task
    let task ← settleTaskBillingTarget stores task 0
    finishTaskRefund task

/-- Ends a settlement at `quota`. -/
def finishTaskSettlement (quota : ℤ) : TaskProgram σ ε Task :=
  persistTaskBillingState { clearTaskBillingSettlement task with quota := quota }

/-- Settles a task at what it turned out to cost, unless that is nothing. -/
def recalculateTaskQuota (actualQuota : ℤ) : TaskProgram σ ε Task :=
  if actualQuota ≤ 0 then pure task
  else if actualQuota - task.preConsumedQuota = 0 then
    if task.quota ≠ actualQuota then persistTaskBillingState { task with quota := actualQuota }
    else pure task
  else do
    let data := task.privateData
    let settlementCurrent :=
      if data.billingSettlementPending then data.billingSettlementFundingAmount
      else task.preConsumedQuota
    let task ← initializeTaskBillingSettlementAt task settlementCurrent actualQuota
    let task ← settleTaskBillingTarget stores task actualQuota
    finishTaskSettlement task actualQuota

/-- Takes up the settlement of a task that has come to an end. -/
def retryPendingTaskBilling : TaskProgram σ ε Task :=
  let data := task.privateData
  if !data.billingSettlementPending then pure task
  else match task.status with
    | .failure => refundTaskQuota stores task
    | .success =>
      if data.billingSettlementTarget < 0 then pure task
      else if data.billingSettlementTarget = 0 then do
        let task ← settleTaskBillingTarget stores task 0
        finishTaskSettlement task 0
      else recalculateTaskQuota stores task data.billingSettlementTarget
    | _ => pure task

end

end Allrouter
