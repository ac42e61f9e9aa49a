import Allrouter.Subscription.Usage

/-!
# Charging requests to subscriptions

The operations on the tables of the subscriptions. Each of them runs in one
transaction: it maps the tables to those it commits, and an error leaves them as
they were. A request is charged in advance (`preConsumeUserSubscription`), which
leaves a record; the record is settled at the final amount
(`settleSubscriptionPreConsume`, `adjustSubscriptionPreConsume`) or refunded
(`refundSubscriptionPreConsume`). On the way, the aggregate counter of a
subscription is brought up to date (`maybeResetUserSubscriptionWithPlanTx`), which
a periodic task does as well (`resetDueSubscriptions`).

The operations read the clock of the database: `now` is the reading before the
transaction, `clock` the one inside it, which becomes the time of a new record.
-/

namespace Allrouter

open Civil Text Table

namespace Database

variable (db : Database)

def findPlan (id : ℤ) : Option SubscriptionPlan := get? (·.id) id db.plans

def findSubscription (id : ℤ) : Option UserSubscription :=
  get? (·.id) id db.subscriptions

def findRecord (requestId : String) : Option SubscriptionPreConsumeRecord :=
  get? (·.requestId) requestId db.records

def saveSubscription (sub : UserSubscription) : Database :=
  { db with subscriptions := put (·.id) sub db.subscriptions }

def saveRecord (record : SubscriptionPreConsumeRecord) : Database :=
  { db with records := put (·.requestId) record db.records }

def createRecord (record : SubscriptionPreConsumeRecord) : Database :=
  { db with records := db.records ++ [record] }

end Database

/-! ## Plans of issued subscriptions -/

variable (loc : Location) (db : Database) (sub : UserSubscription)
    (policy : SubscriptionQuotaPolicy)

/-- The distinct model names of a list separated by commas. -/
def parseSubscriptionPlanModelLimits (modelLimits : String) : List String :=
  ((split ',' modelLimits).map trimSpace).foldl
    (fun models name => if name = "" ∨ name ∈ models then models else models ++ [name]) []

@[irreducible]
def SubscriptionPlan.allowsModel (plan : SubscriptionPlan) (modelName : String) : Bool :=
  let limits := parseSubscriptionPlanModelLimits plan.modelLimits
  let name := trimSpace modelName
  limits.isEmpty || (name ≠ "" && limits.contains name)

def getSubscriptionPlanByIdTx (id : ℤ) : Except Error SubscriptionPlan :=
  if id ≤ 0 then .error (.text "invalid plan id")
  else match db.findPlan id with
    | none => .error .recordNotFound
    | some plan => .ok plan.normalizeQuotaWindows

/-- What is left of the plan of a subscription once it is deleted. -/
def subscriptionPlanSnapshotFallback : SubscriptionPlan where
  id := sub.planId
  providerId := sub.providerId
  modelLimits := sub.modelLimitsSnapshot
  totalAmount := sub.amountTotal
  quotaWindowMode :=
    if trimSpace sub.quotaWindowMode = "" then sub.quotaWindowModeSnapshot else sub.quotaWindowMode
  fiveHourAmount := sub.fiveHourAmount
  fiveHourWindowSeconds := sub.fiveHourWindowSeconds
  weeklyAmount := sub.weeklyAmount
  quotaWindows := normalizeQuotaWindowList sub.quotaWindowsSnapshot
  quotaResetPeriod := sub.quotaResetPeriodSnapshot
  quotaResetCustomSeconds := sub.quotaResetCustomSecondsSnapshot

/-- The plan of an issued subscription; a versioned one keeps the provider and the
    models it was sold with, and outlives its plan. -/
def getSubscriptionPlanOrSnapshotTx : Except Error (Option SubscriptionPlan) :=
  if sub.planId ≤ 0 then
    if sub.planPolicySnapshotVersion > 0 then .error (.text "invalid subscription plan snapshot")
    else .ok none
  else match getSubscriptionPlanByIdTx db sub.planId with
    | .ok plan =>
      if sub.planPolicySnapshotVersion > 0 then
        .ok (some { plan with providerId := sub.providerId, modelLimits :=
          sub.modelLimitsSnapshot })
      else .ok (some plan)
    | .error e =>
      if e ≠ .recordNotFound ∨ sub.planPolicySnapshotVersion ≤ 0 then .error e
      else .ok (some (subscriptionPlanSnapshotFallback sub))

/-- The plan that a settlement or refund goes by, if it still exists. -/
def planForSettlement : Except Error (Option SubscriptionPlan) :=
  match getSubscriptionPlanOrSnapshotTx db sub with
  | .error .recordNotFound => .ok none
  | plan => plan

/-! ## Resets -/

def invalidSubscriptionQuotaPolicyError : Error := .text "invalid subscription quota policy"

/-- Moves `base` and the reset `next` after it over the resets up to `now`. -/
def advanceReset (loc : Location) (policy : SubscriptionQuotaPolicy) (endTime now : ℤ) :
    ℕ → ℤ → ℤ → ℤ × ℤ
  | 0, base, next => (base, next)
  | fuel + 1, base, next =>
    if next > 0 ∧ next ≤ now then
      advanceReset loc policy endTime now fuel next
        (calcNextResetTimeForPolicy loc next policy endTime)
    else (base, next)

/-- The time the counter restarted last, the start of the subscription at first. -/
def UserSubscription.resetBase : ℤ :=
  if sub.lastResetTime ≤ 0 then sub.startTime else sub.lastResetTime

/-- The row brought up to date, `none` if it is already: the counter restarts once
    a reset has passed. Every reset lies after the one before, so that the seconds
    up to `now` bound their number. -/
def resetSubscription (now : ℤ) : Option UserSubscription :=
  if policy.resetPeriod = .never then none
  else if !policyTracksAggregate policy then
    if sub.nextResetTime ≠ 0 ∨ sub.lastResetTime ≠ 0 then
      some { sub with nextResetTime := 0, lastResetTime := 0 }
    else none
  else if sub.nextResetTime > 0 ∧ sub.nextResetTime > now then none
  else
    let base := sub.resetBase
    let next := calcNextResetTimeForPolicy loc base policy sub.endTime
    if next > 0 ∧ next ≤ now then
      let (base, next) := advanceReset loc policy sub.endTime now ((now - next).toNat + 1) base next
      some { sub with amountUsed := 0, lastResetTime := base, nextResetTime := next }
    else if sub.nextResetTime = 0 ∧ next > 0 then
      some { sub with nextResetTime := next, lastResetTime := base }
    else none

/-- Brings the subscription up to date, under its policy. -/
def maybeResetUserSubscriptionWithPlanTx (plan : SubscriptionPlan) (now : ℤ) :
    Except Error (Database × UserSubscription) :=
  let policy := quotaPolicyForSubscription sub (some plan)
  if policy.invalid then .error invalidSubscriptionQuotaPolicyError
  else match resetSubscription loc sub policy now with
    | none => .ok (db, sub)
    | some sub => .ok (db.saveSubscription sub, sub)

/-! ## Charging in advance -/

/-- The windows all allow it; one without a limit is not asked. -/
def windowsAllow (allows : SubscriptionQuotaWindowPolicy → Except Error Bool) :
    List CanonicalWindow → Except Error Bool
  | [] => .ok true
  | window :: windows =>
    if window.1.amount ≤ 0 then windowsAllow allows windows
    else match allows window.1 with
      | .error e => .error e
      | .ok false => .ok false
      | .ok true => windowsAllow allows windows

/-- There is room for `amount` in a window used up to `used`. -/
def hasRoom (limit used amount : ℤ) : Bool := !(used > limit || amount > limit - used)

/-- There is room for the amount in every window of the policy. -/
def genericQuotaAvailableTx (now amount : ℤ) : Except Error Bool :=
  if !policyHasGenericWindows policy then .ok true
  else if amount ≤ 0 then .error (.text "amount must be > 0")
  else windowsAllow (fun window =>
    (recentSubscriptionWindowUsageTx db sub.id now window sub.startTime).map fun (used, _) =>
      hasRoom window.amount used amount) policy.windows

/-- There is room for the amount in the five-hour window of the policy, if any. -/
def fiveHourQuotaAvailableTx (now amount : ℤ) : Except Error Bool :=
  if !policyHasFiveHour policy then .ok true
  else (recentSubscriptionUsageTx db sub.id now policy.fiveHourWindowSeconds).map fun (used, _) =>
    hasRoom policy.fiveHourAmount used amount

/-- The usage of a window, as reported with the result. -/
structure SubscriptionQuotaWindowSnapshot where
  unit : QuotaWindowUnit
  duration : ℤ
  resetMode : QuotaWindowResetMode
  name : String
  (limit used remaining resetAt windowSeconds : ℤ)

/-- What is reported of a charge. -/
structure SubscriptionPreConsumeResult where
  (userSubscriptionId preConsumed amountTotal amountUsedBefore amountUsedAfter : ℤ)
  quotaWindowMode : Option QuotaWindowMode := none
  (weeklyLimit weeklyUsed fiveHourLimit fiveHourUsed : ℤ := 0)
  quotaWindows : List SubscriptionQuotaWindowSnapshot := []

def quotaWindowEffectiveSeconds (window : SubscriptionQuotaWindowPolicy) (now anchor : ℤ) : ℤ :=
  let bounds := quotaWindowBounds window now anchor
  if window.resetMode = .calendar ∧ bounds.2 > bounds.1 then bounds.2 - bounds.1
  else window.windowSeconds

/-- Fills in the usage of the subscription, the request included. -/
def populatePreConsumeResultTx (result : SubscriptionPreConsumeResult) (sub : UserSubscription)
    (policy : SubscriptionQuotaPolicy) (now : ℤ) : Except Error SubscriptionPreConsumeResult := do
  let fiveHourUsed ←
    if policyHasFiveHour policy ∧ sub.id > 0 then
      (recentSubscriptionUsageTx db sub.id now policy.fiveHourWindowSeconds).map Prod.fst
    else .ok 0
  let quotaWindows ← policy.windows.mapM fun window => do
    let (used, resetAt) ←
      if sub.id > 0 then recentSubscriptionWindowUsageTx db sub.id now window.1 sub.startTime
      else .ok (0, (quotaWindowBounds window.1 now sub.startTime).2)
    return { unit := window.1.unit, duration := window.1.duration, resetMode := window.1.resetMode
             name := window.1.name, limit := window.1.amount, used := used
             remaining := max 0 (window.1.amount - used), resetAt := resetAt
             windowSeconds := quotaWindowEffectiveSeconds window.1 now sub.startTime }
  return { result with
    quotaWindowMode := some policy.mode
    weeklyLimit := policyWeeklyLimit policy sub
    weeklyUsed := sub.amountUsed
    fiveHourLimit := policy.fiveHourAmount
    fiveHourUsed := fiveHourUsed
    quotaWindows := quotaWindows }

/-- A charge that is asked for. -/
structure PreConsumeRequest where
  requestId : String
  userId : ℤ
  modelName : String := ""
  quotaType : ℤ := 0
  amount : ℤ
  deriving DecidableEq

def PreConsumeRequest.record (request : PreConsumeRequest) (subscriptionId now clock : ℤ) :
    SubscriptionPreConsumeRecord where
  requestId := request.requestId
  userId := request.userId
  userSubscriptionId := subscriptionId
  modelName := request.modelName
  quotaType := request.quotaType
  preConsumed := request.amount
  settledAmount := some request.amount
  settledAt := now
  status := .consumed
  createdAt := clock

variable (record : SubscriptionPreConsumeRecord) (request : PreConsumeRequest) (requestId : String)

/-- A record of the request id may be returned again: it was made by the same
    request, and not refunded. Rows without the shape of the request are older. -/
def validateSubscriptionPreConsumeRetry : Except Error Unit :=
  let legacyShape := record.modelName = "" ∧ record.quotaType = 0 ∧ record.settledAt = 0
  if record.userId ≠ request.userId then
    .error (.text "subscription request id belongs to another user")
  else if ¬legacyShape ∧ record.modelName ≠ request.modelName then
    .error (.text "subscription request id belongs to another model")
  else if ¬legacyShape ∧ record.quotaType ≠ request.quotaType then
    .error (.text "subscription request id belongs to another quota type")
  else if record.preConsumed ≠ request.amount then
    let existing := record.preConsumed
    let requested := request.amount
    .error (.text
      s!"subscription request amount mismatch, existing={existing} requested={requested}")
  else match record.status with
    | .consumed => .ok ()
    | .refunded => .error (.text "subscription pre-consume already refunded")
    | .other status => .error (.text s!"subscription pre-consume status invalid: {status}")

/-- The result of a request that is already charged. -/
def populateIdempotentPreConsumeResultTx (clock : ℤ) : Except Error SubscriptionPreConsumeResult :=
  match db.findSubscription record.userSubscriptionId with
  | none => .error .recordNotFound
  | some sub =>
    let result : SubscriptionPreConsumeResult :=
      { userSubscriptionId := sub.id, preConsumed := effectivePreConsumeAmount record
        amountTotal := sub.amountTotal, amountUsedBefore := sub.amountUsed
        amountUsedAfter := sub.amountUsed }
    match getSubscriptionPlanOrSnapshotTx db sub with
    | .error _ => .ok result
    | .ok plan =>
      populatePreConsumeResultTx db result sub (quotaPolicyForSubscription sub plan) clock

/-- The result of a request whose record is there already. -/
def retryPreConsume (clock : ℤ) : Except Error SubscriptionPreConsumeResult := do
  validateSubscriptionPreConsumeRetry record request
  populateIdempotentPreConsumeResultTx db record clock

/-- What becomes of a request at one of the user's subscriptions. -/
inductive Attempt
  | skipped (db : Database)
  | charged (db : Database) (result : SubscriptionPreConsumeResult)

/-- Adds the amount to the counter, if the policy limits it. -/
def chargeCounter (amount : ℤ) : Except Error (Database × UserSubscription) :=
  if policyTracksAggregate policy then
    match subscriptionSafeAddInt64 sub.amountUsed amount with
    | none => .error (.text "subscription aggregate usage overflows int64")
    | some nextUsed =>
      let charged := { sub with amountUsed := nextUsed }
      .ok (db.saveSubscription charged, charged)
  else .ok (db, sub)

/-- Charges the request to the subscription. A record made under the request id in
    the meantime is kept, and the request is a retry of it. -/
def chargeSubscription (now clock : ℤ) : Except Error (Database × SubscriptionPreConsumeResult) :=
  match db.findRecord request.requestId with
  | some duplicate => (retryPreConsume db duplicate request clock).map fun result => (db, result)
  | none => do
    let db := db.createRecord (request.record sub.id now clock)
    let (db, charged) ← chargeCounter db sub policy request.amount
    let result ← populatePreConsumeResultTx db
      { userSubscriptionId := sub.id, preConsumed := request.amount, amountTotal := sub.amountTotal
        amountUsedBefore := sub.amountUsed, amountUsedAfter :=
          charged.amountUsed } charged policy now
    return (db, result)

/-- Charges the request to the subscription, which is up to date, if its policy
    has room for it. -/
def admitToSubscription (now clock : ℤ) : Except Error Attempt := do
  let weeklyLimit := policyWeeklyLimit policy sub
  let limited := policyTracksAggregate policy ∧ weeklyLimit > 0
  if policyTracksAggregate policy ∧ sub.amountUsed < 0 then
    .error (.text "invalid subscription aggregate usage")
  else
    -- A counter above the limit counts as the limit.
    let sub :=
      if limited ∧ sub.amountUsed > weeklyLimit then { sub with amountUsed := weeklyLimit } else sub
    if limited ∧ !hasRoom weeklyLimit sub.amountUsed request.amount then .ok (.skipped db)
    else
      let available ← genericQuotaAvailableTx db sub policy now request.amount
      if !available then .ok (.skipped db)
      else
        let fiveHourAvailable ← fiveHourQuotaAvailableTx db sub policy now request.amount
        if !fiveHourAvailable then .ok (.skipped db)
        else
          let (db, result) ← chargeSubscription db sub policy request now clock
          .ok (.charged db result)

/-- Charges the request to the subscription, if its plan covers the request. -/
def attemptSubscription (now clock : ℤ) : Except Error Attempt :=
  match getSubscriptionPlanOrSnapshotTx db sub with
  | .error .recordNotFound | .ok none => .ok (.skipped db)
  | .error e => .error e
  | .ok (some plan) =>
    if plan.providerId ≠ sub.providerId ∨ !plan.allowsModel request.modelName then .ok (.skipped db)
    else do
      let (db, sub) ← maybeResetUserSubscriptionWithPlanTx loc db sub plan now
      let policy := quotaPolicyForSubscription sub (some plan)
      if policy.invalid then .error invalidSubscriptionQuotaPolicyError
      else admitToSubscription db sub policy request now clock

/-- Charges the request to the first of the subscriptions that takes it. -/
def attemptSubscriptions (loc : Location) (request : PreConsumeRequest) (now clock : ℤ) :
    Database → List UserSubscription → Except Error (Database × SubscriptionPreConsumeResult)
  | _, [] =>
    let amount := request.amount
    .error (.text s!"subscription quota insufficient, need={amount}")
  | db, sub :: subs => do
    match ← attemptSubscription loc db sub request now clock with
    | .charged db result => .ok (db, result)
    | .skipped db => attemptSubscriptions loc request now clock db subs

/-- The active subscriptions of a user, those that end first coming first. -/
def Database.activeSubscriptions (userId now : ℤ) : List UserSubscription :=
  let providerId := ((get? SubscriptionUser.id userId db.users).map (·.providerId)).getD 0
  (db.subscriptions.filter fun s => s.userId = userId ∧ s.providerId = providerId ∧
    s.status = .active ∧ s.startTime ≤ now ∧ s.endTime > now).insertionSort
      fun s s' => s.endTime < s'.endTime ∨ (s.endTime = s'.endTime ∧ s.id ≤ s'.id)

/-- Charges a request in advance to one of the user's subscriptions. Repeating the
    request returns the charge made. -/
def preConsumeUserSubscription (now clock : ℤ) :
    Except Error (Database × SubscriptionPreConsumeResult) :=
  if request.userId ≤ 0 then .error (.text "invalid userId")
  else if trimSpace request.requestId = "" then .error (.text "requestId is empty")
  else if request.amount ≤ 0 then .error (.text "amount must be > 0")
  else
    let request := { request with modelName := trimSpace request.modelName }
    match db.findRecord request.requestId with
    | some existing => (retryPreConsume db existing request clock).map fun result => (db, result)
    | none =>
      match db.activeSubscriptions request.userId now with
      | [] => .error (.text "no active subscription")
      | subs => attemptSubscriptions loc request now clock db subs

/-! ## Settling -/

/-- The record may amount to `target` in the period it belongs to, one that the
    aggregate counter has left. -/
def aggregateQuotaHistoricalTargetAllowedTx (target now : ℤ) : Except Error Bool :=
  let limit := policyWeeklyLimit policy sub
  if limit ≤ 0 then .ok true
  else if target < 0 then .error (.text "actual amount must be >= 0")
  else if target > limit then .ok false
  else do
    let (start, stop) ← aggregateQuotaPeriodBounds loc sub policy record.createdAt
    .ok (recordsFit (limit - target)
      ((db.otherLiveRecords sub.id record.requestId).filter fun r =>
        start ≤ r.createdAt ∧ r.createdAt ≤ now ∧ (stop > 0 → r.createdAt < stop)))

/-- The record may amount to `target` in every window of the policy. -/
def genericQuotaTargetAllowedTx (target now : ℤ) : Except Error Bool :=
  if !policyHasGenericWindows policy then .ok true
  else if target < 0 then .error (.text "actual amount must be >= 0")
  else windowsAllow (fun window =>
    quotaWindowTargetAllowedTx db sub.id window sub.startTime record target now) policy.windows

def require (allowed : Except Error Bool) (message : String) : Except Error Unit := do
  if ← allowed then .ok () else .error (.text message)

/-- The aggregate limit allows the record to grow by `delta` to `target`; `current`
    tells that it belongs to the period that the counter is in. -/
def checkAggregate (target delta now : ℤ) (current : Bool) : Except Error Unit :=
  if policyTracksAggregate policy then
    if current then
      let limit := policyWeeklyLimit policy sub
      let remaining := max 0 (limit - sub.amountUsed)
      require (.ok (limit ≤ 0 || hasRoom limit sub.amountUsed delta))
        s!"subscription aggregate quota insufficient, need={delta} remaining={remaining}"
    else
      require (aggregateQuotaHistoricalTargetAllowedTx loc db sub policy record target now)
        s!"subscription historical aggregate quota insufficient, need={delta}"
  else .ok ()

/-- The five-hour window allows the record to grow by `delta` to `target`. -/
def checkFiveHour (target delta now : ℤ) : Except Error Unit :=
  if policyHasFiveHour policy then
    require (quotaWindowTargetAllowedTx db sub.id
        (fiveHourWindow policy.fiveHourAmount policy.fiveHourWindowSeconds) sub.startTime
          record target now)
      s!"subscription five-hour quota insufficient, need={delta}"
  else .ok ()

/-- All limits allow the record to grow by `delta` to `target`; shrinking needs no check. -/
def checkSettlement (target delta now : ℤ) (current : Bool) : Except Error Unit :=
  if delta > 0 then do
    checkAggregate loc db sub policy record target delta now current
    checkFiveHour db sub policy record target delta now
    require (genericQuotaTargetAllowedTx db sub policy record target now)
      s!"subscription quota insufficient, window limit reached, need={delta}"
  else .ok ()

def SubscriptionPreConsumeRecord.settle (target now : ℤ) : SubscriptionPreConsumeRecord :=
  { record with settledAmount := some target, settledAt := now }

/-- Writes the amount of the record, and moves the counter by `delta` if it counts the
    record. -/
def writeSettlement (target delta now : ℤ) (current : Bool) : Except Error Database :=
  let settled := db.saveRecord (record.settle target now)
  if current then
    match subscriptionSafeAddInt64 sub.amountUsed delta with
    | none => .error (.text "subscription aggregate usage overflows int64")
    | some nextUsed => .ok (settled.saveSubscription { sub with amountUsed := max 0 nextUsed })
  else .ok settled

/-- Sets the effective amount of the record of an up-to-date subscription. -/
def settleOnSubscription (target now : ℤ) : Except Error Database := do
  let delta := target - effectivePreConsumeAmount record
  let current := policyTracksAggregate policy &&
    aggregateRecordInCurrentPeriod sub policy record.createdAt now
  if policy.invalid then .error invalidSubscriptionQuotaPolicyError
  else if policyTracksAggregate policy ∧ sub.amountUsed < 0 then
    .error (.text "invalid subscription aggregate usage")
  else
    checkSettlement loc db sub policy record target delta now current
    writeSettlement db sub record target delta now current

/-- Brings the subscription up to date if its plan still exists. -/
def maybeResetForSettlement (plan : Option SubscriptionPlan) (now : ℤ) :
    Except Error (Database × UserSubscription) :=
  match plan with
  | none => .ok (db, sub)
  | some plan => maybeResetUserSubscriptionWithPlanTx loc db sub plan now

/-- Settles the record at `target`; settling at the current amount only completes
    the record. -/
def settleSubscriptionPreConsumeTx (target now : ℤ) : Except Error Database :=
  if target < 0 then .error (.text "actual amount must be >= 0")
  else if effectivePreConsumeAmount record = target then
    if record.settledAmount = none ∨ record.settledAt = 0 then
      .ok (db.saveRecord (record.settle target now))
    else .ok db
  else match db.findSubscription record.userSubscriptionId with
    | none => .error .recordNotFound
    | some sub => do
      let plan ← planForSettlement db sub
      let (db, sub) ← maybeResetForSettlement loc db sub plan now
      settleOnSubscription loc db sub (quotaPolicyForSubscription sub plan) record target now

def settleSubscriptionPreConsume (actualAmount now : ℤ) : Except Error Database :=
  if trimSpace requestId = "" then .error (.text "requestId is empty")
  else if actualAmount < 0 then .error (.text "actual amount must be >= 0")
  else match db.findRecord requestId with
    | none => .error .recordNotFound
    | some record =>
      if record.status = .refunded then .error (.text "subscription pre-consume already refunded")
      else settleSubscriptionPreConsumeTx loc db record actualAmount now

/-- Changes the effective amount of the request by `delta`, not below zero. -/
def adjustSubscriptionPreConsume (delta now : ℤ) : Except Error Database :=
  if trimSpace requestId = "" then .error (.text "requestId is empty")
  else if delta = 0 then .ok db
  else match db.findRecord requestId with
    | none => .error .recordNotFound
    | some record =>
      if record.status = .refunded then .error (.text "subscription pre-consume already refunded")
      else match subscriptionSafeAddInt64 (effectivePreConsumeAmount record) delta with
        | none => .error (.text "subscription adjustment overflows int64")
        | some target => settleSubscriptionPreConsumeTx loc db record (max 0 target) now

/-- Changes the counter of a subscription by `delta`, not below zero, for a charge that
    has no record; a policy that counts on the records refuses it. -/
def postConsumeUserSubscriptionDelta (userSubscriptionId delta : ℤ) : Except Error Database :=
  if userSubscriptionId ≤ 0 then .error (.text "invalid userSubscriptionId")
  else if delta = 0 then .ok db
  else match db.findSubscription userSubscriptionId with
    | none => .error .recordNotFound
    | some sub => do
      let plan ← planForSettlement db sub
      let policy := quotaPolicyForSubscription sub plan
      if policy.invalid then .error invalidSubscriptionQuotaPolicyError
      else if policyHasGenericWindows policy then
        .error (.text "request-aware subscription settlement required for quota windows")
      else if delta > 0 ∧ policyHasFiveHour policy then
        .error (.text "request-aware subscription settlement required for five-hour window")
      else if policyTracksAggregate policy then
        match subscriptionSafeAddInt64 sub.amountUsed delta with
        | none => .error (.text "subscription aggregate usage overflows int64")
        | some sum =>
          let newUsed := max 0 sum
          let limit := policyWeeklyLimit policy sub
          if limit > 0 ∧ newUsed > limit then
            .error (.text s!"subscription used exceeds weekly limit, used={newUsed} limit={limit}")
          else .ok (db.saveSubscription { sub with amountUsed := newUsed })
      else .ok (db.saveSubscription sub)

/-! ## Refunds -/

def SubscriptionPreConsumeRecord.refund (now : ℤ) : SubscriptionPreConsumeRecord :=
  { record with settledAmount := some 0, settledAt := now, status := .refunded }

/-- Takes the amount of the record off the counter of an up-to-date subscription, if
    it counts the record. -/
def uncharge (now : ℤ) : Except Error Database :=
  let amount := effectivePreConsumeAmount record
  if policyTracksAggregate policy ∧ sub.amountUsed < 0 then
    .error (.text "invalid subscription aggregate usage")
  else if amount > 0 ∧ policyTracksAggregate policy ∧
      aggregateRecordInCurrentPeriod sub policy record.createdAt now then
    match subscriptionSafeAddInt64 sub.amountUsed (-amount) with
    | none => .error (.text "subscription aggregate usage overflows int64")
    | some nextUsed => .ok (db.saveSubscription { sub with amountUsed := max 0 nextUsed })
  else .ok db

/-- Refunds the request, once. The record of a deleted subscription is only marked. -/
def refundSubscriptionPreConsumeTx (now : ℤ) : Except Error Database :=
  if trimSpace requestId = "" then .error (.text "requestId is empty")
  else match db.findRecord requestId with
    | none => .error .recordNotFound
    | some record =>
      if record.status = .refunded then .ok db
      else match db.findSubscription record.userSubscriptionId with
        | none => .ok (db.saveRecord (record.refund now))
        | some sub => do
          let plan ← planForSettlement db sub
          let (db, sub) ← maybeResetForSettlement loc db sub plan now
          let db ← uncharge db sub (quotaPolicyForSubscription sub plan) record now
          .ok (db.saveRecord (record.refund now))

def refundSubscriptionPreConsume (now : ℤ) : Except Error Database :=
  if trimSpace requestId = "" then .error (.text "requestId is empty")
  else refundSubscriptionPreConsumeTx loc db requestId now

/-! ## The periodic reset -/

/-- The subscription is active and a reset of it has passed. -/
def UserSubscription.resetDue (now : ℤ) : Bool :=
  sub.nextResetTime > 0 && sub.nextResetTime ≤ now && sub.status = .active && sub.startTime ≤ now

/-- Resets one subscription, in a transaction of its own; the flag tells whether
    anything changed. -/
def resetDueSubscription (id now : ℤ) : Except Error (Database × Bool) :=
  match (db.findSubscription id).filter (·.resetDue now) with
  | none => .ok (db, false)
  | some locked =>
    match getSubscriptionPlanOrSnapshotTx db locked with
    | .error _ | .ok none => .ok (db, false)
    | .ok (some plan) => do
      let (db, sub) ← maybeResetUserSubscriptionWithPlanTx loc db locked plan now
      .ok (db, sub.amountUsed ≠ locked.amountUsed || sub.lastResetTime ≠ locked.lastResetTime ||
        sub.nextResetTime ≠ locked.nextResetTime)

/-- Resets the subscriptions one after the other, up to the first error, and counts
    those that changed. -/
def resetEach (loc : Location) (now : ℤ) : List ℤ → Database → ℕ → Database × ℕ × Option Error
  | [], db, count => (db, count, none)
  | id :: ids, db, count =>
    match resetDueSubscription loc db id now with
    | .error e => (db, count, some e)
    | .ok (db, changed) => resetEach loc now ids db (if changed then count + 1 else count)

/-- Resets up to `limit` of the subscriptions that are due, 200 by default. -/
def resetDueSubscriptions (limit : ℤ) (now : ℤ) : Database × ℕ × Option Error :=
  let limit := if limit ≤ 0 then 200 else limit
  let due := (db.subscriptions.filter (·.resetDue now)).insertionSort
    fun s s' => s.nextResetTime ≤ s'.nextResetTime
  resetEach loc now ((due.take limit.toNat).map (·.id)) db 0

end Allrouter
