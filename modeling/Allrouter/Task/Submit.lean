import Allrouter.Billing.PostConsume
import Allrouter.Task.Billing

/-!
# Submitting a task

The handler of a task tries one channel after the other until one accepts the task
(`submitAttempts`). Every attempt sets a price; but the first one that gets as far
charges it in advance, and the later ones keep that session. The task that was accepted
is settled at its own price, and then its row is inserted (`relayTask`).

What fails in between is taken back: by a refund, which runs after the handler has
returned, as long as the session is not settled, and by a rollback when it is.

* `submitAttempts_cases`: the attempts as a whole. The first one whose charge goes through
  opens the session, and the first one from there on that a channel accepts is settled.
* `runUndo_refund`, `runUndo_rollbackSettlement`: on stores that work, everything is
  given back.
* `relayTask_accounted_iff`: either the row that was inserted says what was taken, or
  nothing was taken; unless the wallet was charged less than nothing in advance, which the
  session takes for an amount that it still has to collect.
-/

namespace Allrouter

open Text BillingSession Ledger Worker Option

/-! ## Charging in advance -/

/-- Where the user wants to be charged; every other text is `subscriptionFirst`. -/
inductive BillingPreference
  | subscriptionFirst
  | walletFirst
  | subscriptionOnly
  | walletOnly
  deriving DecidableEq

/-- What a submission reads of its request. -/
structure TaskRequest where
  relayInfo : RelayInfo := {}
  requestId : String
  userId : ℤ
  tokenId : ℤ := 0
  (action originModelName : String := "")
  /-- The name that the subscription is charged under. -/
  modelName : String := ""
  preference : BillingPreference

/-- What a charge in advance reads, and how its store operations end. -/
structure ChargeReads where
  /-- The balance, unless it cannot be read. -/
  userQuota : Option ℤ
  hasActiveSubscription : Option Bool
  (wallet subscription : Fate)
  /-- A subscription that cannot be charged says that it has no quota left. -/
  subscriptionUnavailable : Bool

/-- Why a charge in advance fails: only for the first reason the other source is tried. -/
inductive ChargeError
  | insufficientUserQuota
  | other
  deriving DecidableEq

namespace TaskRequest

variable (request : TaskRequest) (reads : ChargeReads) (l : Ledger) (quota : ℤ)

/-- Tasks are always charged in advance. -/
def forced : RelayInfo := { request.relayInfo with forcePreConsume := true }

def tryWallet : Except ChargeError BillingSession × Ledger :=
  match reads.userQuota with
  | none => (.error .other, l)
  | some userQuota =>
    if userQuota ≤ 0 then (.error .insufficientUserQuota, l)
    else if userQuota - quota < 0 then (.error .insufficientUserQuota, l)
    else
      let r := (walletSession { request.forced with userQuota := userQuota }).preConsume
        (stores reads.wallet) l quota
      match r.error with
      | some _ => (.error .other, r.store)
      | none => (.ok r.session, r.store)

def trySubscription : Except ChargeError BillingSession × Ledger :=
  let r := (subscriptionSession request.forced request.requestId request.userId request.modelName
    quota).preConsume
    (stores reads.subscription) l (subConsume quota)
  match r.error with
  | some _ => (.error (if reads.subscriptionUnavailable then .insufficientUserQuota else .other),
    r.store)
  | none => (.ok r.session, r.store)

def newBillingSession : Except ChargeError BillingSession × Ledger :=
  match request.preference with
  | .subscriptionOnly => request.trySubscription reads l quota
  | .walletOnly => request.tryWallet reads l quota
  | .walletFirst =>
    match request.tryWallet reads l quota with
    | (.error .insufficientUserQuota, l) => request.trySubscription reads l quota
    | r => r
  | .subscriptionFirst =>
    match reads.hasActiveSubscription with
    | none => (.error .other, l)
    | some false => request.tryWallet reads l quota
    | some true =>
      match request.trySubscription reads l quota with
      | (.error .insufficientUserQuota, l) => request.tryWallet reads l quota
      | r => r

end TaskRequest

/-! ## Attempts -/

/-- What an accepted task has. -/
structure TaskSubmitResult where
  quota : ℤ
  (upstreamTaskID taskData : String := "")

/-- What becomes of an attempt. -/
inductive TaskAttempt
  /-- It fails before there is a price. -/
  | rejected
  /-- There is a price; whether the charge is made and goes through or not, the channel may
      accept the task. -/
  | priced (quota : ℤ) (reads : ChargeReads) (result : Option TaskSubmitResult)

/-- The session of a request, and what was taken for it. -/
structure TaskSession where
  billing : Option BillingSession := none
  ledger : Ledger := {}

/-- An attempt; of a task that is accepted, the session that pays for it is returned. -/
def relayTaskSubmit (request : TaskRequest) (state : TaskSession) :
    TaskAttempt → TaskSession × Option (BillingSession × TaskSubmitResult)
  | .rejected => (state, none)
  | .priced quota reads result =>
    match state.billing with
    | some session => (state, result.map fun result => (session, result))
    | none =>
      match request.newBillingSession reads state.ledger quota with
      | (.error _, l) => ({ state with ledger := l }, none)
      | (.ok session, l) => (⟨some session, l⟩, result.map fun result => (session, result))

/-- The attempts that are made: another one may follow each that fails. -/
def submitAttempts (request : TaskRequest) :
    TaskSession → List TaskAttempt → TaskSession × Option (BillingSession × TaskSubmitResult)
  | state, [] => (state, none)
  | state, attempt :: attempts =>
    match relayTaskSubmit request state attempt with
    | (state, some accepted) => (state, some accepted)
    | (state, none) => submitAttempts request state attempts

/-! ## The handler -/

/-- What a call leaves to do is done: a worker is done after five steps. -/
def runUndo (fate : Fate) (call : BillingSession × Option Worker) (l : Ledger) :
    BillingSession × Ledger :=
  run (stores fate) 5 call.1 l call.2

/-- The row of a task that was accepted, with the parts of the wallet that pay for it. -/
def TaskRequest.initTask (request : TaskRequest) (s : BillingSession) (result : TaskSubmitResult)
    (now : ℤ) : Task where
  status := .notStart
  quota := result.quota
  action := request.action
  submitTime := now
  progress := "0%"
  originModelName := request.originModelName
  data := result.taskData
  privateData :=
    match s.funding with
    | .wallet w =>
      { upstreamTaskID := result.upstreamTaskID
        billingSource := .wallet
        tokenId := request.tokenId
        walletQuotaBreakdownRecorded := true
        walletRewardUsed := w.rewardConsumed
        walletPaidUsed := w.paidConsumed }
    | .subscription f =>
      { upstreamTaskID := result.upstreamTaskID
        billingSource := .subscription
        tokenId := request.tokenId
        subscriptionId := f.subscriptionId
        subscriptionRequestId := request.requestId
        subscriptionPreConsumed := f.preConsumed }

/-- How the operations after the attempts end. -/
structure TaskFate where
  settle : Fate
  inserted : Bool
  /-- The operations of a rollback or of a refund. -/
  undo : Fate
  now : ℤ := 0

/-- What a request leaves behind once its refund is finished, too. -/
structure RelayedTask where
  rows : List Task
  ledger : Ledger
  deriving DecidableEq

/-- What is left of a task that was accepted, and whose settlement has ended with `r`. -/
def TaskRequest.insertTask (request : TaskRequest) (result : TaskSubmitResult) (fate : TaskFate)
    (r : Outcome Ledger Unit) : RelayedTask :=
  match r.error with
  | some _ => ⟨[], (runUndo fate.undo r.session.refund r.store).2⟩
  | none =>
    if fate.inserted then ⟨[request.initTask r.session result fate.now], r.store⟩
    else
      let rolledBack := runUndo fate.undo r.session.rollbackSettlement r.store
      ⟨[], (runUndo fate.undo rolledBack.1.refund rolledBack.2).2⟩

def relayTask (request : TaskRequest) (attempts : List TaskAttempt) (fate : TaskFate) :
    RelayedTask :=
  match submitAttempts request {} attempts with
  | (⟨none, l⟩, none) => ⟨[], l⟩
  | (⟨some s, l⟩, none) => ⟨[], (runUndo fate.undo s.refund l).2⟩
  | (⟨_, l⟩, some (s, result)) =>
    request.insertTask result fate (settleBilling (stores fate.settle) s l result.quota)

/-! ## What the attempts leave -/

section

variable {fate : Fate} {s : BillingSession} {l l' : Ledger} {quota : ℤ}

lemma Outcome.eq_of_error {r : Outcome Ledger Unit} (h : r.error = none) :
    r = ⟨none, r.session, r.store⟩ := by
  rw [← h]

lemma rollbackReservation_store (hplayground : s.relayInfo.isPlayground = false)
    (hpos : 0 < s.tokenConsumed) (htoken : fate.token = true) (e : Unit) :
    (s.rollbackReservation (stores fate) l e).store =
      { l with token := l.token - s.tokenConsumed } := by
  have hreturn : refundWithRetry ((stores fate).increaseTokenQuota · s.tokenConsumed) l =
      .ok { l with token := l.token - s.tokenConsumed } := by
    simp only [stores, htoken]
    rfl
  rw [rollbackReservation, if_pos ⟨hpos, by simp [hplayground]⟩, hreturn]

/-- A charge in advance that fails leaves nothing behind: what the token has reserved is returned
    by the same store. -/
lemma preConsume_store_of_error (h0 : s.tokenConsumed = 0) {e : BillingError Unit}
    (h : (s.preConsume (stores fate) l quota).error = some e) :
      (s.preConsume (stores fate) l quota).store = l := by
  rw [preConsume] at h ⊢
  generalize (if s.shouldTrust = true then 0 else quota) = effectiveQuota at h ⊢
  cases hreserve : s.reserveToken (stores fate) l effectiveQuota with
  | error e => rfl
  | ok r =>
    obtain ⟨s₁, l₁⟩ := r
    simp only [hreserve] at h
    dsimp only
    cases hfunding : s₁.funding.preConsume (stores fate) l₁ effectiveQuota with
    | ok r => simp only [hfunding] at h; cases h
    | error e' =>
      rw [reserveToken] at hreserve
      split_ifs at hreserve with hcond
      · obtain ⟨l₂, hpre, ⟨⟩⟩ := Except.map_eq_ok.1 hreserve
        simp only [stores] at hpre
        split_ifs at hpre with htoken
        cases hpre
        have hplayground : s.relayInfo.isPlayground = false := by
          have := hcond.2
          simp only [tokenQuotaRequired, Bool.and_eq_true, Bool.not_eq_true'] at this
          exact this.1
        refine (rollbackReservation_store
          (s := { s with tokenConsumed := effectiveQuota }) hplayground
          hcond.1 htoken e').trans ?_
        simp
      · cases hreserve
        simp [rollbackReservation, h0]

end

/-- A subscription is charged whenever it can be read, and the request has an id. -/
lemma subscription_preConsume_iff {fate : Fate} {l : Ledger} {relayInfo : RelayInfo}
    {requestId modelName : String} {userId quota : ℤ} :
    ((subscriptionSession relayInfo requestId userId modelName quota).preConsume (stores fate) l
        (subConsume quota)).error = none ↔
      ¬(fate.subscription = none ∨ trimSpace requestId = "") := by
  have hpos := (@subConsume_pos quota).not_ge
  have hreserve : (subscriptionSession relayInfo requestId userId modelName quota).reserveToken
      (stores fate) l (subConsume quota) =
          .ok (subscriptionSession relayInfo requestId userId modelName quota, l) :=
    if_neg fun h => by simp [tokenQuotaRequired, subscriptionSession,
      FundingSource.isSubscription] at h
  simp only [preConsume, subscriptionSession_pays, hreserve]
  cases hfate : fate.subscription with
  | none =>
    simp [subscriptionSession, FundingSource.preConsume, SubscriptionFunding.preConsume,
      stores, hfate, Except.map, rollbackReservation]
  | some id =>
    by_cases hid : trimSpace requestId = "" <;>
      simp [subscriptionSession, FundingSource.preConsume, SubscriptionFunding.preConsume,
        SubscriptionFunding.request, stores, hfate, hid, hpos, Except.map, rollbackReservation]

namespace TaskRequest

variable (request : TaskRequest) (reads : ChargeReads) (quota : ℤ)

/-- The wallet is asked to pay: the user wants so, or there is no subscription that could. -/
def asksWallet : Bool :=
  match request.preference with
  | .subscriptionOnly => false
  | .walletOnly | .walletFirst => true
  | .subscriptionFirst =>
    match reads.hasActiveSubscription with
    | none => false
    | some false => true
    | some true => (reads.subscription.subscription = none || trimSpace request.requestId = "") &&
        reads.subscriptionUnavailable

/-- A charge below zero goes to the wallet, if that is asked and has something left. -/
def WalletPays : Prop :=
  request.asksWallet reads = true ∧ ∃ userQuota ∈ reads.userQuota, 0 < userQuota

/-- What a charge in advance comes to on an empty ledger: if `P` holds, a session that counts
    `quota` below zero as taken, and else one that knows what was taken. -/
def ChargeSound (P : Prop) (r : Except ChargeError BillingSession × Ledger) : Prop :=
  match r.1 with
  | .error _ => r.2 = {}
  | .ok s => (¬P ∧ OpenSession s r.2) ∨ (P ∧ r.2 = {} ∧ ∃ relayInfo : RelayInfo,
      relayInfo.isPlayground = request.relayInfo.isPlayground ∧ s = undercharged relayInfo quota)

lemma tryWallet_sound :
    request.ChargeSound quota (quota < 0) (request.tryWallet reads {} quota) := by
  rw [tryWallet]
  split
  · exact rfl
  · rename_i userQuota _
    split_ifs
    · exact rfl
    · exact rfl
    · set relayInfo : RelayInfo := { request.forced with userQuota := userQuota } with hrelayInfo
      -- a task is not trusted, so that the price is what is charged
      have htrust : (walletSession relayInfo).shouldTrust = false := by
        simp [hrelayInfo, shouldTrust, walletSession, forced]
      dsimp only
      by_cases hneg : quota < 0
      · rw [preConsume_of_neg htrust hneg]
        exact .inr ⟨hneg, rfl, relayInfo, rfl, rfl⟩
      cases herror :
          ((walletSession relayInfo).preConsume (stores reads.wallet) {} quota).error with
      | some e => exact preConsume_store_of_error rfl herror
      | none =>
        have hopens : (AdvanceCharge.wallet relayInfo quota).Opens reads.wallet _ _ :=
          Outcome.eq_of_error herror
        exact .inl ⟨hneg, hopens.openSession (.inl (not_lt.1 hneg))⟩

lemma trySubscription_sound :
    request.ChargeSound quota False (request.trySubscription reads {} quota) := by
  rw [trySubscription]
  set s := subscriptionSession request.forced request.requestId request.userId request.modelName
    quota with hs
  cases herror : (s.preConsume (stores reads.subscription) {} (subConsume quota)).error with
  | some e => exact preConsume_store_of_error rfl herror
  | none =>
    have hopens : (AdvanceCharge.subscription request.forced request.requestId request.userId
        request.modelName quota).Opens reads.subscription _ _ := Outcome.eq_of_error herror
    exact .inl ⟨nofun, hopens.openSession (.inl subConsume_pos.le)⟩

/-- A wallet with something left is never short of a charge below zero. -/
lemma tryWallet_refused (hneg : quota < 0)
    (h : (request.tryWallet reads {} quota).1 = .error .insufficientUserQuota) :
    ¬∃ userQuota ∈ reads.userQuota, 0 < userQuota := by
  rintro ⟨userQuota, hread, hpos⟩
  rw [tryWallet, hread] at h
  dsimp only at h
  rw [if_neg (by omega), if_neg (by omega)] at h
  split at h <;> cases h

lemma trySubscription_refused_iff :
    (request.trySubscription reads {} quota).1 = .error .insufficientUserQuota ↔
      (reads.subscription.subscription = none ∨ trimSpace request.requestId = "") ∧
        reads.subscriptionUnavailable = true := by
  have hiff := @subscription_preConsume_iff reads.subscription {} request.forced request.requestId
    request.modelName request.userId quota
  rw [trySubscription]
  split
  · rename_i e herror
    rw [herror] at hiff
    have hrefused := not_not.1 ((not_congr hiff).1 nofun)
    cases reads.subscriptionUnavailable <;> simp [hrefused]
  · rename_i herror
    have hgoes := hiff.1 herror
    simp [hgoes]

lemma tryWallet_isOk (h : (request.tryWallet reads {} quota).1.isOk = true) :
    ∃ userQuota ∈ reads.userQuota, 0 < userQuota := by
  rw [tryWallet] at h
  split at h
  · cases h
  · rename_i userQuota hread
    split_ifs at h with hpos
    · cases h
    · cases h
    · exact ⟨userQuota, hread, not_le.1 hpos⟩

variable {request} {quota} in
lemma ChargeSound.congr {P Q : Prop} {r : Except ChargeError BillingSession × Ledger}
    (h : request.ChargeSound quota P r) (hiff : r.1.isOk = true → (P ↔ Q)) :
    request.ChargeSound quota Q r := by
  obtain ⟨r, l⟩ := r
  cases r with
  | error e => exact h
  | ok s => exact h.imp (.imp_left (not_congr (hiff rfl)).1) (.imp_left (hiff rfl).1)

lemma newBillingSession_sound : request.ChargeSound quota (quota < 0 ∧ request.WalletPays reads)
    (request.newBillingSession reads {} quota) := by
  have hwallet (hasks : request.asksWallet reads = true) :
      request.ChargeSound quota (quota < 0 ∧ request.WalletPays reads)
          (request.tryWallet reads {} quota) :=
    (request.tryWallet_sound reads quota).congr fun hok =>
      ⟨fun hneg => ⟨hneg, hasks, request.tryWallet_isOk reads quota hok⟩, And.left⟩
  have hsubscription (hnot : quota < 0 → ¬request.WalletPays reads) :
      request.ChargeSound quota (quota < 0 ∧ request.WalletPays reads)
        (request.trySubscription reads {} quota) :=
    (request.trySubscription_sound reads quota).congr fun _ => ⟨False.elim, fun h => hnot h.1 h.2⟩
  rw [newBillingSession]
  split
  · rename_i hpreference
    exact hsubscription fun _ h => by simp [WalletPays, asksWallet, hpreference] at h
  · rename_i hpreference
    exact hwallet (by simp [asksWallet, hpreference])
  · rename_i hpreference
    have hwallet := hwallet (by simp [asksWallet, hpreference])
    split
    · rename_i l heq
      rw [heq] at hwallet
      obtain rfl : l = {} := hwallet
      exact hsubscription fun hneg h => request.tryWallet_refused reads quota hneg (by rw [heq]) h.2
    · exact hwallet
  · rename_i hpreference
    split
    · exact rfl
    · rename_i hactive
      exact hwallet (by simp [asksWallet, hpreference, hactive])
    · rename_i hactive
      have hasks : request.asksWallet reads = true ↔
          (request.trySubscription reads {} quota).1 = .error .insufficientUserQuota := by
        simp [asksWallet, hpreference, hactive, trySubscription_refused_iff]
      split
      · rename_i l heq
        obtain rfl : l = {} := by
          have hsound := request.trySubscription_sound reads quota
          rwa [heq] at hsound
        exact hwallet (hasks.2 (by rw [heq]))
      · rename_i hother
        exact hsubscription fun _ h => hother _ (Prod.ext (hasks.1 h.1) rfl)

end TaskRequest

/-! ### The session of the attempts -/

namespace TaskAttempt

/-- The charge of the attempt goes through, so that it opens a session if there is none. -/
def opens (request : TaskRequest) : TaskAttempt → Bool
  | .rejected => false
  | .priced quota reads _ => (request.newBillingSession reads {} quota).1.isOk

def result : TaskAttempt → Option TaskSubmitResult
  | .rejected => none
  | .priced _ _ result => result

end TaskAttempt

/-- Once there is a session, the first attempt that a channel accepts ends the loop. -/
lemma submitAttempts_of_session (request : TaskRequest) (s : BillingSession) (l : Ledger)
    (attempts : List TaskAttempt) : submitAttempts request ⟨some s, l⟩ attempts =
      (⟨some s, l⟩, (attempts.findSome? TaskAttempt.result).map fun result => (s, result)) := by
  induction attempts with
  | nil => rfl
  | cons attempt attempts ih =>
    rw [submitAttempts, List.findSome?_cons]
    cases attempt with
    | rejected => exact ih
    | priced quota reads result =>
      cases result with
      | none => exact ih
      | some result => rfl

/-- The attempts as a whole: none of them charges anything, or the first one that does opens the
    session that all later ones keep. -/
lemma submitAttempts_cases (request : TaskRequest) (attempts : List TaskAttempt) :
    (attempts.dropWhile (!·.opens request) = [] ∧ submitAttempts request {} attempts = ({}, none)) ∨
    ∃ quota reads first later s l,
      attempts.dropWhile (!·.opens request) = .priced quota reads first :: later ∧
      request.newBillingSession reads {} quota = (.ok s, l) ∧
      submitAttempts request {} attempts = (⟨some s, l⟩,
        ((TaskAttempt.priced quota reads first :: later).findSome? TaskAttempt.result).map
          fun result => (s, result)) := by
  induction attempts with
  | nil => exact .inl ⟨rfl, rfl⟩
  | cons attempt attempts ih =>
    cases attempt with
    | rejected => simpa [TaskAttempt.opens, submitAttempts, relayTaskSubmit] using ih
    | priced quota reads first =>
      rcases hcharge : request.newBillingSession reads {} quota with ⟨error | s, l⟩
      · -- A charge that fails has left nothing, as before it.
        obtain rfl : l = {} := by
          have hsound := request.newBillingSession_sound reads quota
          rwa [hcharge] at hsound
        simpa [TaskAttempt.opens, submitAttempts, relayTaskSubmit, hcharge, Except.isOk,
          Except.toBool]
          using ih
      · refine .inr ⟨quota, reads, first, attempts, s, l, ?_, hcharge, ?_⟩
        · simp [TaskAttempt.opens, hcharge, Except.isOk, Except.toBool]
        · rw [← submitAttempts_of_session request]
          cases first <;> simp [submitAttempts, relayTaskSubmit, hcharge]

/-! ## Taking everything back -/

/-- The stores work. -/
def Fate.Available (fate : Fate) : Prop :=
  fate.wallet.isSome = true ∧ fate.subscription.isSome = true ∧ fate.token = true

lemma FundingSource.Took.exists_refund {fate : Fate} {f : FundingSource} {amount : ℤ}
    (h : f.Took amount) (hfate : fate.Available) (l : Ledger) :
      ∃ l', f.refund (stores fate) l = .ok l' := by
  obtain ⟨hwallet, hsubscription, -⟩ := hfate
  obtain ⟨wallet, hwallet⟩ := isSome_iff_exists.1 hwallet
  obtain ⟨id, hsubscription⟩ := isSome_iff_exists.1 hsubscription
  cases f with
  | wallet w =>
    obtain ⟨hconsumed, hsum, hreward, hpaid⟩ := h
    simp only [FundingSource.refund, WalletFunding.refund]
    split_ifs with hzero
    · exact ⟨l, rfl⟩
    · simp only [stores, hwallet, increaseUserQuotaByBreakdown]
      rw [if_neg (by omega), if_neg (by omega), if_neg (by omega)]
      exact ⟨_, rfl⟩
  | subscription f =>
    simp only [FundingSource.refund, SubscriptionFunding.refund, if_neg (not_le.2 h.2.1)]
    simp only [stores, hsubscription]
    exact ⟨_, rfl⟩

section

variable {fate : Fate} {s : BillingSession} {l : Ledger}

/-- A worker that has nothing noted as done gives both sides back. -/
lemma Worker.run_ledger {w : Worker} (hfate : fate.Available) (hstage : w.stage = .funding)
    (hdone : w.fundingDone = false) (htook : s.funding.Took l.funding)
    (htoken : w.returnsToken s = true → l.token = w.tokenAmount)
    (hfree : w.returnsToken s = false → l.token = 0) :
    (run (stores fate) 5 s l (some w)).2 = {} := by
  obtain ⟨l₁, hrefund⟩ := htook.exists_refund hfate l
  obtain rfl := htook.refund rfl hrefund
  obtain ⟨undo, stage, fundingDone, tokenDone, tokenAmount⟩ := w
  obtain rfl : stage = .funding := hstage
  obtain rfl : fundingDone = false := hdone
  -- noting the funding side does not change whether the token has something to give back
  have hreturns : ∀ stage, returnsToken ⟨undo, stage, false, tokenDone, tokenAmount⟩
    (s.markFunding undo) =
      returnsToken ⟨undo, .funding, false, tokenDone, tokenAmount⟩ s := by
    intro stage
    cases undo <;> rfl
  cases hr : returnsToken ⟨undo, .funding, false, tokenDone, tokenAmount⟩ s with
  | true =>
    have hamount : l.token - tokenAmount = 0 := by
      rw [htoken hr]
      exact sub_self _
    have hincrease : (stores fate).increaseTokenQuota { l with funding := 0 } tokenAmount =
        .ok {} := by
      simp only [stores, hfate.2.2, if_true, hamount]
    simp [run, next, hrefund, hreturns, hr, hincrease]
  | false =>
    have hzero : ({ l with funding := 0 } : Ledger) = {} := by rw [hfree hr]
    cases undo <;> simp [run, next, hrefund, hreturns, hr, hzero]

/-- Both sides of what a session has taken are known to it, and can be given back. -/
structure Held (s : BillingSession) (l : Ledger) : Prop where
  initialized : s.quotaStateInitialized = true
  took : s.funding.Took l.funding
  token : l.token = s.tokenQuota
  tokenConsumed : s.tokenConsumed = s.tokenQuota
  tokenQuota : 0 ≤ s.tokenQuota
  tokenFree : s.tokenQuotaRequired = false → s.tokenQuota = 0

lemma Balanced.held (h : Balanced s l) : Held s l :=
  ⟨h.initialized, h.funding ▸ h.took, h.token, h.tokenConsumed, h.tokenQuota, h.tokenFree⟩

/-- A session that was neither settled nor refunded. -/
structure UnsettledSession (s : BillingSession) (l : Ledger) : Prop where
  held : Held s l
  settled : s.settled = false
  refunded : s.refunded = false
  noRefund : s.NoRefund

lemma OpenSession.unsettled (h : OpenSession s l) : UnsettledSession s l :=
  ⟨h.balanced.held, h.settled, h.refunded, h.noRefund⟩

/-- A session that was settled, and not rolled back. -/
structure SettledSession (s : BillingSession) (l : Ledger) : Prop where
  held : Held s l
  settled : s.settled = true
  refunded : s.refunded = false
  noRollback : s.NoRollback

lemma runUndo_refund (hfate : fate.Available) (h : UnsettledSession s l) :
    (runUndo fate s.refund l).2 = {} := by
  obtain ⟨hheld, hsettled, hrefunded, hstarted, hinflight, hfundingDone, htokenDone⟩ := h
  have hinit : s.initializeQuotaState = s := if_pos hheld.initialized
  have htookl := hheld.took
  have htokenl := hheld.token.trans hheld.tokenConsumed.symm
  have hnonneg := hheld.tokenConsumed ▸ hheld.tokenQuota
  cases hneeds : s.needsRefund with
  | false =>
    -- nothing was taken from either side
    have hnone : s.refund = (s, none) := by
      rw [refund, if_pos (by simp [hneeds])]
    rw [hnone]
    simp only [needsRefund, hsettled, hrefunded, htokenDone, hfundingDone, Bool.or_self,
      Bool.false_eq_true, if_false, Bool.not_false, Bool.true_and, Bool.or_eq_false_iff,
        decide_eq_false_iff_not,
      not_lt] at hneeds
    have htoken := htokenl.trans (le_antisymm hneeds.1 hnonneg)
    have hfunding : l.funding = 0 := by
      cases hf : s.funding with
      | wallet w =>
        rw [hf] at htookl hneeds
        have hle : w.consumed ≤ 0 := by simpa [FundingSource.refundable] using hneeds.2
        exact le_antisymm (htookl.1 ▸ hle) htookl.nonneg
      | subscription f =>
        rw [hf] at htookl hneeds
        have hle : f.preConsumed ≤ 0 := by simpa [FundingSource.refundable] using hneeds.2
        exact absurd htookl.2.1 (not_lt.2 hle)
    exact congrArg₂ Ledger.mk hfunding htoken
  | true =>
    have hguard : ¬(s.settled || s.refunded || s.refundInFlight || !s.needsRefund) = true := by
      simp [hsettled, hrefunded, hinflight, hneeds]
    rw [refund, if_neg hguard, hinit]
    refine run_ledger hfate rfl hfundingDone htookl (fun _ => htokenl) fun hfree => ?_
    -- the token has nothing to give back, or does not count the request
    simp only [returnsToken, htokenDone, Bool.false_or, Bool.and_eq_false_iff, Bool.not_eq_false',
      Bool.or_eq_true, decide_eq_true_eq, decide_eq_false_iff_not, not_lt] at hfree
    rw [htokenl]
    have hplayground : s.relayInfo.isPlayground = true → s.tokenConsumed = 0 := fun hp => by
      rw [hheld.tokenConsumed]
      exact hheld.tokenFree (by simp [tokenQuotaRequired, hp])
    rcases hfree with ((hp | hle) | hle) | hp
    · exact hplayground hp
    · exact le_antisymm hle hnonneg
    · exact le_antisymm hle hnonneg
    · exact hplayground hp

lemma SettledSession.rollbackSettlement (h : SettledSession s l) : s.rollbackSettlement =
      ({ s with rollbackInFlight := true }, some ⟨.rollback, .funding, false, false,
        s.tokenQuota⟩) := by
  obtain ⟨hheld, hsettled, hrefunded, hrolled, hinflight, hfundingDone, htokenDone⟩ := h
  have hinit : s.initializeQuotaState = s := if_pos hheld.initialized
  rw [BillingSession.rollbackSettlement, if_neg (by simp [hrolled, hrefunded]),
    if_neg (by simp [hsettled]), if_neg (by simp [hinflight]), hinit]
  dsimp only
  rw [hfundingDone, htokenDone]

lemma runUndo_rollbackSettlement (hfate : fate.Available) (h : SettledSession s l) :
    (runUndo fate s.rollbackSettlement l).2 = {} := by
  have hheld := h.held
  rw [h.rollbackSettlement]
  refine run_ledger hfate rfl rfl hheld.took (fun _ => hheld.token) fun hfree => ?_
  simp only [returnsToken, Bool.not_false, Bool.true_and, Bool.and_eq_false_iff,
    Bool.not_eq_false', decide_eq_false_iff_not, not_lt] at hfree
  rw [hheld.token]
  rcases hfree with hle | hp
  · exact le_antisymm hle hheld.tokenQuota
  · exact hheld.tokenFree (by simp [tokenQuotaRequired, hp])

end

/-! ## Settling -/

section

variable {fate : Fate} {s : BillingSession} {l : Ledger} {relayInfo : RelayInfo} {quota target : ℤ}

/-- A settlement closes the session at its target, or leaves it unsettled. -/
lemma OpenSession.settle (h : OpenSession s l) {r : Outcome Ledger Unit}
    (hr : s.settle (stores fate) l target = r) :
    (r.error = none ∧ SettledSession r.session r.store ∧ r.store.funding = target) ∨
      (r.error ≠ none ∧ UnsettledSession r.session r.store) := by
  obtain ⟨hb, hsettled, hrefunded, hrefund, hrollback⟩ := h
  obtain ⟨r₁, hr₁, hsettle⟩ := settle_of_open (stores fate) hrefund.1 hsettled hrollback.1
    hrefunded l target
  have hpending : Balanced { s with progressPending := false } l := { hb with }
  obtain ⟨hbr, funding, fundingQuota, tokenQuota, hsession, hquota⟩ :=
    hpending.applyTarget fate target
  rw [← hr₁] at hbr hsession hquota
  obtain rfl := hr.symm.trans hsettle
  have hheld := hbr.held
  have hfunding := hbr.funding
  obtain ⟨error, session, l'⟩ := r₁
  obtain rfl : session = _ := hsession
  cases error with
  | none => exact .inl ⟨rfl, ⟨{ hheld with }, rfl, hrefunded, hrollback⟩,
    hfunding.trans (hquota rfl)⟩
  | some e => exact .inr ⟨nofun, { hheld with }, hsettled, hrefunded, hrefund⟩

lemma undercharged_unsettled (relayInfo : RelayInfo) (quota : ℤ) :
    UnsettledSession (undercharged relayInfo quota) {} :=
  ⟨⟨rfl, ⟨rfl, rfl, le_rfl, le_rfl⟩, rfl, rfl, le_rfl, fun _ => rfl⟩, rfl, rfl,
    ⟨rfl, rfl, rfl, rfl⟩⟩

/-- The wallet that is found has the amount. -/
def Fate.covers (fate : Fate) (amount : ℤ) : Bool :=
  fate.wallet.any fun wallet => (decreaseUserQuotaPreferReward wallet amount).isOk

/-- A settlement at `target` goes through after a charge of `quota` below zero: the wallet covers
    what the session takes for outstanding, and the token the target. -/
def Settles (relayInfo : RelayInfo) (fate : Fate) (quota target : ℤ) : Prop :=
  0 ≤ target ∧ fate.covers (target - quota) = true ∧
    (target = 0 ∨ relayInfo.isPlayground = true ∨ fate.token = true)

/-- The funding side of a settlement after a charge below zero. -/
lemma adjustFunding_undercharged (hneg : quota < 0) (htarget : 0 ≤ target) :
    if fate.covers (target - quota) then
      ∃ w : WalletFunding, (FundingSource.wallet w).Took (target - quota) ∧
        (undercharged relayInfo quota).adjustFunding (stores fate) {} target =
          .ok ({ undercharged relayInfo quota with funding := .wallet w, fundingQuota := target },
            ⟨target - quota, 0⟩)
    else ∃ e, (undercharged relayInfo quota).adjustFunding (stores fate) {} target = .error e := by
  have hpos : 0 < target - quota := by omega
  have hsettle : WalletFunding.settle (stores fate) {} {} (target - quota) =
      ((stores fate).decreaseUserQuotaPreferReward {} (target - quota)).map fun (b, l) =>
        (({} : WalletFunding).add b (0 + (target - quota)), l) := by
    rw [WalletFunding.settle, if_neg hpos.ne', if_pos hpos]
  have hadjust : (undercharged relayInfo quota).adjustFunding (stores fate) {} target =
      ((FundingSource.wallet {}).settle (stores fate) {} (target - quota)).map fun r =>
        ({ undercharged relayInfo quota with funding := r.1, fundingQuota := target }, r.2) :=
    if_pos (by exact hpos.ne')
  rw [hadjust, FundingSource.settle, hsettle]
  rcases hwallet : fate.wallet with _ | wallet
  · simp [Fate.covers, stores, hwallet, Except.map]
  rcases hdecrease : decreaseUserQuotaPreferReward wallet (target - quota) with e | ⟨b, wallet'⟩
  · simp [Fate.covers, stores, hwallet, hdecrease, Except.map, Except.isOk, Except.toBool]
  · have hstore : (stores fate).decreaseUserQuotaPreferReward {} (target - quota) =
        .ok (b, ⟨target - quota, 0⟩) := by simp [stores, hwallet, hdecrease]
    obtain ⟨-, hparts, hreward, hpaid⟩ := Ledger.decrease_eq_ok hpos hstore
    rw [if_pos (by simp [Fate.covers, hwallet, hdecrease, Except.isOk, Except.toBool]), hstore]
    refine ⟨({} : WalletFunding).add b (0 + (target - quota)), ⟨zero_add _, ?_⟩, rfl⟩
    simpa [WalletFunding.add] using ⟨hparts, hreward, hpaid⟩

/-- The token side of a settlement of a session that has taken nothing from the token. -/
lemma adjustToken_of_wallet (hsource : s.funding.isSubscription = false) (hzero : s.tokenQuota = 0)
    (htarget : 0 ≤ target) :
    if target = 0 ∨ s.relayInfo.isPlayground = true ∨ fate.token = true then
      ∃ amount, 0 ≤ amount ∧ (s.tokenQuotaRequired = false → amount = 0) ∧
        s.adjustToken (stores fate) ⟨quota, 0⟩ target =
          .ok ({ s with tokenQuota := amount, tokenConsumed := amount }, ⟨quota, amount⟩)
    else ∃ e, s.adjustToken (stores fate) ⟨quota, 0⟩ target = .error e := by
  rw [adjustToken, hzero, sub_zero]
  cases hplayground : s.relayInfo.isPlayground with
  | true =>
    rw [if_pos (.inr (.inl rfl))]
    exact ⟨0, le_rfl, fun _ => rfl, if_neg (by simp [tokenQuotaRequired, hplayground])⟩
  | false =>
    have hrequired : s.tokenQuotaRequired = true := by simp [tokenQuotaRequired,
      hplayground, hsource]
    rw [if_pos hrequired, adjustTokenQuota]
    rcases htarget.eq_or_lt with rfl | hpos
    · rw [if_pos (.inl rfl)]
      exact ⟨0, le_rfl, fun _ => rfl, rfl⟩
    · rw [if_neg hpos.ne', if_pos hpos]
      cases htoken : fate.token with
      | true =>
        rw [if_pos (.inr (.inr rfl))]
        exact ⟨target, htarget, fun h => Bool.noConfusion (hrequired.symm.trans h),
          by simp [stores, htoken, Except.map]⟩
      | false =>
        rw [if_neg (by simp [hpos.ne'])]
        exact ⟨(), by simp [stores, htoken, Except.map]⟩

/-- A settlement after a charge below zero takes what was not charged on top of its target. -/
lemma settle_undercharged (hneg : quota < 0) {r : Outcome Ledger Unit}
    (hr : (undercharged relayInfo quota).settle (stores fate) {} target = r) :
    (r.error = none ∧ SettledSession r.session r.store ∧ r.store.funding = target - quota ∧
        Settles relayInfo fate quota target) ∨
      (r.error ≠ none ∧ UnsettledSession r.session r.store ∧
        ¬Settles relayInfo fate quota target) := by
  have hopen := undercharged_unsettled relayInfo quota
  obtain ⟨r₁, hr₁, hsettle⟩ :=
    @settle_of_open _ _ (stores fate) (undercharged relayInfo quota) rfl rfl rfl rfl
    {} target
  obtain rfl := hr.symm.trans hsettle
  change r₁ = (undercharged relayInfo quota).applyTarget (stores fate) {} target at hr₁
  have hfunding (htarget : 0 ≤ target) :=
    @adjustFunding_undercharged fate relayInfo quota target hneg htarget
  rcases applyTarget_cases (stores fate) (show (undercharged relayInfo quota).quotaStateInitialized
    = true from rfl)
    {} target with ⟨htarget, heq⟩ | ⟨htarget, e, hfails, heq⟩ | ⟨htarget, s₁, l₁, hok, htoken⟩
  · obtain rfl := hr₁.trans heq
    exact .inr ⟨nofun, hopen, fun h => absurd h.1 (not_le.2 htarget)⟩
  · obtain rfl := hr₁.trans heq
    refine .inr ⟨nofun, hopen, fun h => ?_⟩
    have hcovers := hfunding htarget
    rw [if_pos h.2.1] at hcovers
    obtain ⟨w, -, hok⟩ := hcovers
    exact absurd (hfails.symm.trans hok) nofun
  · have hcovers := hfunding htarget
    split_ifs at hcovers with hwallet
    · obtain ⟨w, htook, hok'⟩ := hcovers
      obtain ⟨rfl, rfl⟩ := Prod.mk.inj (Except.ok.inj (hok.symm.trans hok'))
      have hside := @adjustToken_of_wallet fate
        { undercharged relayInfo quota with funding := .wallet w, fundingQuota := target }
          (target - quota)
        target rfl rfl htarget
      split_ifs at hside with hcond
      · obtain ⟨amount, hnonneg, hfree, hgoes⟩ := hside
        rcases htoken with ⟨e, hfails, -⟩ | ⟨s₂, l₂, hgoes', heq⟩
        · exact absurd (hfails.symm.trans hgoes) nofun
        obtain ⟨rfl, rfl⟩ := Prod.mk.inj (Except.ok.inj (hgoes'.symm.trans hgoes))
        obtain rfl := hr₁.trans heq
        exact .inl ⟨rfl, ⟨⟨rfl, htook, rfl, rfl, hnonneg, hfree⟩, rfl, rfl, ⟨rfl, rfl, rfl, rfl⟩⟩,
          rfl, htarget, hwallet, hcond⟩
      · obtain ⟨e, hfails⟩ := hside
        rcases htoken with ⟨e, hfails', heq⟩ | ⟨s₂, l₂, hgoes, -⟩
        · obtain rfl := hr₁.trans heq
          exact .inr ⟨nofun, ⟨⟨rfl, htook, rfl, rfl, le_rfl, fun _ => rfl⟩, rfl, rfl,
            ⟨rfl, rfl, rfl, rfl⟩⟩, fun h => hcond h.2.2⟩
        · exact absurd (hfails.symm.trans hgoes) nofun
    · obtain ⟨e, hfails⟩ := hcovers
      exact absurd (hfails.symm.trans hok) nofun

end

/-! ## Every request -/

section

variable {fate : Fate} {s : BillingSession} {l : Ledger}

lemma runUndo_refund_of_settled (h : s.settled = true) (l : Ledger) :
    runUndo fate s.refund l = (s, l) := by
  rw [refund, if_pos (by simp [h])]
  rfl

lemma Worker.next_settled (h : s.settled = true) (l : Ledger) (w : Worker) :
    (w.next (stores fate) s l).1.1.settled = true := by
  rw [next]
  split
  · split_ifs
    · exact h
    · split <;> exact h
  · cases w.undo <;> exact h
  · split_ifs
    · split <;> exact h
    · split <;> exact h
  · cases w.undo <;> exact h
  · cases w.undo <;> exact h

lemma Worker.run_settled (n : ℕ) (h : s.settled = true) (l : Ledger) (o : Option Worker) :
    (run (stores fate) n s l o).1.settled = true := by
  induction n generalizing s l o with
  | zero => exact h
  | succ n ih =>
    cases o with
    | none => exact h
    | some w => exact ih (next_settled h l w) _ _

lemma SettledSession.settled_rollback (h : SettledSession s l) :
    (runUndo fate s.rollbackSettlement l).1.settled = true := by
  rw [h.rollbackSettlement]
  exact run_settled 5 (s := { s with rollbackInFlight := true }) h.settled _ _

lemma SettledSession.initTask (h : SettledSession s l) (request : TaskRequest)
    {result : TaskSubmitResult} (hquota : l.funding = result.quota) (now : ℤ) :
    (request.initTask s result now).quota = l.funding ∧
      ((request.initTask s result now).privateData.billingSource = .wallet →
        (request.initTask s result now).privateData.walletRewardUsed +
          (request.initTask s result now).privateData.walletPaidUsed = l.funding) := by
  have htook := h.held.took
  refine ⟨hquota.symm, fun hwallet => ?_⟩
  rw [TaskRequest.initTask] at hwallet ⊢
  cases hf : s.funding with
  | wallet w =>
    rw [hf] at htook
    exact htook.2.1
  | subscription f =>
    simp only [hf] at hwallet
    cases hwallet

/-- Either the row that was inserted says what was taken, or nothing was taken. -/
def RelayedTask.Accounted (r : RelayedTask) : Prop :=
  (∃ task, r.rows = [task] ∧ task.quota = r.ledger.funding ∧
    (task.privateData.billingSource = .wallet →
      task.privateData.walletRewardUsed + task.privateData.walletPaidUsed = r.ledger.funding)) ∨
  (r.rows = [] ∧ r.ledger = { funding := 0, token := 0 })

/-- A row is inserted only for a settlement that went through; everything else is given back. -/
lemma insertTask_accounted_iff {request : TaskRequest} {result : TaskSubmitResult} {fate : TaskFate}
    {r : Outcome Ledger Unit} (hundo : fate.undo.Available)
    (h : (r.error = none ∧ SettledSession r.session r.store) ∨
      (r.error ≠ none ∧ UnsettledSession r.session r.store)) :
    (request.insertTask result fate r).Accounted ↔
      (r.error = none → fate.inserted = true → r.store.funding = result.quota) := by
  rw [TaskRequest.insertTask]
  rcases h with ⟨hnone, hset⟩ | ⟨hsome, hopen⟩
  · rw [hnone]
    split_ifs with hinserted
    · refine ⟨fun h _ _ => ?_, fun h =>
        .inl ⟨_, rfl, hset.initTask request (h rfl hinserted) fate.now⟩⟩
      rcases h with ⟨task, hrows, hquota, -⟩ | ⟨hrows, -⟩
      · obtain rfl := List.singleton_inj.1 hrows
        exact hquota.symm
      · cases hrows
    · refine iff_of_true (.inr ⟨rfl, ?_⟩) fun _ h => absurd h hinserted
      dsimp only
      rw [runUndo_refund_of_settled hset.settled_rollback]
      exact runUndo_rollbackSettlement hundo hset
  · split
    · exact iff_of_true (.inr ⟨rfl, runUndo_refund hundo hopen⟩) fun h => absurd h hsome
    · rename_i hnone
      exact absurd hnone hsome

end

/-- The request takes more than its row says: the attempt that opens the session has a price below
    zero, the wallet pays, and a task is accepted, settled and inserted. -/
def Overcharges (request : TaskRequest) (attempts : List TaskAttempt) (fate : TaskFate) : Prop :=
  ∃ quota reads first later,
    attempts.dropWhile (!·.opens request) = TaskAttempt.priced quota reads first :: later ∧
    quota < 0 ∧ request.WalletPays reads ∧ fate.inserted = true ∧
    ∃ result ∈ (TaskAttempt.priced quota reads first :: later).findSome? TaskAttempt.result,
      Settles request.relayInfo fate.settle quota result.quota

/-- Only the attempt that opens the session can be the one that overcharges. -/
lemma overcharges_iff {request : TaskRequest} {attempts later : List TaskAttempt} {quota : ℤ}
    {reads : ChargeReads} {first : Option TaskSubmitResult} (fate : TaskFate)
    (hdrop : attempts.dropWhile (!·.opens request) = .priced quota reads first :: later) :
    Overcharges request attempts fate ↔ quota < 0 ∧ request.WalletPays reads ∧
      fate.inserted = true ∧
      ∃ result ∈ (TaskAttempt.priced quota reads first :: later).findSome? TaskAttempt.result,
        Settles request.relayInfo fate.settle quota result.quota := by
  refine ⟨?_, fun h => ⟨quota, reads, first, later, hdrop, h⟩⟩
  rintro ⟨quota', reads', first', later', hdrop', h⟩
  obtain ⟨⟨⟩, rfl⟩ := List.cons.inj (hdrop.symm.trans hdrop')
  exact h

/-- **Accounting of a task.** Once the refund is finished, too, either the one row that was inserted
    says what was taken from the source, or there is no row and nothing was taken; exactly if the
    request does not settle a charge below zero. -/
theorem relayTask_accounted_iff (request : TaskRequest) (attempts : List TaskAttempt)
    (fate : TaskFate) (hundo : fate.undo.Available)
    (hsettled : ∀ s result, (submitAttempts request {} attempts).2 = some (s, result) →
      0 < result.quota ∨ s.funding.isSubscription = false) :
    (relayTask request attempts fate).Accounted ↔ ¬Overcharges request attempts fate := by
  rcases submitAttempts_cases request attempts with
    ⟨hdrop, hattempts⟩ | ⟨quota, reads, first, later, s, l, hdrop, hcharge, hattempts⟩
  · rw [relayTask, hattempts]
    refine iff_of_true (.inr ⟨rfl, rfl⟩) ?_
    rintro ⟨quota, reads, first, later, hopens, -⟩
    exact absurd (hdrop.symm.trans hopens) nofun
  rw [overcharges_iff fate hdrop]
  have hsound := request.newBillingSession_sound reads quota
  rw [hcharge] at hsound
  rw [hattempts] at hsettled
  rw [relayTask, hattempts]
  generalize (TaskAttempt.priced quota reads first :: later).findSome? TaskAttempt.result =
    accepted at *
  cases accepted with
  | none =>
    refine iff_of_true (.inr ⟨rfl, runUndo_refund hundo ?_⟩) fun ⟨_, _, _, _, h, _⟩ => nomatch h
    rcases hsound with ⟨-, hopen⟩ | ⟨-, rfl, relayInfo, -, rfl⟩
    · exact hopen.unsettled
    · exact undercharged_unsettled relayInfo quota
  | some result =>
    have hquota : settleBilling (stores fate.settle) s l result.quota =
        s.settle (stores fate.settle) l result.quota := by
      rw [settleBilling]
      rcases hsettled s result rfl with hpos | hwallet
      · simp [hpos.ne']
      · simp [hwallet]
    change (request.insertTask result fate _).Accounted ↔ _
    rw [hquota]
    rcases hsound with ⟨hnot, hopen⟩ | ⟨⟨hneg, hpays⟩, rfl, relayInfo, hplayground, rfl⟩
    · refine iff_of_true ?_ fun h => hnot ⟨h.1, h.2.1⟩
      rcases hopen.settle rfl with ⟨hnone, hset, htarget⟩ | ⟨hsome, hopen⟩
      · exact (insertTask_accounted_iff hundo (.inl ⟨hnone, hset⟩)).2 fun _ _ => htarget
      · exact (insertTask_accounted_iff hundo (.inr ⟨hsome, hopen⟩)).2 fun h => absurd h hsome
    · have hsettles : Settles relayInfo fate.settle quota result.quota ↔
          Settles request.relayInfo fate.settle quota result.quota := by
        rw [Settles, Settles, hplayground]
      rcases settle_undercharged hneg rfl with
        ⟨hnone, hset, hfunding, hgoes⟩ | ⟨hsome, hopen, hfails⟩
      · rw [insertTask_accounted_iff hundo (.inl ⟨hnone, hset⟩), hfunding]
        constructor
        · rintro h ⟨-, -, hinserted, -⟩
          have := h hnone hinserted
          omega
        · intro h _ hinserted
          exact absurd ⟨hneg, hpays, hinserted, result, rfl, hsettles.1 hgoes⟩ h
      · refine iff_of_true ((insertTask_accounted_iff hundo (.inr ⟨hsome, hopen⟩)).2 fun h =>
          absurd h hsome) ?_
        rintro ⟨-, -, -, _, ⟨⟩, hgoes⟩
        exact hfails (hsettles.2 hgoes)

namespace Undercut

/-- The stores work, and there is enough in the wallet. -/
def working : Fate := { wallet := some ⟨100, 4⟩, subscription := some 1, token := true }

def reads : ChargeReads where
  userQuota := some 100
  hasActiveSubscription := some false
  wallet := working
  subscription := working
  subscriptionUnavailable := false

def request : TaskRequest where
  requestId := "req-1"
  userId := 1
  preference := .walletOnly

/-- The first channel fails, and the second one, at another price, accepts the task. -/
def attempts (first second : ℤ) : List TaskAttempt :=
  [.priced first reads none, .priced second reads (some { quota := second })]

def fate : TaskFate where
  settle := working
  inserted := true
  undo := working

end Undercut

/-- The second attempt is dearer than the first, and the session is raised to it. -/
theorem relayTask_accounted_undercut :
    (relayTask Undercut.request (Undercut.attempts 5 10) Undercut.fate).rows.length = 1 ∧
      (relayTask Undercut.request (Undercut.attempts 5 10) Undercut.fate).ledger.funding = 10 ∧
      (relayTask Undercut.request (Undercut.attempts 5 10) Undercut.fate).Accounted := by
  refine ⟨by decide +kernel, by decide +kernel, ?_⟩
  refine (relayTask_accounted_iff Undercut.request (Undercut.attempts 5 10) Undercut.fate
    ⟨rfl, rfl, rfl⟩
    fun s result hr => ?_).2 ?_
  · obtain ⟨-, rfl⟩ := Prod.mk.inj (some.inj hr)
    exact .inl (by decide)
  · -- The first attempt opens the session, at `5`.
    have hdrop : (Undercut.attempts 5 10).dropWhile (!·.opens Undercut.request) =
      Undercut.attempts 5 10 := rfl
    rintro ⟨quota, reads, first, later, hopens, hneg, -⟩
    obtain ⟨⟨⟩, -⟩ := List.cons.inj (hdrop.symm.trans hopens)
    exact absurd hneg (by decide)

/-- A first attempt at a negative quota takes nothing, and the raise takes too much. -/
theorem relayTask_overcharges : Undercut.fate.undo.Available ∧
      ∃ task, relayTask Undercut.request (Undercut.attempts (-5) 10) Undercut.fate =
        ⟨[task], ⟨15, 10⟩⟩ ∧
        task.quota = 10 ∧ task.privateData.billingSource = .wallet ∧
        task.privateData.walletRewardUsed + task.privateData.walletPaidUsed = 15 := by
  refine ⟨⟨rfl, rfl, rfl⟩, _, rfl, ?_, ?_, ?_⟩ <;> decide +kernel

end Allrouter
