import Allrouter.Billing.Funding

/-!
# Billing sessions

A billing session charges a request in advance (`BillingSession.preConsume`), moves
the charge to what the request costs (`settleProgress`, `settle`), or takes it back
(`refund` before the settlement, `rollbackSettlement` after it).

Funding source and token are charged one after the other, each on its own:
`fundingQuota` and `tokenQuota` are the amounts that went through, and a call that
failed half way is repeated on the side that is behind (`applyTarget`).

What takes a charge back runs outside the lock of the session, store operation by
store operation (`Worker`). The flags of the session keep it from running twice.
-/

namespace Allrouter

/-- What a session reads of its request. -/
structure RelayInfo where
  (isPlayground forcePreConsume tokenUnlimited : Bool := false)
  (tokenQuota userQuota : ℤ := 0)
  trustQuota : ℤ := 5000000
  deriving DecidableEq

/-- A session: what it has taken, and how far it was settled or refunded. -/
structure BillingSession where
  relayInfo : RelayInfo
  funding : FundingSource
  (preConsumedQuota tokenConsumed fundingQuota tokenQuota : ℤ := 0)
  quotaStateInitialized : Bool := false
  settled : Bool := false
  refunded : Bool := false
  refundStarted : Bool := false
  refundInFlight : Bool := false
  refundFundingDone : Bool := false
  refundTokenDone : Bool := false
  (settlementRolledBack rollbackInFlight rollbackFundingDone rollbackTokenDone progressPending :
    Bool := false)
  (pendingProgressDelta pendingProgressTarget : ℤ := 0)
  deriving DecidableEq

/-- Why a session refuses a call. -/
inductive BillingError (ε : Type*)
  | store (e : ε)
  | preConsumeTokenQuotaFailed (e : ε)
  /-- "资金预扣失败且令牌额度回退失败: …" -/
  | tokenRollbackFailed (e : ε)
  /-- "actual quota must be >= 0" -/
  | negativeQuota
  /-- "billing session refund already started" -/
  | refundStarted
  /-- "billing settlement rollback already in progress" -/
  | rollbackInProgress
  deriving DecidableEq

/-- What a call leaves behind, also where it fails. -/
structure Outcome (σ ε : Type*) where
  error : Option (BillingError ε)
  session : BillingSession
  store : σ
  deriving DecidableEq

namespace BillingSession

variable {σ ε : Type*} (stores : BillingStores σ ε) (s : BillingSession)

/-- The token counts the request, too. -/
def tokenQuotaRequired : Bool := !s.relayInfo.isPlayground && !s.funding.isSubscription

def initializeQuotaState : BillingSession :=
  if s.quotaStateInitialized then s
  else { s with
    fundingQuota := s.preConsumedQuota
    tokenQuota := s.tokenConsumed
    quotaStateInitialized := true }

/-! ## Charging in advance -/

/-- A user with plenty left is not charged in advance. A subscription always is. -/
def shouldTrust : Bool :=
  !s.relayInfo.forcePreConsume && s.relayInfo.trustQuota > 0 &&
    (s.relayInfo.tokenUnlimited || s.relayInfo.tokenQuota > s.relayInfo.trustQuota) &&
    !s.funding.isSubscription && s.relayInfo.userQuota > s.relayInfo.trustQuota

def reserveToken (x : σ) (effectiveQuota : ℤ) : Except ε (BillingSession × σ) :=
  if effectiveQuota > 0 ∧ s.tokenQuotaRequired then
    (stores.preConsumeTokenQuota x s.relayInfo.tokenUnlimited effectiveQuota).map fun x =>
      ({ s with tokenConsumed := effectiveQuota }, x)
  else .ok (s, x)

/-- Takes the token reservation back when the funding source has failed with `e`. -/
def rollbackReservation (x : σ) (e : ε) : Outcome σ ε :=
  if s.tokenConsumed > 0 ∧ !s.relayInfo.isPlayground then
    match refundWithRetry (stores.increaseTokenQuota · s.tokenConsumed) x with
    | .error e' => ⟨some (.tokenRollbackFailed e'), s, x⟩
    | .ok x => ⟨some (.store e), { s with tokenConsumed := 0, tokenQuota := 0 }, x⟩
  else ⟨some (.store e), s, x⟩

def preConsume (x : σ) (quota : ℤ) : Outcome σ ε :=
  let effectiveQuota := if s.shouldTrust then 0 else quota
  match s.reserveToken stores x effectiveQuota with
  | .error e => ⟨some (.preConsumeTokenQuotaFailed e), s, x⟩
  | .ok (s, x) =>
    match s.funding.preConsume stores x effectiveQuota with
    | .error e => s.rollbackReservation stores x e
    | .ok (funding, x) =>
      ⟨none, { s with
        funding := funding
        preConsumedQuota := effectiveQuota
        fundingQuota := effectiveQuota
        tokenQuota := s.tokenConsumed
        quotaStateInitialized := true }, x⟩

/-! ## Settling -/

/-- Moves the funds to the target. -/
def adjustFunding (x : σ) (target : ℤ) : Except ε (BillingSession × σ) :=
  if target - s.fundingQuota ≠ 0 then
    (s.funding.settle stores x (target - s.fundingQuota)).map fun (funding, x) =>
      ({ s with funding := funding, fundingQuota := target }, x)
  else .ok (s, x)

def adjustTokenQuota (x : σ) (delta : ℤ) : Except ε σ :=
  if delta = 0 then .ok x
  else if delta > 0 then stores.decreaseTokenQuota x delta
  else stores.increaseTokenQuota x (-delta)

/-- Moves the token side to `target`, or to zero if the token does not count the request. -/
def adjustToken (x : σ) (target : ℤ) : Except ε (BillingSession × σ) :=
  if s.tokenQuotaRequired then
    (adjustTokenQuota stores x (target - s.tokenQuota)).map fun x =>
      ({ s with tokenQuota := target, tokenConsumed := target }, x)
  else .ok ({ s with tokenQuota := 0, tokenConsumed := 0 }, x)

/-- Moves both sides to `target`. Where the second one fails the first one has moved. -/
def applyTarget (x : σ) (target : ℤ) : Outcome σ ε :=
  if target < 0 then ⟨some .negativeQuota, s, x⟩
  else
    let s := s.initializeQuotaState
    match s.adjustFunding stores x target with
    | .error e => ⟨some (.store e), s, x⟩
    | .ok (s, x) =>
      match s.adjustToken stores x target with
      | .error e => ⟨some (.store e), s, x⟩
      | .ok (s, x) => ⟨none, s, x⟩

lemma applyTarget_cases {s : BillingSession} (hinit : s.quotaStateInitialized = true) (x : σ)
    (target : ℤ) :
    (target < 0 ∧ s.applyTarget stores x target = ⟨some .negativeQuota, s, x⟩) ∨
    (0 ≤ target ∧ ∃ e, s.adjustFunding stores x target = .error e ∧
      s.applyTarget stores x target = ⟨some (.store e), s, x⟩) ∨
    (0 ≤ target ∧ ∃ s₁ x₁, s.adjustFunding stores x target = .ok (s₁, x₁) ∧
      ((∃ e, s₁.adjustToken stores x₁ target = .error e ∧ s.applyTarget stores x target =
        ⟨some (.store e), s₁, x₁⟩) ∨
      ∃ s₂ x₂, s₁.adjustToken stores x₁ target = .ok (s₂, x₂) ∧ s.applyTarget stores x target =
        ⟨none, s₂, x₂⟩)) := by
  have hsame : s.initializeQuotaState = s := if_pos hinit
  rw [applyTarget, hsame]
  split_ifs with hneg
  · exact .inl ⟨hneg, rfl⟩
  · refine .inr ?_
    cases hfunding : s.adjustFunding stores x target with
    | error e => exact .inl ⟨not_lt.1 hneg, e, rfl, by simp only [hfunding]⟩
    | ok r =>
      refine .inr ⟨not_lt.1 hneg, r.1, r.2, rfl, ?_⟩
      cases htoken : r.1.adjustToken stores r.2 target with
      | error e => exact .inl ⟨e, rfl, by simp only [hfunding, htoken]⟩
      | ok r' => exact .inr ⟨r'.1, r'.2, rfl, by simp only [hfunding, htoken]⟩

def settle (x : σ) (actualQuota : ℤ) : Outcome σ ε :=
  if s.refundStarted then ⟨some .refundStarted, s, x⟩
  else if s.settled || s.settlementRolledBack || s.refunded then ⟨none, s, x⟩
  else
    let r := { s with progressPending := false }.applyTarget stores x actualQuota
    match r.error with
    | some _ => r
    | none => { r with session := { r.session with settled := true } }

lemma settle_of_open {s : BillingSession} (hstarted : s.refundStarted = false)
    (hsettled : s.settled = false) (hrolled : s.settlementRolledBack = false)
    (hrefunded : s.refunded = false) (x : σ) (actualQuota : ℤ) :
    ∃ r, r = { s with progressPending := false }.applyTarget stores x actualQuota ∧
      s.settle stores x actualQuota =
        { r with session := { r.session with settled := r.error.isNone ||
            r.session.settled } } := by
  refine ⟨_, rfl, ?_⟩
  rw [settle, if_neg (by simp [hstarted]), if_neg (by simp [hsettled, hrolled, hrefunded])]
  generalize { s with progressPending := false }.applyTarget stores x actualQuota = r
  obtain ⟨error, session, store⟩ := r
  cases error <;> rfl

/-- The amount that a change by `delta` comes to. Repeating a change that failed does
    not add it again. -/
def progressTarget (delta : ℤ) : ℤ :=
  max 0 <|
    if s.progressPending then
      if delta = s.pendingProgressDelta then s.pendingProgressTarget
        else s.pendingProgressTarget + delta
    else s.fundingQuota + delta

/-- Changes the charge by `delta` while the request is running. -/
def settleProgress (x : σ) (delta : ℤ) : Outcome σ ε :=
  if s.refundStarted then ⟨some .refundStarted, s, x⟩
  else if s.settled then ⟨none, s, x⟩
  else
    let s := s.initializeQuotaState
    let target := s.progressTarget delta
    let r := { s with
      progressPending := true
      pendingProgressDelta := delta
      pendingProgressTarget := target }.applyTarget stores x target
    match r.error with
    | some _ => r
    | none => { r with session := { r.session with progressPending := false } }

lemma settleProgress_of_open {s : BillingSession} (hstarted : s.refundStarted = false)
    (hsettled : s.settled = false) (hinit : s.quotaStateInitialized = true) (x : σ) (delta : ℤ) :
      ∃ r, r = { s with
        progressPending := true
        pendingProgressDelta := delta
        pendingProgressTarget := s.progressTarget delta }.applyTarget stores x
          (s.progressTarget delta) ∧
      s.settleProgress stores x delta =
        { r with session := { r.session with
            progressPending := r.error.isSome && r.session.progressPending } } := by
  refine ⟨_, rfl, ?_⟩
  have hsame : s.initializeQuotaState = s := if_pos hinit
  rw [settleProgress, if_neg (by simp [hstarted]), if_neg (by simp [hsettled]), hsame]
  dsimp only
  generalize { s with
    progressPending := true
    pendingProgressDelta := delta
    pendingProgressTarget := s.progressTarget delta }.applyTarget stores x
      (s.progressTarget delta) = r
  obtain ⟨error, session, store⟩ := r
  cases error <;> rfl

end BillingSession

/-! ## Taking a charge back -/

/-- A charge is taken back before its settlement, or after it. -/
inductive Undo
  | refund
  | rollback
  deriving DecidableEq

/-- What is done next: a store operation, or a note in the session that it went through. -/
inductive Undo.Stage
  | funding
  | fundingDone
  | token
  | tokenDone
  | finish
  deriving DecidableEq

/-- Taking a charge back, outside the lock: what it has read of the session, and where
    it is. -/
structure Worker where
  undo : Undo
  stage : Undo.Stage
  (fundingDone tokenDone : Bool)
  tokenAmount : ℤ
  deriving DecidableEq

namespace BillingSession

variable (s : BillingSession)

/-- Something was taken that is neither settled nor given back. -/
def needsRefund : Bool :=
  if s.settled || s.refunded then false
  else (!s.refundTokenDone && s.tokenConsumed > 0) || (!s.refundFundingDone && s.funding.refundable)

/-- Starts a refund, unless there is nothing to refund, or it has been started. -/
def refund : BillingSession × Option Worker :=
  if s.settled || s.refunded || s.refundInFlight || !s.needsRefund then (s, none)
  else
    let s := s.initializeQuotaState
    let s := { s with
      refundStarted := true
      refundInFlight := true
      refundTokenDone := s.refundTokenDone || s.relayInfo.isPlayground || s.tokenConsumed ≤ 0 }
    (s, some ⟨.refund, .funding, s.refundFundingDone, s.refundTokenDone, s.tokenConsumed⟩)

/-- Starts to take a settlement back; an unsettled session is refunded. The lock is
    released before that refund: where other calls come first, it is the call of
    `refund` that comes after them. -/
def rollbackSettlement : BillingSession × Option Worker :=
  if s.settlementRolledBack || s.refunded then (s, none)
  else if !s.settled then if s.needsRefund then s.refund else (s, none)
  else if s.rollbackInFlight then (s, none)
  else
    let s := { s.initializeQuotaState with rollbackInFlight := true }
    (s, some ⟨.rollback, .funding, s.rollbackFundingDone, s.rollbackTokenDone, s.tokenQuota⟩)

def markFunding : Undo → BillingSession
  | .refund => { s with refundFundingDone := true }
  | .rollback => { s with rollbackFundingDone := true }

def markToken : Undo → BillingSession
  | .refund => { s with refundTokenDone := true, tokenConsumed := 0 }
  | .rollback => { s with rollbackTokenDone := true }

/-- The end: both sides were given back, or another call may try again. -/
def finish : Undo → BillingSession
  | .refund =>
    { s with refundInFlight := false, refunded := s.refunded ||
      (s.refundFundingDone && s.refundTokenDone) }
  | .rollback =>
    let complete := s.rollbackFundingDone && s.rollbackTokenDone
    { s with
      rollbackInFlight := false
      settlementRolledBack := s.settlementRolledBack || complete
      refunded := s.refunded || complete }

end BillingSession

namespace Worker

variable {σ ε : Type*} (stores : BillingStores σ ε)

def returnsToken (w : Worker) (s : BillingSession) : Bool :=
  !w.tokenDone && w.tokenAmount > 0 && !s.relayInfo.isPlayground

/-- The next step. A store operation that fails is left to a later call; a rollback notes
    a token that has nothing to be given back as done. -/
def next (s : BillingSession) (x : σ) (w : Worker) : (BillingSession × σ) × Option Worker :=
  match w.stage with
  | .funding =>
    if w.fundingDone then ((s, x), some { w with stage := .token })
    else match s.funding.refund stores x with
      | .error _ => ((s, x), some { w with stage := .token })
      | .ok x => ((s, x), some { w with stage := .fundingDone })
  | .fundingDone => ((s.markFunding w.undo, x), some { w with stage := .token })
  | .token =>
    if w.returnsToken s then
      match stores.increaseTokenQuota x w.tokenAmount with
      | .error _ => ((s, x), some { w with stage := .finish })
      | .ok x => ((s, x), some { w with stage := .tokenDone })
    else match w.undo with
      | .refund => ((s, x), some { w with stage := .finish })
      | .rollback => ((s, x), some { w with stage := .tokenDone })
  | .tokenDone => ((s.markToken w.undo, x), some { w with stage := .finish })
  | .finish => ((s.finish w.undo, x), none)

end Worker

end Allrouter
