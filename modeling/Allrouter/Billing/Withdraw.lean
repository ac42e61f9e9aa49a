import Allrouter.Billing.TopUp

/-!
# Withdrawals of providers

A provider requests a withdrawal, and an administrator approves it, which takes the amount from
the quota of the owner, or rejects it. Until then the provider may cancel the request.
Only a cancellation looks at the status of the request first.

* `paid_once_of_pending`: a request is paid once at most, while it is pending, and never after
  it was rejected or cancelled, as long as administrators only act on pending requests;
* `paid_twice_of_two_approvals`: a request that is approved twice is paid twice, and one that
  was cancelled is paid as well.
-/

namespace Allrouter

open Relation

/-- The status of a request. -/
inductive ProviderWithdrawStatus
  | pending
  | approved
  | rejected
  | cancelled
  deriving DecidableEq

/-- A provider's request for a payment. -/
structure ProviderWithdraw where
  (id providerId : ℤ)
  amount : ℚ
  currency : String
  usdToCnyRate : ℚ := 0
  status : ProviderWithdrawStatus
  updatedAt : ℤ := 0
  deriving DecidableEq

/-- Why a decision is refused. -/
inductive WithdrawError
  | notFound
  | providerNotFound
  | insufficientBalance
  /-- "invalid action" -/
  | invalidAction
  | notYours
  | cannotCancel
  deriving DecidableEq

/-- A payment of a request, with the status it had before. -/
structure WithdrawPayment where
  status : ProviderWithdrawStatus
  deduction : ℤ
  deriving DecidableEq

/-- A request with the quota of the owner of its provider, and the payments that were made. -/
structure WithdrawState where
  withdraw : ProviderWithdraw
  ownerQuota : Option ℤ
  payments : List WithdrawPayment := []
  deriving DecidableEq

/-- What the request takes off the quota of the owner. -/
def ProviderWithdraw.deduction (withdraw : ProviderWithdraw) (quotaPerUnit : ℚ) : ℤ :=
  intPart ((if withdraw.currency = "￥" then withdraw.amount / withdraw.usdToCnyRate
    else withdraw.amount) *
    quotaPerUnit)

namespace WithdrawState

variable (s : WithdrawState)

def updateProviderWithdrawStatus (status : ProviderWithdrawStatus) (now : ℤ) : WithdrawState :=
  { s with withdraw := { s.withdraw with status := status, updatedAt := now } }

/-- Takes the amount of the request from the quota of the owner, if there is enough. -/
def pay (quotaPerUnit : ℚ) : Except WithdrawError WithdrawState :=
  let deduction := s.withdraw.deduction quotaPerUnit
  match s.ownerQuota with
  | none => .error .providerNotFound
  | some quota =>
    if quota < deduction then .error .insufficientBalance
    else .ok
      { s with
        ownerQuota := some (quota - deduction)
        payments := { status := s.withdraw.status, deduction := deduction } :: s.payments }

def adminApproveProviderWithdrawRequest (quotaPerUnit : ℚ) (id : ℤ) (action : String) (now : ℤ) :
    Except WithdrawError WithdrawState :=
  if s.withdraw.id ≠ id then .error .notFound
  else if action = "approve" then
    (s.pay quotaPerUnit).map (·.updateProviderWithdrawStatus .approved now)
  else if action = "reject" then .ok (s.updateProviderWithdrawStatus .rejected now)
  else .error .invalidAction

def cancelProviderWithdrawRequest (id providerId now : ℤ) : Except WithdrawError WithdrawState :=
  if s.withdraw.id ≠ id then .error .notFound
  else if s.withdraw.providerId ≠ providerId then .error .notYours
  else if s.withdraw.status ≠ .pending then .error .cannotCancel
  else .ok (s.updateProviderWithdrawStatus .cancelled now)

end WithdrawState

/-! ## Actions -/

/-- The decisions on a request. -/
inductive WithdrawAction
  | admin (id : ℤ) (action : String)
  | cancel (id providerId : ℤ)

def WithdrawAction.perform (quotaPerUnit : ℚ) (now : ℤ) (s : WithdrawState) :
    WithdrawAction → Except WithdrawError WithdrawState
  | admin id action => s.adminApproveProviderWithdrawRequest quotaPerUnit id action now
  | cancel id providerId => s.cancelProviderWithdrawRequest id providerId now

/-- An administrator acts on a request that is pending. -/
def WithdrawAction.OnPending (s : WithdrawState) : WithdrawAction → Prop
  | admin .. => s.withdraw.status = .pending
  | cancel .. => True

def WithdrawStep (quotaPerUnit : ℚ) (s s' : WithdrawState) : Prop :=
  ∃ (action : WithdrawAction) (now : ℤ), s' = commit s (action.perform quotaPerUnit now s)

/-- One action, by an administrator on a pending request only. -/
def WithdrawStepOnPending (quotaPerUnit : ℚ) (s s' : WithdrawState) : Prop :=
  ∃ (action : WithdrawAction) (now : ℤ), action.OnPending s ∧
    s' = commit s (action.perform quotaPerUnit now s)

/-! ## Runs -/

section

variable {quotaPerUnit : ℚ} {s₀ s s' : WithdrawState} {now : ℤ}

/-- A request that is pending, rejected or cancelled was not paid. -/
structure WithdrawInv (s₀ s : WithdrawState) : Prop where
  unpaid : s.withdraw.status ≠ .approved → s.payments = []
  payments : s.payments.length ≤ 1
  pending : ∀ payment ∈ s.payments, payment.status = .pending
  ownerQuota : s.ownerQuota = s₀.ownerQuota.map (· - (s.payments.map (·.deduction)).sum)

lemma WithdrawState.pay_eq_ok (h : s.pay quotaPerUnit = .ok s') :
    ∃ quota, s.ownerQuota = some quota ∧ s' = { s with
      ownerQuota := some (quota - s.withdraw.deduction quotaPerUnit)
      payments := { status := s.withdraw.status, deduction := s.withdraw.deduction quotaPerUnit } ::
          s.payments } := by
  rw [pay] at h
  split at h
  · cases h
  · rename_i quota hquota
    split_ifs at h
    cases h
    exact ⟨quota, hquota, rfl⟩

lemma WithdrawInv.setStatus (h : WithdrawInv s₀ s) (hpending : s.withdraw.status = .pending)
    (status : ProviderWithdrawStatus) :
      WithdrawInv s₀ (s.updateProviderWithdrawStatus status now) :=
  { h with unpaid := fun _ => h.unpaid (by simp [hpending]) }

lemma WithdrawInv.pay (h : WithdrawInv s₀ s) (hpending : s.withdraw.status = .pending)
    (hpay : s.pay quotaPerUnit = .ok s') :
      WithdrawInv s₀ (s'.updateProviderWithdrawStatus .approved now) := by
  obtain ⟨quota, hquota, rfl⟩ := WithdrawState.pay_eq_ok hpay
  have hunpaid := h.unpaid (by simp [hpending])
  have howner := h.ownerQuota
  rw [hquota] at howner
  refine ⟨fun happroved => absurd rfl happroved, ?_, ?_, ?_⟩
  · simp [WithdrawState.updateProviderWithdrawStatus, hunpaid]
  · simp [WithdrawState.updateProviderWithdrawStatus, hunpaid, hpending]
  · cases hs₀ : s₀.ownerQuota with
    | none => simp [hs₀] at howner
    | some quota₀ =>
      simp only [hs₀, Option.map_some, Option.some.injEq] at howner
      simp [WithdrawState.updateProviderWithdrawStatus, hunpaid, howner]

/-- What an action changes, a request that is pending changes. -/
lemma WithdrawInv.step (h : WithdrawInv s₀ s) (hstep : WithdrawStepOnPending quotaPerUnit s s') :
    WithdrawInv s₀ s' ∧ (s.withdraw.status ≠ .pending → s' = s) := by
  obtain ⟨action, now, hon, rfl⟩ := hstep
  cases action with
  | admin id action =>
    refine ⟨commit_invariant h fun s' hs' => ?_, fun hne => absurd hon hne⟩
    have hpending := hon
    simp only [WithdrawAction.perform, WithdrawState.adminApproveProviderWithdrawRequest] at hs'
    split_ifs at hs'
    · obtain ⟨s₁, hpay, rfl⟩ := Except.map_eq_ok.1 hs'
      exact h.pay hpending hpay
    · cases hs'
      exact h.setStatus hpending .rejected
  | cancel id providerId =>
    simp only [WithdrawAction.perform, WithdrawState.cancelProviderWithdrawRequest]
    split_ifs with _ _ hstatus
    · exact ⟨h, fun _ => rfl⟩
    · exact ⟨h, fun _ => rfl⟩
    · exact ⟨h, fun _ => rfl⟩
    · exact ⟨h.setStatus (not_ne_iff.1 hstatus) .cancelled, fun hne =>
        absurd (not_ne_iff.1 hstatus) hne⟩

lemma WithdrawInv.run (h : WithdrawInv s₀ s)
    (hrun : ReflTransGen (WithdrawStepOnPending quotaPerUnit) s s') :
    WithdrawInv s₀ s' ∧ (s.withdraw.status ≠ .pending → s' = s) := by
  induction hrun with
  | refl => exact ⟨h, fun _ => rfl⟩
  | tail _ hstep ih =>
    obtain ⟨hinv, hkeep⟩ := ih
    obtain ⟨hinv', hkeep'⟩ := hinv.step hstep
    refine ⟨hinv', fun hne => ?_⟩
    rw [hkeep' (by rwa [hkeep hne]), hkeep hne]

end

/-- **One payment.** As long as administrators act on pending requests only, a request is paid at
    most once, while it is pending, and never after it was rejected or cancelled. -/
theorem paid_once_of_pending {quotaPerUnit : ℚ} {s₀ s s' : WithdrawState}
    (hunpaid : s₀.payments = []) (hrun : ReflTransGen (WithdrawStepOnPending quotaPerUnit) s₀ s)
    (hrun' : ReflTransGen (WithdrawStepOnPending quotaPerUnit) s s') :
    s.payments.length ≤ 1 ∧ (∀ payment ∈ s.payments, payment.status = .pending) ∧
    s.ownerQuota = s₀.ownerQuota.map (· - (s.payments.map (·.deduction)).sum) ∧
    (s.withdraw.status = .rejected ∨ s.withdraw.status = .cancelled → s'.payments = []) := by
  have hinit : WithdrawInv s₀ s₀ :=
    ⟨fun _ => hunpaid, by simp [hunpaid], by simp [hunpaid], by simp [hunpaid]⟩
  obtain ⟨hinv, -⟩ := hinit.run hrun
  obtain ⟨-, hkeep⟩ := hinv.run hrun'
  refine ⟨hinv.payments, hinv.pending, hinv.ownerQuota, fun hclosed => ?_⟩
  have hnot : s.withdraw.status ≠ .pending ∧ s.withdraw.status ≠ .approved := by
    rcases hclosed with h | h <;> simp [h]
  rw [hkeep hnot.1]
  exact hinv.unpaid hnot.2

namespace Payout

def start : WithdrawState where
  withdraw := { id := 1, providerId := 7, amount := 10, currency := "$", status := .pending }
  ownerQuota := some 20000000

def act (action : WithdrawAction) (s : WithdrawState) : WithdrawState :=
  commit s (action.perform 500000 0 s)

def twice : WithdrawState := act (.admin 1 "approve") (act (.admin 1 "approve") start)

def approved : WithdrawState := act (.admin 1 "approve") start

def rejected : WithdrawState := act (.admin 1 "reject") start

def cancelled : WithdrawState := act (.admin 1 "approve") (act (.cancel 1 7) start)

end Payout

/-- A request that was approved, or rejected, and that the provider then tries to cancel. -/
theorem paid_once_of_payout :
    (Payout.act (.cancel 1 7) Payout.approved).payments.length = 1 ∧
      (∀ payment ∈ (Payout.act (.cancel 1 7) Payout.approved).payments, payment.status = .pending) ∧
      (Payout.act (.cancel 1 7) Payout.approved).ownerQuota = some 15000000 ∧
      (Payout.act (.cancel 1 7) Payout.rejected).payments = [] := by
  have hstep (action : String) : WithdrawStepOnPending 500000 Payout.start
      (Payout.act (.admin 1 action) Payout.start) := ⟨.admin 1 action, 0, rfl, rfl⟩
  have hcancel (s : WithdrawState) : WithdrawStepOnPending 500000 s (Payout.act (.cancel 1 7) s) :=
    ⟨.cancel 1 7, 0, trivial, rfl⟩
  obtain ⟨hlength, hpending, hquota, -⟩ := paid_once_of_pending rfl
    (.tail (.single (hstep "approve")) (hcancel Payout.approved)) .refl
  refine ⟨hlength.antisymm (by decide +kernel), hpending, hquota.trans (by decide +kernel), ?_⟩
  exact (paid_once_of_pending rfl (.single (hstep "reject"))
    (.single (hcancel Payout.rejected))).2.2.2
    (.inl (by decide +kernel))

/-- A request that is approved twice, and one that is approved after it was cancelled. -/
theorem paid_twice_of_two_approvals :
    ReflTransGen (WithdrawStep 500000) Payout.start Payout.twice ∧
      Payout.twice.ownerQuota = some 10000000 ∧
      Payout.twice.payments.length = 2 ∧
        ReflTransGen (WithdrawStep 500000) Payout.start Payout.cancelled ∧
      Payout.cancelled.payments = [{ status := .cancelled, deduction := 5000000 }] := by
  have hstep : ∀ action s, WithdrawStep 500000 s (Payout.act action s) := fun action s =>
    ⟨action, 0, rfl⟩
  exact ⟨.tail (.single (hstep _ _)) (hstep _ _), by decide +kernel, by decide +kernel,
    .tail (.single (hstep _ _)) (hstep _ _), by decide +kernel⟩

end Allrouter
