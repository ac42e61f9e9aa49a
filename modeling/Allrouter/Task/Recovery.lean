import Allrouter.Billing.PostConsume
import Allrouter.Task.Calls

/-!
# Settlements that are interrupted

A process may stop between any two commits of a settlement. What it has come to is in
the row and in the tables, and `retryPendingTaskBilling` takes it up from there, as
often as it takes.

The charge of a subscription moves by a difference, and the checkpoint that tells so
is a commit of its own. An attempt that stops between the two has moved the charge, and
the next one moves it again:

* `overcharged_of_torn`: a task that cost 30 is charged 50;
* `effectiveAmount_eq_target_iff`: the settlement ends at its target exactly if no
  attempt stopped there, or the difference is all there was to give back.
-/

namespace Allrouter

open Civil Durable Text Accounts Program TaskWorld Allrouter.Task Function

/-! ## Attempts -/

/-- An attempt at a settlement: when, and how many commits it lived to see. -/
structure SettlementAttempt where
  now : ℤ
  commits : ℕ

section

variable (loc : Location) (clock : ℤ)

/-- The run of a call, as far as it would get. -/
def SettlementAttempt.run (a : SettlementAttempt) (call : TaskCall) (w : TaskWorld Accounts) :=
  call.program (stores loc a.now clock) w

def SettlementAttempt.leaves (a : SettlementAttempt) (call : TaskCall) (w : TaskWorld Accounts) :
    TaskWorld Accounts :=
  (a.run loc clock call w).stateAfter w a.commits

/-- The attempt stopped after it has moved the charge, and before it wrote that down. -/
def SettlementAttempt.Torn (a : SettlementAttempt) (call : TaskCall) (w : TaskWorld Accounts) :
    Prop :=
  (a.run loc clock call w).labelAfter a.commits = some .funding

instance (a : SettlementAttempt) (call : TaskCall) (w : TaskWorld Accounts) :
    Decidable (a.Torn loc clock call w) :=
  inferInstanceAs (Decidable (_ = _))

/-- What is left after some retries, one after the other. -/
def recover (w : TaskWorld Accounts) : List SettlementAttempt → TaskWorld Accounts
  | [] => w
  | a :: retries => recover (a.leaves loc clock .retryPendingTaskBilling w) retries

/-- How many retries were torn. -/
def tornRetries (w : TaskWorld Accounts) : List SettlementAttempt → ℕ
  | [] => 0
  | a :: retries =>
    (if a.Torn loc clock .retryPendingTaskBilling w then 1 else 0) +
      tornRetries (a.leaves loc clock .retryPendingTaskBilling w) retries

end

/-- The call that settles a task: one that failed is refunded. -/
def settlementCall (target : ℤ) : TaskCall :=
  if target = 0 then .refundTaskQuota else .recalculateTaskQuota target

/-- What the record of the subscription has. -/
def TaskWorld.charged (w : TaskWorld Accounts) : ℤ :=
  w.store.db.effectiveAmount (trimSpace w.row.privateData.subscriptionRequestId)

/-- A task that is paid from a subscription, about to be settled at `target`. -/
structure Unsettled (w : TaskWorld Accounts) (target : ℤ) : Prop where
  subscription : w.row.isSubscription = true
  requestId : trimSpace w.row.privateData.subscriptionRequestId ≠ ""
  notPending : w.row.privateData.billingSettlementPending = false
  notRefunded : w.row.privateData.billingRefunded = false
  charged : w.charged = w.row.refundQuota
  target_nonneg : 0 ≤ target
  status : w.row.status = if target = 0 then .failure else .success

/-! ## What an attempt moves -/

/-- The charge after it was moved by `delta`, not below zero. -/
def moveCharge (delta charge : ℤ) : ℤ := max 0 (charge + delta)

variable {target charge : ℤ}

/-- Moving the charge on from its target misses it, unless nothing is left to give back. -/
lemma iterate_moveCharge_eq_iff (hpos : 0 < target) (hne : target ≠ charge) (n : ℕ) :
    (moveCharge (target - charge))^[n] target = target ↔ n = 0 := by
  have hmoves (n : ℕ) : (target < charge → (moveCharge (target - charge))^[n + 1] target < target) ∧
      (charge < target → target < (moveCharge (target - charge))^[n + 1] target) := by
    induction n with
    | zero =>
      simp only [zero_add, iterate_one, moveCharge]
      omega
    | succ n ih =>
      rw [iterate_succ_apply']
      simp only [moveCharge] at ih ⊢
      omega
  refine ⟨fun h => ?_, fun h => by rw [h]; rfl⟩
  cases n with
  | zero => rfl
  | succ n =>
    have := hmoves n
    omega

lemma iterate_moveCharge_zero (h : 0 ≤ charge) (n : ℕ) : (moveCharge (0 - charge))^[n] 0 = 0 := by
  refine iterate_fixed ?_ n
  simp only [moveCharge]
  omega

variable {w : TaskWorld Accounts}

lemma TaskWorld.charged_persist {task : Task}
    (hid : task.privateData.subscriptionRequestId = w.row.privateData.subscriptionRequestId) :
    (w.persist task).charged = w.charged := by
  simp only [charged, persist, hid]

section

variable {loc : Location} {now clock delta : ℤ} {task : Task} {w : TaskWorld Accounts}
  {P : TaskCommit → TaskWorld Accounts → Prop} {Q : Task → TaskWorld Accounts → Prop}

lemma commits_persist (hP : P .checkpoint (w.persist task)) (hQ : Q task (w.persist task)) :
    (persistTaskBillingState task : TaskProgram Accounts AccountsError Task).Commits w P Q :=
  commits_commit fun _ _ heq => by cases heq; exact ⟨hP, hQ⟩

/-- The charge of a subscription moves by `delta`, in a commit that leaves the row alone. -/
lemma commits_taskAdjustFunding (hsub : task.isSubscription = true)
    (hid : trimSpace task.privateData.subscriptionRequestId ≠ "")
    (hrow : w.row.privateData.subscriptionRequestId = task.privateData.subscriptionRequestId)
    (hP : ∀ w', w'.row = w.row → w'.charged = moveCharge delta w.charged → P .funding w' ∧
      Q task w') :
    (taskAdjustFunding (stores loc now clock) task delta).Commits w P Q := by
  simp only [taskAdjustFunding, if_pos hsub, if_pos hid]
  refine commits_commit fun a w' heq => ?_
  split at heq
  · cases heq
  rename_i x hx
  cases heq
  refine hP _ rfl ?_
  simp only [stores, onSubscriptions] at hx
  split at hx
  · cases hx
  rename_i db' hadjust
  cases hx
  simp only [charged, hrow]
  exact effectiveAmount_of_adjust hadjust

end

/-! ## How far a settlement has come -/

def startedRow (row : Task) (target : ℤ) : Task :=
  row.checkpoint target row.refundQuota row.refundQuota

def movedRow (row : Task) (target : ℤ) : Task :=
  { startedRow row target with privateData := { (startedRow row target).privateData with
      billingSettlementFundingAmount := target
      billingSettlementFundingDone := true } }

/-- The charge after it was moved `n` times by the same difference. -/
def chargeAfter (row : Task) (target : ℤ) (n : ℕ) : ℤ :=
  (moveCharge (target - row.refundQuota))^[n] row.refundQuota

/-- Where a settlement of a task with row `row` has come to, after `torn` attempts have
    moved the charge without writing that down. -/
inductive Stage (row : Task) (target : ℤ) (torn : ℕ) (w : TaskWorld Accounts) : Prop
  | started (hrow : w.row = startedRow row target)
  (hcharged : w.charged = chargeAfter row target torn)
  | moved (hrow : w.row = movedRow row target)
      (hcharged : w.charged = chargeAfter row target (torn + 1))
  | done (hpending : w.row.privateData.billingSettlementPending = false)
    (hcharged : w.charged = chargeAfter row target (torn + 1))

/-- What a commit of an attempt leaves: the one that moves the charge is torn if it is the last. -/
def StageCommit (row : Task) (target : ℤ) (torn : ℕ) (k : TaskCommit) (w : TaskWorld Accounts) :
    Prop :=
  Stage row target (if k = .funding then torn + 1 else torn) w

lemma Unsettled.tokenQuotaRequired (h : Unsettled w target) : w.row.tokenQuotaRequired = false := by
  have hsub := h.subscription
  simp only [isSubscription, Bool.and_eq_true] at hsub
  simp [Task.tokenQuotaRequired, hsub.1]

lemma Unsettled.preConsumedQuota (h : Unsettled w target) :
    w.row.preConsumedQuota = w.row.refundQuota := by
  rw [Task.preConsumedQuota]
  split_ifs with hzero
  · rfl
  · have hpos : 0 < w.row.quota := by
      by_contra hquota
      exact hzero ⟨not_lt.1 hquota, h.subscription⟩
    exact (Task.refundQuota_of_pos hpos).symm

section

variable {loc : Location} {now clock target : ℤ} {w₀ w : TaskWorld Accounts} {torn : ℕ}

lemma Unsettled.started_tokenDone (h : Unsettled w₀ target) :
    (startedRow w₀.row target).privateData.billingSettlementTokenDone = true := by
  simp [startedRow, checkpoint, h.tokenQuotaRequired]

/-- The settlement has come to `row`, with the charge moved once more. -/
def MovedTo (row₀ : Task) (target : ℤ) (torn : ℕ) (row task : Task) (w : TaskWorld Accounts) :
    Prop :=
  task = row ∧ w.row = row ∧ w.charged = chargeAfter row₀ target (torn + 1)

lemma commits_settle_moved (h : Unsettled w₀ target) {P : TaskCommit → TaskWorld Accounts → Prop} :
    (settleTaskBillingTarget (stores loc now clock) (movedRow w₀.row target) target).Commits w P
      (fun task w' => task = movedRow w₀.row target ∧ w' = w) := by
  have htoken : (movedRow w₀.row target).privateData.billingSettlementTokenDone = true :=
    h.started_tokenDone
  rw [settleTaskBillingTarget_of_pending h.target_nonneg rfl rfl, settleTaskFunding,
    if_pos (by rfl), pure_bind_eq, settleTaskToken, if_pos htoken]
  exact commits_pure _ ⟨rfl, rfl⟩

lemma commits_finishTaskSettlement (hrow : w.row = movedRow w₀.row target)
    (hcharged : w.charged = chargeAfter w₀.row target (torn + 1)) :
    (finishTaskSettlement (movedRow w₀.row target) target :
      TaskProgram Accounts AccountsError Task).Commits w (StageCommit w₀.row target torn)
        (fun _ _ => True) := by
  have hcharge := charged_persist (by rw [hrow])
  exact commits_persist (.done rfl (hcharge.trans hcharged)) trivial

lemma commits_finishTaskRefund (hrow : w.row = movedRow w₀.row target)
    (hcharged : w.charged = chargeAfter w₀.row target (torn + 1)) :
    (finishTaskRefund (movedRow w₀.row target) : TaskProgram Accounts AccountsError Task).Commits w
      (StageCommit w₀.row target torn) (fun _ _ => True) := by
  have hcharge : ∀ {w : TaskWorld Accounts} {task : Task},
      task.privateData.subscriptionRequestId = w.row.privateData.subscriptionRequestId →
      task.privateData.billingSettlementPending = false →
        w.charged = chargeAfter w₀.row target (torn + 1) →
      StageCommit w₀.row target torn .checkpoint (w.persist task) :=
    fun hid hpending hcharged => .done hpending ((charged_persist hid).trans hcharged)
  have hid : (movedRow w₀.row target).privateData.subscriptionRequestId =
      w.row.privateData.subscriptionRequestId := by rw [hrow]
  refine Program.Commits.bind (Q := fun task w' =>
    task.privateData.billingSettlementPending = false ∧
    task.privateData.subscriptionRequestId = w'.row.privateData.subscriptionRequestId ∧
    w'.charged = chargeAfter w₀.row target (torn + 1)) ?_ ?_
  · exact commits_persist (hcharge hid rfl hcharged)
      ⟨rfl, rfl, (charged_persist hid).trans hcharged⟩
  · rintro task w' ⟨hpending, hid', hcharged'⟩
    split_ifs
    · exact commits_persist (hcharge hid' hpending hcharged') trivial
    · exact commits_pure _ trivial

/-- The row of a settlement under way. -/
lemma Stage.row_of_pending (hstage : Stage w₀.row target torn w)
    (hpending : w.row.privateData.billingSettlementPending = true) :
    w.row = startedRow w₀.row target ∨ w.row = movedRow w₀.row target := by
  cases hstage with
  | started hrow => exact .inl hrow
  | moved hrow => exact .inr hrow
  | done hdone => exact absurd hpending (by simp [hdone])

section

variable (h : Unsettled w₀ target) (hne : target ≠ w₀.row.refundQuota)
include h hne

/-- Both sides of a settlement that has started: the charge moves, and then it is
    written down. -/
lemma commits_settle_started (hrow : w.row = startedRow w₀.row target)
    (hcharged : w.charged = chargeAfter w₀.row target torn) :
    (settleTaskBillingTarget (stores loc now clock) (startedRow w₀.row target) target).Commits w
      (StageCommit w₀.row target torn) (MovedTo w₀.row target torn (movedRow w₀.row target)) := by
  rw [settleTaskBillingTarget_of_pending h.target_nonneg rfl rfl, settleTaskFunding,
    if_neg (by simpa [startedRow, checkpoint] using hne.symm)]
  refine Program.Commits.bind (Q := MovedTo w₀.row target torn (movedRow w₀.row target)) ?_ ?_
  · refine Program.Commits.bind (Q := MovedTo w₀.row target torn (startedRow w₀.row target)) ?_ ?_
    · refine commits_taskAdjustFunding h.subscription h.requestId (by rw [hrow]) fun w' hrow'
        hcharged' => ?_
      have hmoved : w'.charged = chargeAfter w₀.row target (torn + 1) := by
        rw [chargeAfter, iterate_succ_apply', ← chargeAfter, ← hcharged]
        exact hcharged'
      exact ⟨.started (hrow'.trans hrow) hmoved, rfl, hrow'.trans hrow, hmoved⟩
    · rintro _ w' ⟨rfl, hrow', hcharged'⟩
      have hmoved : (w'.persist (movedRow w₀.row target)).row = movedRow w₀.row target := by
        rw [persist, hrow']
        rfl
      have hcharge : (w'.persist (movedRow w₀.row target)).charged = w'.charged :=
        charged_persist (by rw [hrow']; rfl)
      exact commits_persist (.moved hmoved (hcharge.trans hcharged')) ⟨rfl, hmoved,
        hcharge.trans hcharged'⟩
  · rintro _ w' ⟨rfl, hrow', hcharged'⟩
    have hdone : (movedRow w₀.row target).privateData.billingSettlementTokenDone = true :=
      h.started_tokenDone
    rw [settleTaskToken, if_pos hdone]
    exact commits_pure _ ⟨rfl, hrow', hcharged'⟩

section

variable (hstage : Stage w₀.row target torn w)
    (hpending : w.row.privateData.billingSettlementPending = true)
include hstage hpending

/-- Either way the settlement gets to where the charge is written down. -/
lemma Stage.commits_settle : (settleTaskBillingTarget (stores loc now clock) w.row target).Commits w
      (StageCommit w₀.row target torn) (MovedTo w₀.row target torn (movedRow w₀.row target)) := by
  cases hstage with
  | started hrow hcharged =>
    rw [hrow]
    exact commits_settle_started h hne hrow hcharged
  | moved hrow hcharged =>
    rw [hrow]
    refine (commits_settle_moved h).mono (fun _ _ h => h) ?_
    rintro task w' ⟨rfl, rfl⟩
    exact ⟨rfl, hrow, hcharged⟩
  | done hdone => exact absurd hpending (by simp [hdone])

lemma Stage.commits_recalculate (hpos : 0 < target) :
    (recalculateTaskQuota (stores loc now clock) w.row target).Commits w
      (StageCommit w₀.row target torn) (fun _ _ => True) := by
  have hpre : w.row.preConsumedQuota = w₀.row.refundQuota := by
    rw [← h.preConsumedQuota]
    obtain hrow | hrow := hstage.row_of_pending hpending <;> rw [hrow] <;> rfl
  simp only [recalculateTaskQuota, if_neg (not_le.2 hpos), hpre, if_neg (sub_ne_zero.2 hne),
    initializeTaskBillingSettlementAt, if_pos hpending, pure_bind_eq]
  refine (hstage.commits_settle h hne hpending).bind ?_
  rintro _ w' ⟨rfl, hrow', hcharged'⟩
  exact commits_finishTaskSettlement hrow' hcharged'

/-- A refund of a settlement that has started to lead to nothing; starting it anew does not change
    the checkpoint. -/
lemma Stage.commits_refund (hzero : target = 0) :
    (refundTaskQuota (stores loc now clock) w.row).Commits w
      (StageCommit w₀.row target torn) (fun _ _ => True) := by
  subst hzero
  have hrow : w.row.privateData.billingRefunded = false ∧ w.row.refundQuota = w₀.row.refundQuota ∧
      w.row.checkpoint 0 w.row.privateData.billingSettlementFundingAmount
        w.row.privateData.billingSettlementTokenAmount = w.row := by
    obtain hrow | hrow := hstage.row_of_pending hpending <;> rw [hrow] <;>
      exact ⟨h.notRefunded, rfl, rfl⟩
  have hquota : ¬w.row.pendingRefundQuota ≤ 0 := by
    have hpos := lt_of_le_of_ne refundQuota_nonneg hne
    simp only [pendingRefundQuota]
    omega
  have hstart : startTaskRefund w.row =
      (persistTaskBillingState w.row : TaskProgram Accounts AccountsError Task) := by
    simp only [startTaskRefund, if_pos hpending, hrow.2.2]
  rw [refundTaskQuota, if_neg (by simp [hrow.1]), if_neg hquota, hstart]
  refine (commits_persist (Q := fun task w' => task = w.row ∧ w' = w) hstage ⟨rfl, rfl⟩).bind ?_
  rintro _ _ ⟨rfl, rfl⟩
  refine (hstage.commits_settle h hne hpending).bind ?_
  rintro _ w' ⟨rfl, hrow', hcharged'⟩
  exact commits_finishTaskRefund hrow' hcharged'

end

/-- A retry takes the settlement further, or leaves it where it is. -/
lemma Stage.commits_retry (hstage : Stage w₀.row target torn w) :
    (TaskCall.retryPendingTaskBilling.program (stores loc now clock)).Commits w
      (StageCommit w₀.row target torn) (fun _ _ => True) := by
  refine commits_get_bind ?_
  simp only [retryPendingTaskBilling]
  by_cases hpending : w.row.privateData.billingSettlementPending = true
  swap
  · rw [if_pos (by simpa using hpending)]
    exact commits_pure _ trivial
  rw [if_neg (by simp [hpending])]
  have hrow : w.row.status = w₀.row.status ∧ w.row.privateData.billingSettlementTarget =
      target := by
    obtain hrow | hrow := hstage.row_of_pending hpending <;> rw [hrow] <;> exact ⟨rfl, rfl⟩
  rw [hrow.1, hrow.2, h.status]
  by_cases hzero : target = 0
  · rw [if_pos hzero]
    exact hstage.commits_refund h hne hpending hzero
  · have htarget := lt_of_le_of_ne h.target_nonneg (Ne.symm hzero)
    simp only [if_neg hzero, if_neg (not_lt.2 h.target_nonneg)]
    exact hstage.commits_recalculate h hne hpending htarget

/-- The call that starts the settlement: its first commit is the checkpoint. -/
lemma Unsettled.start :
    ∃ rest : Task → TaskProgram Accounts AccountsError Task,
      (settlementCall target).program (stores loc now clock) w₀ =
        (persistTaskBillingState (startedRow w₀.row target) >>= rest) w₀ ∧
      (rest (startedRow w₀.row target)).Commits (w₀.persist (startedRow w₀.row target))
        (StageCommit w₀.row target 0) (fun _ _ => True) := by
  have hstarted : (w₀.persist (startedRow w₀.row target)).charged = chargeAfter w₀.row target 0 :=
    (charged_persist rfl).trans h.charged
  have hsettle : (settleTaskBillingTarget (stores loc now clock) (startedRow w₀.row target)
      target).Commits _ _ _ := commits_settle_started h hne rfl hstarted
  rw [settlementCall]
  split_ifs with hzero
  · subst hzero
    have hquota : ¬w₀.row.pendingRefundQuota ≤ 0 := by
      simp only [pendingRefundQuota, h.notPending]
      exact not_le.2 (lt_of_le_of_ne refundQuota_nonneg hne)
    have hcurrent : (if w₀.row.quota > 0 then w₀.row.quota else w₀.row.refundQuota) =
        w₀.row.refundQuota :=
      ite_eq_right_iff.2 fun hpos => (refundQuota_of_pos hpos).symm
    refine ⟨fun task => settleTaskBillingTarget (stores loc now clock) task 0 >>= finishTaskRefund,
      ?_, ?_⟩
    · change refundTaskQuota _ w₀.row w₀ = _
      simp only [refundTaskQuota, h.notRefunded, if_neg hquota, startTaskRefund,
        h.notPending, hcurrent, initializeTaskBillingSettlementAt, Bool.false_eq_true, if_false]
      rfl
    · refine hsettle.bind ?_
      rintro _ w' ⟨rfl, hrow', hcharged'⟩
      exact commits_finishTaskRefund hrow' hcharged'
  · have htarget := lt_of_le_of_ne h.target_nonneg (Ne.symm hzero)
    refine ⟨fun task => settleTaskBillingTarget (stores loc now clock) task target >>=
      fun task => finishTaskSettlement task target, ?_, ?_⟩
    · change recalculateTaskQuota _ w₀.row target w₀ = _
      simp only [recalculateTaskQuota, if_neg (not_le.2 htarget), h.preConsumedQuota,
        if_neg (sub_ne_zero.2 hne), initializeTaskBillingSettlementAt, h.notPending,
          Bool.false_eq_true, if_false]
      rfl
    · refine hsettle.bind ?_
      rintro _ w' ⟨rfl, hrow', hcharged'⟩
      exact commits_finishTaskSettlement hrow' hcharged'

end

/-! ## Attempts in a row -/

lemma stage_leaves {row : Task} {call : TaskCall} {a : SettlementAttempt}
    (hstart : (a.run loc clock call w).labelAfter a.commits = none → Stage row target torn w)
    (hcommits : ∀ p ∈ (a.run loc clock call w).commits, StageCommit row target torn p.1 p.2) :
    Stage row target (torn + if a.Torn loc clock call w then 1 else 0)
      (a.leaves loc clock call w) := by
  rw [SettlementAttempt.leaves]
  rcases Run.after_cases (a.run loc clock call w) w a.commits with ⟨hnone, hstate⟩ | ⟨p, hp,
    hlabel, hstate⟩
  · have htorn : ¬a.Torn loc clock call w := by simp [SettlementAttempt.Torn, hnone]
    rw [hstate, if_neg htorn]
    exact hstart hnone
  · have htorn : a.Torn loc clock call w ↔
      p.1 = .funding := by simp [SettlementAttempt.Torn, hlabel]
    have hcommit := hcommits p hp
    rw [hstate]
    by_cases hk : p.1 = .funding
    · rwa [if_pos (htorn.2 hk), ← if_pos hk (t := torn + 1) (e := torn)]
    · rwa [if_neg (fun h => hk (htorn.1 h)), add_zero, ← if_neg hk (t := torn + 1) (e := torn)]

section

variable (h : Unsettled w₀ target) (hne : target ≠ w₀.row.refundQuota)
include h hne

/-- The attempt that starts the settlement leaves it under way, or done. -/
lemma Unsettled.leaves {a : SettlementAttempt} (ha : 1 ≤ a.commits) :
    Stage w₀.row target (0 + if a.Torn loc clock (settlementCall target) w₀ then 1 else 0)
      (a.leaves loc clock (settlementCall target) w₀) := by
  obtain ⟨rest, heq, hrest⟩ := @Unsettled.start loc a.now clock target w₀ h hne
  have hpersist : (persistTaskBillingState (startedRow w₀.row target) :
      TaskProgram Accounts AccountsError Task).Commits w₀ (StageCommit w₀.row target 0)
      (fun task w' => task = startedRow w₀.row target ∧
          w' = w₀.persist (startedRow w₀.row target)) :=
    commits_persist (.started rfl ((charged_persist rfl).trans h.charged)) ⟨rfl, rfl⟩
  have hcommits := hpersist.bind (by rintro _ _ ⟨rfl, rfl⟩; exact hrest)
  refine stage_leaves (fun hnone => ?_) fun p hp => ?_
  · have hne_nil : (a.run loc clock (settlementCall target) w₀).commits ≠ [] := by
      rw [SettlementAttempt.run, heq]
      exact bind_commits_ne_nil (List.cons_ne_nil _ _)
    have hsome := Run.labelAfter_isSome _ ha hne_nil
    rw [hnone] at hsome
    cases hsome
  · rw [SettlementAttempt.run, heq] at hp
    exact hcommits.commits p hp

/-- A retry leaves the settlement under way, or done. -/
lemma Stage.leaves (hstage : Stage w₀.row target torn w) (a : SettlementAttempt) :
    Stage w₀.row target (torn + if a.Torn loc clock .retryPendingTaskBilling w then 1 else 0)
      (a.leaves loc clock .retryPendingTaskBilling w) :=
  stage_leaves (fun _ => hstage) (hstage.commits_retry h hne).commits

lemma Stage.recover
    (retries : List SettlementAttempt) :
      ∀ {torn : ℕ} {w : TaskWorld Accounts}, Stage w₀.row target torn w →
    Stage w₀.row target (torn + tornRetries loc clock w retries) (recover loc clock w retries) := by
  induction retries with
  | nil => exact fun hstage => hstage
  | cons a retries ih =>
    intro torn w hstage
    have hleft : Stage w₀.row target _ (a.leaves loc clock .retryPendingTaskBilling w) :=
      hstage.leaves h hne a
    rw [tornRetries, ← add_assoc]
    exact ih hleft

end

/-- Retries leave a task alone that no settlement is pending on. -/
lemma recover_of_notPending (hpending : w.row.privateData.billingSettlementPending = false)
    (retries : List SettlementAttempt) : recover loc clock w retries = w := by
  induction retries with
  | nil => rfl
  | cons a retries ih =>
    have hrun : a.run loc clock .retryPendingTaskBilling w = ⟨[], .ok w.row⟩ := by
      change retryPendingTaskBilling _ w.row w = _
      simp only [retryPendingTaskBilling, hpending]
      rfl
    have hleaves : a.leaves loc clock .retryPendingTaskBilling w = w := by
      rw [SettlementAttempt.leaves, hrun, Run.stateAfter, List.take_nil]
      rfl
    rw [recover, hleaves, ih]

lemma Unsettled.leaves_of_eq (h : Unsettled w₀ target) (heq : target = w₀.row.refundQuota)
    (a : SettlementAttempt) :
    (a.leaves loc clock (settlementCall target) w₀).row.privateData.billingSettlementPending =
      false ∧
      (a.leaves loc clock (settlementCall target) w₀).charged = target := by
  have hcharged := h.charged.trans heq.symm
  have hcommits : ((settlementCall target).program (stores loc a.now clock)).Commits w₀
      (fun _ w' => w'.row.privateData.billingSettlementPending = false ∧ w'.charged = target)
      (fun _ _ => True) := by
    rw [settlementCall]
    split_ifs with hzero
    · refine commits_get_bind ?_
      have hquota : w₀.row.pendingRefundQuota ≤ 0 := by
        simp only [pendingRefundQuota, h.notPending, Bool.false_eq_true, if_false]
        rw [← heq, hzero]
      rw [refundTaskQuota, if_neg (by simp [h.notRefunded]), if_pos hquota]
      exact commits_pure _ trivial
    · refine commits_get_bind ?_
      have htarget := lt_of_le_of_ne h.target_nonneg (Ne.symm hzero)
      simp only [recalculateTaskQuota, if_neg (not_le.2 htarget), h.preConsumedQuota]
      rw [if_pos (sub_eq_zero.2 heq)]
      split_ifs
      · exact commits_persist ⟨h.notPending, (charged_persist rfl).trans hcharged⟩ trivial
      · exact commits_pure _ trivial
  rw [SettlementAttempt.leaves]
  rcases Run.after_cases (a.run loc clock (settlementCall target) w₀) w₀ a.commits with
    ⟨-, hstate⟩ | ⟨p, hp, -, hstate⟩
  · rw [hstate]
    exact ⟨h.notPending, hcharged⟩
  · rw [hstate]
    exact hcommits.commits p hp

/-- After a settlement that was retried to its end, the subscription is charged at the target just
    where nothing was to be moved twice, or no attempt has stopped between the charge and its
    checkpoint. -/
theorem effectiveAmount_eq_target_iff (h : Unsettled w₀ target) {first : SettlementAttempt}
    {retries : List SettlementAttempt} (hfirst : 1 ≤ first.commits)
    (hdone : (recover loc clock (first.leaves loc clock (settlementCall target) w₀)
      retries).row.privateData.billingSettlementPending = false) :
    (recover loc clock (first.leaves loc clock (settlementCall target) w₀) retries).charged =
      target ↔
      target = 0 ∨ target = w₀.row.refundQuota ∨ (¬first.Torn loc clock (settlementCall target) w₀ ∧
        tornRetries loc clock (first.leaves loc clock (settlementCall target) w₀) retries = 0) := by
  by_cases heq : target = w₀.row.refundQuota
  · obtain ⟨hpending, hcharged⟩ := @Unsettled.leaves_of_eq loc clock target w₀ h heq first
    rw [recover_of_notPending hpending]
    exact iff_of_true hcharged (.inr (.inl heq))
  -- otherwise the charge was moved once more than attempts were torn
  obtain ⟨n, hn, hcharged⟩ : ∃ n,
    n = (0 + if first.Torn loc clock (settlementCall target) w₀ then 1 else 0) +
      tornRetries loc clock (first.leaves loc clock (settlementCall target) w₀) retries ∧
      (recover loc clock (first.leaves loc clock (settlementCall target) w₀) retries).charged =
        (moveCharge (target - w₀.row.refundQuota))^[n] target := by
    refine ⟨_, rfl, ?_⟩
    have hafter (n : ℕ) : chargeAfter w₀.row target (n + 1) =
        (moveCharge (target - w₀.row.refundQuota))^[n] target := by
      have hmove : moveCharge (target - w₀.row.refundQuota) w₀.row.refundQuota = target := by
        rw [moveCharge, add_sub_cancel, max_eq_right h.target_nonneg]
      rw [chargeAfter, iterate_succ_apply, hmove]
    rw [← hafter]
    cases (h.leaves heq hfirst).recover h heq retries with
    | started hrow => exact absurd hdone (by rw [hrow]; simp [startedRow, checkpoint])
    | moved hrow => exact absurd hdone (by rw [hrow]; simp [movedRow, startedRow, checkpoint])
    | done _ hcharged => exact hcharged
  rw [hcharged]
  rcases h.target_nonneg.eq_or_lt with rfl | hpos
  · exact iff_of_true (iterate_moveCharge_zero refundQuota_nonneg n) (.inl rfl)
  · rw [iterate_moveCharge_eq_iff hpos heq, hn]
    by_cases htorn : first.Torn loc clock (settlementCall target) w₀
    · simp [heq, hpos.ne']
    · simp [heq, hpos.ne']

end

/-! ## A task that is charged twice -/

namespace Torn

def utc : Location := .fixed 0

/-- A task for which a subscription without limits was charged 10. -/
def submitted : TaskWorld Accounts where
  row :=
    { status := .success, quota := 10
      privateData :=
        { billingSource := .subscription, subscriptionId := 1, subscriptionRequestId := "req"
          subscriptionPreConsumed := 10 } }
  store :=
    { wallet := ⟨0, 0⟩
      db :=
        { users := [], plans := []
          subscriptions :=
            [{ id := 1, userId := 1, planId := 1, amountUsed := 10, startTime := 0, endTime := 1000
               planPolicySnapshotVersion := 1 }]
          records :=
            [{ requestId := "req", userId := 1, userSubscriptionId := 1, preConsumed := 10
               settledAmount := some 10, status := .consumed, createdAt := 0 }] }
      tokenQuota := 0 }

/-- What a settlement at 30 leaves that was stopped after so many commits, and retried. -/
def settled (commits : ℕ) : TaskWorld Accounts :=
  recover utc 0 (SettlementAttempt.leaves utc 0 ⟨100, commits⟩ (settlementCall 30) submitted)
    [⟨200, 3⟩]

lemma unsettled : Unsettled submitted 30 where
  subscription := by decide
  requestId := by decide +kernel
  notPending := rfl
  notRefunded := rfl
  charged := by decide +kernel
  target_nonneg := by decide
  status := rfl

end Torn

/-- Stopped after the checkpoint it starts with, the settlement is taken up as it is. -/
theorem effectiveAmount_eq_target_of_resumed : (Torn.settled 1).charged = 30 :=
  (effectiveAmount_eq_target_iff Torn.unsettled (by decide) (by decide +kernel)).2
    (.inr (.inr ⟨by decide +kernel, by decide +kernel⟩))

/-- An attempt that stops there is charged twice. -/
theorem overcharged_of_torn : Torn.submitted.charged = 10 ∧
    (Torn.settled 2).row.privateData.billingSettlementPending = false ∧
      (Torn.settled 2).charged = 50 := by
  decide +kernel

end Allrouter
