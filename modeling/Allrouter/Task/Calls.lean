import Allrouter.Task.Charge

/-!
# Calls on a task

After every call on a task, however its store operations end, and in whatever
order the calls come, the row of the task says what was taken for it
(`taskCharged_of_run`). A settlement in which no operation fails brings both sides to
the cost of the task (`charged_of_recalculate`).

The quota in the row is not always the answer: a subscription keeps what it has reserved
for a task whose quota is zero, and is not counted on the token
(`not_quota_of_reserved`).
-/

namespace Allrouter

open Durable Relation Program Ledger TaskWorld TaskTerms

/-- A settlement that is at its target already has the two sides to move. -/
lemma settleTaskBillingTarget_of_pending {σ ε : Type} {stores : BillingStores σ ε} {task : Task}
    {target : ℤ} (hnonneg : 0 ≤ target)
    (hpending : task.privateData.billingSettlementPending = true)
    (htarget : task.privateData.billingSettlementTarget = target) :
    settleTaskBillingTarget stores task target =
      settleTaskFunding stores task target >>= fun task => settleTaskToken stores task target := by
  simp only [settleTaskBillingTarget, retargetTaskBillingSettlement, if_neg (not_lt.2 hnonneg),
    if_pos hpending, if_neg (not_not.2 htarget)]
  exact pure_bind_eq _ _

section

variable {fate : Fate} {task : Task} {w : TaskWorld Ledger} {target actualQuota : ℤ}
  {terms : TaskTerms} {E : TaskError Unit → TaskWorld Ledger → Prop}

/-! ## What a call keeps -/

lemma Settled.preConsumedQuota (h : Settled w) (hlive : w.row.privateData.billingRefunded = false) :
    w.row.preConsumedQuota = w.row.refundQuota := by
  rw [Task.preConsumedQuota]
  split_ifs with hzero
  · rfl
  rcases (h.quota_nonneg hlive).lt_or_eq with hpos | hzero'
  · exact (Task.refundQuota_of_pos hpos).symm
  · have hwallet := Bool.eq_false_of_not_eq_true fun hsub => hzero ⟨hzero'.ge, hsub⟩
    rw [Task.refundQuota_of_not_pos hzero'.not_lt, Task.reservation_of_not_isSubscription hwallet,
      hzero']

/-- The token follows what there is to give back: a subscription is not counted on it. -/
lemma Settled.token_eq (h : Settled w) (hlive : w.row.privateData.billingRefunded = false) :
    w.store.token = if w.row.tokenQuotaRequired then w.row.refundQuota else 0 := by
  rw [h.token, hlive]
  by_cases hrequired : w.row.tokenQuotaRequired = true
  · have hwallet := Task.isSubscription_of_tokenQuotaRequired hrequired
    rw [← h.preConsumedQuota hlive]
    simp [Task.preConsumedQuota, hwallet]
  · simp [hrequired]

lemma Settled.nonneg (h : Settled w) : 0 ≤ w.store.funding ∧ 0 ≤ w.store.token := by
  rw [h.funding, h.token]
  cases hrefunded : w.row.privateData.billingRefunded with
  | true => simp
  | false =>
    refine ⟨Task.refundQuota_nonneg, ?_⟩
    split_ifs
    · exact h.quota_nonneg hrefunded
    · exact le_rfl

lemma Settled.start (h : Settled w) (hlive : w.row.privateData.billingRefunded = false)
    (htarget : 0 ≤ target) :
    let task := w.row.checkpoint target w.row.refundQuota w.row.refundQuota
    Settling target w.row.terms task (w.persist task) :=
  .checkpoint htarget hlive (by rw [h.funding, hlive]; rfl) (h.token_eq hlive) h.nonneg h.wallet

/-- The task is settled at `quota`, and so are both sides. -/
structure SettledAt (quota : ℤ) (terms : TaskTerms) (w : TaskWorld Ledger) :
    Prop extends Settled w where
  terms_eq : w.row.terms = terms
  notRefunded : w.row.privateData.billingRefunded = false
  funding_eq : w.store.funding = quota
  token_eq : w.store.token = if w.row.tokenQuotaRequired then quota else 0

/-- A settlement ends at its target, unless that is zero and there is a reservation. -/
lemma ensures_finishTaskSettlement
    (h : Reached target terms task w) (hreservation : target = 0 → terms.reservation = 0) :
    (finishTaskSettlement task target : TaskProgram Ledger Unit Task).Ensures w
      (fun _ => SettledAt target terms) E := by
  have hlive := h.notRefunded
  have hquota : { clearTaskBillingSettlement task with quota := target }.refundQuota = target := by
    rcases h.target_nonneg.lt_or_eq with hpos | hzero
    · exact Task.refundQuota_of_pos hpos
    · exact (Task.refundQuota_of_not_pos hzero.not_lt).trans
        ((congrArg reservation h.terms_eq).trans ((hreservation hzero.symm).trans hzero))
  refine ensures_persist
    { notPending := rfl
      quota_nonneg := fun _ => h.target_nonneg
      funding := ?_
      token := ?_
      wallet := h.wallet
      terms_eq := h.terms_eq
      notRefunded := hlive
      funding_eq := h.funding_eq
      token_eq := h.token_eq }
  · refine h.funding_eq.trans (hquota.symm.trans ?_)
    change _ = if task.privateData.billingRefunded = true then 0 else _
    rw [hlive]
    rfl
  · refine h.token_eq.trans ?_
    change _ = if (task.tokenQuotaRequired && !task.privateData.billingRefunded) =
      true then target else 0
    rw [hlive, Bool.not_false, Bool.and_true]

lemma Reached.refund (h : Reached 0 terms task w) {data : TaskPrivateData}
    (hdata : data =
      { (clearTaskBillingSettlement task).privateData with billingRefunded := true }) :
    Settled (w.persist { task with privateData := data }) := by
  subst hdata
  have htoken := h.token_eq.trans (ite_self 0)
  exact
    { notPending := rfl
      quota_nonneg := fun hlive => nomatch hlive
      funding := h.funding_eq
      token := htoken.trans (if_neg (by simp [persist])).symm
      wallet := h.wallet }

lemma Settled.congr {row : Task} (h : Settled w) (hquota : row.quota = w.row.quota)
    (hdata : row.privateData = w.row.privateData) : Settled { w with row := row } := by
  obtain ⟨row₀, store⟩ := w
  cases row
  cases hquota
  cases hdata
  exact { h with }

lemma ensures_finishTaskRefund {Q : Task → TaskWorld Ledger → Prop} (h : Reached 0 terms task w)
    (hQ : ∀ task' w', Settled w' ∧ w'.row.privateData.billingRefunded = true ∧ w'.store = w.store ∧
      w'.row.status = w.row.status → Q task' w') :
    (finishTaskRefund task : TaskProgram Ledger Unit Task).Ensures w Q E := by
  refine Program.Ensures.bind (Q := fun task' w' =>
    (Settled w' ∧ w'.row.privateData.billingRefunded = true ∧
    w'.store = w.store ∧ w'.row.status = w.row.status) ∧ task'.privateData = w'.row.privateData ∧
    task'.quota = w'.row.quota) ?_ ?_
  · exact ensures_persist ⟨⟨h.refund rfl, rfl, rfl, rfl⟩, rfl, rfl⟩
  · rintro task₃ w₃ ⟨⟨h₃, hrefunded, hstore, hstatus⟩, hdata, hquota⟩
    split_ifs
    · refine ensures_persist (hQ _ _ ⟨?_, ?_, hstore, hstatus⟩)
      · have hmarked : Settled { w₃ with row := { w₃.row with
            privateData := { w₃.row.privateData with consumeRebateSettled := true } } } :=
              { h₃ with }
        exact hmarked.congr hquota (by simp only [hdata])
      · simp only [hdata]
        exact hrefunded
    · exact ensures_pure _ (hQ _ _ ⟨h₃, hrefunded, hstore, hstatus⟩)

lemma ensures_startTaskRefund (h : Agrees { w with row := task })
    (hlive : task.privateData.billingRefunded = false) :
    (startTaskRefund task : TaskProgram Ledger Unit Task).Ensures w
      (fun task' w' => (∃ terms, Settling 0 terms task' w') ∧ w' = w.persist task') E := by
  rw [startTaskRefund]
  rcases h with ⟨target, terms, h⟩ | h
  · simp only [if_pos h.pending]
    exact ensures_persist ⟨⟨_, { h.retarget le_rfl with row := rfl }⟩, rfl⟩
  · have hpending : task.privateData.billingSettlementPending = false := h.notPending
    have hcurrent : (if task.quota > 0 then task.quota else task.refundQuota) = task.refundQuota :=
      ite_eq_right_iff.2 fun hpos => (Task.refundQuota_of_pos hpos).symm
    simp only [initializeTaskBillingSettlementAt, hpending, hcurrent]
    exact ensures_persist ⟨⟨_, { h.start hlive le_rfl with row := rfl }⟩, rfl⟩

lemma ensures_refundTaskQuota (h : Agrees w) :
    (refundTaskQuota (stores fate) w.row).Ensures w (fun _ => Agrees)
      (fun e w' => Agrees w' ∧ e.IsStore) := by
  rw [refundTaskQuota]
  split_ifs with hrefunded hquota
  · exact ensures_pure _ h
  · exact ensures_pure _ h
  have hlive := Bool.eq_false_of_not_eq_true hrefunded
  refine (ensures_startTaskRefund h hlive).bind fun task₁ w₁ h₁ => ?_
  obtain ⟨⟨terms, h₁⟩, -⟩ := h₁
  refine (ensures_settleTaskBillingTarget h₁ le_rfl).bind fun task₂ w₂ h₂ => ?_
  exact ensures_finishTaskRefund h₂ fun _ _ h => .inr h.1

/-- A settlement of a task at another cost than it is at brings both sides there, unless an
    operation of the stores fails. -/
lemma ensures_recalculate_of_ne (h : Agrees w)
    (hlive : w.row.privateData.billingRefunded = false) (hpos : 0 < actualQuota)
    (hne : actualQuota ≠ w.row.preConsumedQuota) :
      (recalculateTaskQuota (stores fate) w.row actualQuota).Ensures w
      (fun _ => SettledAt actualQuota w.row.terms) (fun e w' => Agrees w' ∧ e.IsStore) := by
  simp only [recalculateTaskQuota, if_neg (not_le.2 hpos), if_neg (sub_ne_zero.2 hne)]
  have hstart : (initializeTaskBillingSettlementAt w.row
        (if w.row.privateData.billingSettlementPending = true then
          w.row.privateData.billingSettlementFundingAmount else w.row.preConsumedQuota)
        actualQuota : TaskProgram Ledger Unit Task).Ensures w
      (fun task w' => ∃ target, Settling target w.row.terms task w')
      (fun e w' => Agrees w' ∧ e.IsStore) := by
    rw [initializeTaskBillingSettlementAt]
    rcases h with ⟨target, terms, h⟩ | h
    · rw [if_pos h.pending]
      exact ensures_pure _ ⟨_, h.terms_eq.symm ▸ h⟩
    · simp only [h.notPending]
      rw [h.preConsumedQuota hlive]
      exact ensures_persist ⟨_, h.start hlive hpos.le⟩
  refine hstart.bind fun task₁ w₁ h₁ => ?_
  obtain ⟨target, h₁⟩ := h₁
  refine (ensures_settleTaskBillingTarget h₁ hpos.le).bind fun task₂ w₂ h₂ => ?_
  exact ensures_finishTaskSettlement h₂ fun hzero => absurd hzero hpos.ne'

lemma recalculate_of_eq (hpos : 0 < actualQuota)
    (heq : actualQuota = w.row.preConsumedQuota) {Q : Task → TaskWorld Ledger → Prop}
    (h : ∀ task, Q task (w.persist { w.row with quota := actualQuota })) :
    (recalculateTaskQuota (stores fate) w.row actualQuota).Ensures w Q E := by
  rw [recalculateTaskQuota, if_neg (not_le.2 hpos), if_pos (sub_eq_zero.2 heq)]
  split_ifs with hquota
  · exact ensures_persist (h _)
  · have hrow : w.persist { w.row with quota := actualQuota } = w := by
      rw [← not_ne_iff.1 hquota]
      rfl
    exact ensures_pure _ (hrow ▸ h _)

lemma Settled.normalize (h : Settled w) (hlive : w.row.privateData.billingRefunded = false)
    (hpos : 0 < w.row.preConsumedQuota) : SettledAt w.row.preConsumedQuota w.row.terms
      (w.persist { w.row with quota := w.row.preConsumedQuota }) := by
  have hfunding : w.store.funding = w.row.preConsumedQuota := by
    rw [h.funding, hlive, h.preConsumedQuota hlive]
    rfl
  have htoken : w.store.token = if w.row.tokenQuotaRequired then w.row.preConsumedQuota else 0 := by
    rw [h.token_eq hlive, h.preConsumedQuota hlive]
  refine
    { notPending := h.notPending
      quota_nonneg := fun _ => hpos.le
      funding := hfunding.trans ?_
      token := htoken.trans ?_
      wallet := h.wallet
      terms_eq := rfl
      notRefunded := hlive
      funding_eq := hfunding
      token_eq := htoken }
  · change _ = if w.row.privateData.billingRefunded = true then 0 else _
    rw [hlive]
    exact (@Task.refundQuota_of_pos { w.row with quota := w.row.preConsumedQuota } hpos).symm
  · change _ = if (w.row.tokenQuotaRequired && !w.row.privateData.billingRefunded) =
      true then _ else _
    rw [hlive, Bool.not_false, Bool.and_true]
    rfl

lemma ensures_recalculateTaskQuota (h : Agrees w)
    (hlive : w.row.privateData.billingRefunded = false) :
    (recalculateTaskQuota (stores fate) w.row actualQuota).Ensures w (fun _ => Agrees)
      (fun e w' => Agrees w' ∧ e.IsStore) := by
  rcases le_or_gt actualQuota 0 with hpos | hpos
  · rw [recalculateTaskQuota, if_pos hpos]
    exact ensures_pure _ h
  by_cases heq : actualQuota = w.row.preConsumedQuota
  · refine recalculate_of_eq hpos heq fun _ => ?_
    rcases h with ⟨target, terms, h⟩ | h
    · exact .inl ⟨target, terms, { h with row := rfl }⟩
    · subst heq
      exact .inr (h.normalize hlive hpos).toSettled
  · exact (ensures_recalculate_of_ne h hlive hpos heq).mono (fun _ _ h => .inr h.toSettled)
      fun _ _ h => h

/-- A retry would settle the task at zero, although a subscription has a reservation for
    it that its row goes by once no settlement is pending. -/
def Task.ReleasesReservation (task : Task) : Prop :=
  task.status = .success ∧ task.privateData.billingSettlementPending = true ∧
    task.privateData.billingSettlementTarget = 0 ∧ task.reservation ≠ 0

lemma ensures_retryPendingTaskBilling (h : Agrees w) (hreserved : ¬w.row.ReleasesReservation) :
    (retryPendingTaskBilling (stores fate) w.row).Ensures w (fun _ => Agrees) (fun e w' =>
      Agrees w' ∧ e.IsStore) := by
  rcases h with ⟨target, terms, h⟩ | h
  swap
  · simp only [retryPendingTaskBilling, h.notPending]
    exact ensures_pure _ (.inr h)
  have hagrees : Agrees w := .inl ⟨target, terms, h⟩
  simp only [retryPendingTaskBilling, h.pending, Bool.not_true, Bool.false_eq_true, if_false]
  split
  · exact ensures_refundTaskQuota hagrees
  · rename_i hstatus
    split_ifs with hneg hzero
    · exact ensures_pure _ hagrees
    · have hreservation : terms.reservation = 0 := by
        by_contra hne
        exact hreserved ⟨hstatus, h.pending, hzero, fun hzero' => hne (h.terms_eq ▸ hzero')⟩
      refine (ensures_settleTaskBillingTarget h le_rfl).bind fun task₂ w₂ h₂ => ?_
      exact (ensures_finishTaskSettlement h₂ fun _ => hreservation).mono
        (fun _ _ h => .inr h.toSettled) fun _ _ h => h
    · exact ensures_recalculateTaskQuota hagrees h.notRefunded
  · exact ensures_pure _ hagrees

end

/-! ## Runs -/

/-- The calls that move what a task costs. -/
inductive TaskCall
  | recalculateTaskQuota (actualQuota : ℤ)
  | refundTaskQuota
  | retryPendingTaskBilling

/-- A call works on the row as it finds it. -/
def TaskCall.program {σ ε : Type} (stores : BillingStores σ ε) : TaskCall → TaskProgram σ ε Task
  | .recalculateTaskQuota actualQuota => do
    let w ← get
    Allrouter.recalculateTaskQuota stores w.row actualQuota
  | .refundTaskQuota => do
    let w ← get
    Allrouter.refundTaskQuota stores w.row
  | .retryPendingTaskBilling => do
    let w ← get
    Allrouter.retryPendingTaskBilling stores w.row

/-- A task that was refunded is not settled again, and a reservation is released by a
    refund only. -/
def TaskCall.Proper (row : Task) : TaskCall → Prop
  | .recalculateTaskQuota _ => row.privateData.billingRefunded = false
  | .refundTaskQuota => True
  | .retryPendingTaskBilling => ¬row.ReleasesReservation

/-- The world after a call, whose store operations end by `fate`. -/
def TaskCall.after (fate : Fate) (call : TaskCall) (w : TaskWorld Ledger) : TaskWorld Ledger :=
  (call.program (stores fate) w).final w

/-- Between the calls the status of the task may change. -/
inductive TaskStep : TaskWorld Ledger → TaskWorld Ledger → Prop
  | progress (w : TaskWorld Ledger) (status : TaskStatus) :
    TaskStep w { w with row := { w.row with status := status } }
  | call (w : TaskWorld Ledger) (fate : Fate) (call : TaskCall) (hproper : call.Proper w.row) :
    TaskStep w (call.after fate w)

variable {w : TaskWorld Ledger}

lemma Agrees.progress (h : Agrees w) (status : TaskStatus) :
    Agrees { w with row := { w.row with status := status } } := by
  rcases h with ⟨target, terms, h⟩ | h
  · exact .inl ⟨target, terms, { h with row := rfl }⟩
  · exact .inr { h with }

lemma Agrees.call (h : Agrees w) (fate : Fate) {call : TaskCall}
    (hproper : call.Proper w.row) : Agrees (call.after fate w) := by
  refine Program.Ensures.final ?_
  cases call with
  | recalculateTaskQuota actualQuota =>
    exact (ensures_recalculateTaskQuota h hproper).mono (fun _ _ h => h) fun _ _ h => h.1
  | refundTaskQuota =>
    exact (ensures_refundTaskQuota h).mono (fun _ _ h => h) fun _ _ h => h.1
  | retryPendingTaskBilling =>
    exact (ensures_retryPendingTaskBilling h hproper).mono (fun _ _ h => h) fun _ _ h => h.1

lemma Agrees.run {w₀ : TaskWorld Ledger} (h₀ : Agrees w₀) (h : ReflTransGen TaskStep w₀ w) :
    Agrees w := by
  induction h with
  | refl => exact h₀
  | tail _ hstep ih =>
    cases hstep with
    | progress status => exact ih.progress status
    | call fate _ hproper => exact ih.call fate hproper

/-- The ledger is at what the row says: on each side at the checkpoint while a settlement
    is pending, at what there is to give back while none is, and at nothing after
    a refund. A token that does not count the task is left alone. -/
structure TaskCharged (w : TaskWorld Ledger) : Prop where
  funding_pending : w.row.privateData.billingSettlementPending = true →
    w.store.funding = w.row.privateData.billingSettlementFundingAmount
  funding_settled : w.row.privateData.billingSettlementPending = false →
    w.row.privateData.billingRefunded = false → w.store.funding = w.row.refundQuota
  funding_refunded : w.row.privateData.billingRefunded = true → w.store.funding = 0
  token_pending : w.row.tokenQuotaRequired = true →
    w.row.privateData.billingSettlementPending = true →
    w.store.token = w.row.privateData.billingSettlementTokenAmount
  token_settled : w.row.tokenQuotaRequired = true →
    w.row.privateData.billingSettlementPending = false →
    w.row.privateData.billingRefunded = false → w.store.token = w.row.quota
  token_refunded : w.row.privateData.billingRefunded = true → w.store.token = 0
  token_unused : w.row.tokenQuotaRequired = false → w.store.token = 0
  wallet : w.row.WalletParts w.store.funding

lemma Settling.taskCharged {target : ℤ} {terms : TaskTerms} (h : Settling target terms w.row w) :
    TaskCharged w where
  funding_pending _ := h.funding
  funding_settled hpending := absurd h.pending (by simp [hpending])
  funding_refunded hrefunded := absurd h.notRefunded (by simp [hrefunded])
  token_pending hrequired _ := h.token.trans (if_pos hrequired)
  token_settled _ hpending := absurd h.pending (by simp [hpending])
  token_refunded hrefunded := absurd h.notRefunded (by simp [hrefunded])
  token_unused hrequired := h.token.trans (if_neg (by simp [hrequired]))
  wallet := h.wallet

lemma Settled.taskCharged (h : Settled w) : TaskCharged w where
  funding_pending hpending := absurd h.notPending (by simp [hpending])
  funding_settled _ hlive := h.funding.trans (if_neg (by simp [hlive]))
  funding_refunded hrefunded := h.funding.trans (if_pos hrefunded)
  token_pending _ hpending := absurd h.notPending (by simp [hpending])
  token_settled hrequired _ hlive := h.token.trans (if_pos (by simp [hrequired, hlive]))
  token_refunded hrefunded := h.token.trans (if_neg (by simp [hrefunded]))
  token_unused hrequired := h.token.trans (if_neg (by simp [hrequired]))
  wallet := h.wallet

/-- In every state that the calls lead to, the ledger has what the row of the task says. -/
theorem taskCharged_of_run {w₀ w : TaskWorld Ledger} (h₀ : Settled w₀)
    (h : ReflTransGen TaskStep w₀ w) :
    TaskCharged w := by
  rcases Agrees.run (.inr h₀) h with ⟨target, terms, h⟩ | h
  · exact h.taskCharged
  · exact h.taskCharged

namespace Half

/-- A task that took 4 from the reward part of a wallet and 6 from the paid one. -/
def submitted : TaskWorld Ledger where
  row :=
    { status := .success, quota := 10
      privateData :=
        { billingSource := .wallet, tokenId := 7, walletQuotaBreakdownRecorded := true
          walletRewardUsed := 4, walletPaidUsed := 6 } }
  store := { funding := 10, token := 10 }

lemma settled : Settled submitted := ⟨rfl, fun _ => by decide, rfl, rfl, fun _ _ => by decide⟩

/-- Its settlement at 25 stops after the wallet, which had 5 in rewards left. -/
def stopped : TaskWorld Ledger :=
  (TaskCall.recalculateTaskQuota 25).after { wallet := some ⟨100, 5⟩ } submitted

def retried : TaskWorld Ledger := TaskCall.retryPendingTaskBilling.after { token := true } stopped

end Half

/-- A settlement that stops half way, and is called again. -/
theorem taskCharged_of_half : Half.stopped.store = { funding := 25, token := 10 } ∧
    Half.retried.store = { funding := 25, token := 25 } ∧ TaskCharged Half.retried := by
  have hstop : TaskStep Half.submitted Half.stopped := .call _ _ _ rfl
  have hproper : TaskCall.retryPendingTaskBilling.Proper Half.stopped.row :=
    fun h => absurd h.2.2.1 (by decide +kernel)
  have hrun : ReflTransGen TaskStep Half.submitted Half.retried :=
    .tail (.single hstop) (.call _ _ _ hproper)
  exact ⟨by decide +kernel, by decide +kernel, taskCharged_of_run Half.settled hrun⟩

namespace Reserved

/-- A task whose submission came out at zero, for which a subscription reserved 1. -/
def submitted : TaskWorld Ledger where
  row :=
    { status := .success, quota := 0
      privateData :=
        { billingSource := .subscription, subscriptionId := 1, subscriptionRequestId := "req"
          subscriptionPreConsumed := 1, tokenId := 7 } }
  store := { funding := 1 }

/-- The task after its settlement at some cost. -/
def settledAt (actualQuota : ℤ) : TaskWorld Ledger :=
  (TaskCall.recalculateTaskQuota actualQuota).after { subscription := some 1, token := true }
    submitted

end Reserved

/-- At zero the reservation stays taken, and at five the token is not charged. -/
theorem not_quota_of_reserved :
    ((Reserved.settledAt 0).row.privateData.billingSettlementPending = false ∧
      (Reserved.settledAt 0).row.quota = 0 ∧ (Reserved.settledAt 0).store.funding = 1) ∧
    ((Reserved.settledAt 5).row.privateData.billingSettlementPending = false ∧
      (Reserved.settledAt 5).row.quota = 5 ∧ (Reserved.settledAt 5).store.token = 0) := by
  decide +kernel

/-! ## Settlements that go through -/

/-- A recalculation that meets no error of a store ends with the ledger at its quota; one to zero
    does nothing. -/
theorem charged_of_recalculate {fate : Fate} {w : TaskWorld Ledger} {actualQuota : ℤ} (h : Agrees w)
    (hlive : w.row.privateData.billingRefunded = false)
    (hok : ∀ e, (recalculateTaskQuota (stores fate) w.row actualQuota w).result ≠
      .error (.store e)) :
    let w' := (recalculateTaskQuota (stores fate) w.row actualQuota w).final w
    (actualQuota = 0 → w' = w) ∧
    (0 < actualQuota → (w.row.privateData.billingSettlementPending = true →
      actualQuota ≠ w.row.preConsumedQuota) →
      w'.row.privateData.billingSettlementPending = false ∧ w'.store.funding = actualQuota ∧
        w'.store.token = if w.row.tokenQuotaRequired then actualQuota else 0) := by
  refine ⟨?_, fun hpos hnew => ?_⟩
  · rintro rfl
    rfl
  have hensures : (recalculateTaskQuota (stores fate) w.row actualQuota).Ensures w
      (fun _ => SettledAt actualQuota w.row.terms) (fun e w' => Agrees w' ∧ e.IsStore) := by
    by_cases heq : actualQuota = w.row.preConsumedQuota
    · rcases h with ⟨target, terms, h⟩ | h
      · exact absurd heq (hnew h.pending)
      · subst heq
        exact recalculate_of_eq hpos rfl fun _ => h.normalize hlive hpos
    · exact ensures_recalculate_of_ne h hlive hpos heq
  rw [Program.Ensures] at hensures
  split at hensures
  · have hrequired : _ = w.row.tokenQuotaRequired :=
      congrArg tokenQuotaRequired hensures.terms_eq
    exact ⟨hensures.notPending, hensures.funding_eq, hrequired ▸ hensures.token_eq⟩
  · rename_i e hresult
    cases e with
    | store e => exact absurd hresult (hok e)
    | _ => exact hensures.2.elim

/-- The task after a settlement at 7 that takes up the one at 25, and goes through. -/
def Half.resettled : TaskWorld Ledger :=
  (TaskCall.recalculateTaskQuota 7).after { wallet := some ⟨100, 5⟩, token := true } Half.stopped

/-- A recalculation after one that has stopped half way. -/
theorem charged_of_half : Half.stopped.store = { funding := 25, token := 10 } ∧
    Half.resettled.store.funding = 7 ∧ Half.resettled.store.token = 7 := by
  have hagrees : Agrees Half.stopped := Agrees.call (.inr Half.settled) _ rfl
  have hcharged := (@charged_of_recalculate { wallet := some ⟨100, 5⟩, token := true } _ 7 hagrees
    (by decide +kernel) (fun e => by cases e; decide +kernel)).2 (by decide)
      (fun _ => by decide +kernel)
  exact ⟨by decide +kernel, hcharged.2.1, hcharged.2.2⟩

/-- A recalculation to zero does nothing, and one at a subscription leaves the token. -/
theorem not_charged_of_zero :
    ((TaskCall.recalculateTaskQuota 0).after { wallet := some ⟨100, 5⟩, token := true }
      Half.submitted).store =
        { funding := 10, token := 10 } ∧
            (Reserved.settledAt 5).store = { funding := 5, token := 0 } := by
  decide +kernel

end Allrouter
