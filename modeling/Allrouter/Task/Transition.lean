import Allrouter.Task.Calls

/-!
# Transitions of a task

The row of a task is written by workers that have read it some time before. A write
is guarded by the status that was read (`updateWithStatus`), or it is not (`update`).

What follows a transition to `FAILURE` is a refund. It goes in stages, between
which other workers may write (`RefundStage`); uninterrupted, the stages are
`refundTaskQuota` (`refundTaskQuota_eq_stages`).
-/

namespace Allrouter

open Durable Program

/-! ## Writes -/

/-- The task has come to an end. -/
def TaskStatus.terminal : TaskStatus → Bool
  | .success | .failure => true
  | _ => false

namespace TaskWorld

variable {σ : Type} (w : TaskWorld σ)

def update (task : Task) : TaskWorld σ := { w with row := task }

/-- Writes the whole row, if its status is still `fromStatus`. -/
def updateWithStatus (fromStatus : TaskStatus) (task : Task) : TaskWorld σ × Bool :=
  if w.row.status = fromStatus then (w.update task, true) else (w, false)

end TaskWorld

/-! ## The rebate -/

/-- The rebate is due: the wallet paid, in known parts and on the main site, nothing is pending, and
    it was not settled before. -/
def Task.rebateDue (task : Task) : Bool :=
  let data := task.privateData
  data.billingSource = .wallet && data.walletQuotaBreakdownRecorded && !data.consumeRebateSettled &&
    !data.billingSettlementPending && data.billingContextProviderId ≤ 0

/-- Writes quota and billing data as the worker has them in memory, whatever is in the row. The
    rebate of what was paid may fail (`applied`), and so may the write (`persisted`). -/
def TaskWorld.finalizeTaskConsumeRebate {σ : Type} (w : TaskWorld σ) (task : Task)
    (applied persisted : Bool) : TaskWorld σ :=
  if task.rebateDue && (task.privateData.walletPaidUsed ≤ 0 || applied) && persisted then
    w.persist { task with privateData := { task.privateData with consumeRebateSettled := true } }
  else w

/-! ## The timeout sweep -/

/-- A task submitted before is not refunded on a timeout. -/
def legacyTaskCutoff : ℤ := 1740182400

def Task.isLegacy (task : Task) : Bool := task.submitTime > 0 && task.submitTime < legacyTaskCutoff

def Task.timedOut (task : Task) (minutes : String) (now : ℤ) : Task :=
  { task with
    status := .failure
    progress := "100%"
    finishTime := now
    failReason :=
      if task.isLegacy then "任务超时（旧系统遗留任务，不进行退款，请联系管理员）"
      else "任务超时（" ++ minutes ++ "分钟）" }

/-- Chained on a generation that is dispatched here. -/
def taskActionMiniMaxH3Generate : String := "minimaxH3Generate"

def taskActionMiniMaxH3Upscale : String := "minimaxH3Upscale"

/-- A generation that waits to be dispatched is left to the dispatcher. -/
def Task.awaitsDispatch (task : Task) : Bool :=
  task.action = taskActionMiniMaxH3Generate &&
    (task.status = .notStart || task.status = .dispatching)

/-- The rows that the sweep reads. -/
def Task.timedOutUnfinished (task : Task) (cutoffUnix : ℤ) : Bool :=
  task.progress ≠ "100%" && !task.status.terminal && !task.awaitsDispatch &&
    task.submitTime < cutoffUnix

/-- The rows that the pollers read. -/
def Task.unFinishSync (task : Task) : Bool :=
  task.progress ≠ "100%" &&
    (!task.status.terminal || (task.action = taskActionMiniMaxH3Upscale &&
      task.status = .success)) &&
    !task.awaitsDispatch

/-! ## Refunds in stages -/

/-- Where a refund has come to. -/
inductive RefundStage
  | start
  | funding
  /-- Funding has moved, the checkpoint is still to be written. -/
  | fundingMoved
  | token
  /-- Token quota has moved, the checkpoint is still to be written. -/
  | tokenMoved
  | finish
  | mark
  deriving DecidableEq

namespace RefundStage

section

variable {σ ε : Type} (stores : BillingStores σ ε)

/-- A stage, after which the refund goes on with the next one, or has come to an end. -/
def program (task : Task) : RefundStage → TaskProgram σ ε (Option (Task × RefundStage))
  | start =>
    if task.privateData.billingRefunded then pure none
    else if task.pendingRefundQuota ≤ 0 then pure none
    else do
      let task ← startTaskRefund task
      pure (some (task, funding))
  | funding =>
    if task.privateData.billingSettlementFundingDone then pure (some (task, token))
    else do
      let task ← taskAdjustFunding stores task (0 - task.privateData.billingSettlementFundingAmount)
      pure (some (task, fundingMoved))
  | fundingMoved => do
    let task ← persistTaskBillingState (task.fundingAt 0)
    pure (some (task, token))
  | token =>
    if task.privateData.billingSettlementTokenDone then pure (some (task, finish))
    else do
      let task ← taskAdjustTokenQuota stores task
        (0 - task.privateData.billingSettlementTokenAmount)
      pure (some (task, tokenMoved))
  | tokenMoved => do
    let task ← persistTaskBillingState (task.tokenAt 0)
    pure (some (task, finish))
  | finish => do
    let cleared := clearTaskBillingSettlement task
    let task ← persistTaskBillingState
      { cleared with privateData := { cleared.privateData with billingRefunded := true } }
    pure (some (task, mark))
  | mark =>
    if task.privateData.walletQuotaBreakdownRecorded then do
      let _ ← persistTaskBillingState
        { task with privateData := { task.privateData with consumeRebateSettled := true } }
      pure none
    else pure none

/-- The task in memory where a refund ends with the stage. -/
def left (task : Task) : RefundStage → Task
  | mark =>
    if task.privateData.walletQuotaBreakdownRecorded then
      { task with privateData := { task.privateData with consumeRebateSettled := true } }
    else task
  | _ => task

lemma refunded_left (task : Task) (stage : RefundStage) :
    (stage.left task).privateData.billingRefunded = task.privateData.billingRefunded := by
  cases stage with
  | mark =>
    rw [left]
    split_ifs <;> rfl
  | _ => rfl

/-- At most `n` stages from one on, uninterrupted. -/
def runFrom : ℕ → Task → RefundStage → TaskProgram σ ε (Option (Task × RefundStage))
  | 0, task, stage => pure (some (task, stage))
  | n + 1, task, stage => do
    match ← stage.program stores task with
    | none => pure none
    | some (task, stage) => runFrom n task stage

variable {stores}

lemma runFrom_finish (n : ℕ) (task : Task) :
    runFrom stores (n + 2) task finish = finishTaskRefund task >>= fun _ => pure none := by
  simp only [runFrom, program, finishTaskRefund, bind_assoc_eq, pure_bind_eq]
  congr 1
  funext task
  split_ifs <;> simp only [bind_assoc_eq, pure_bind_eq]

lemma runFrom_token (n : ℕ) (task : Task) :
    runFrom stores (n + 4) task token = settleTaskToken stores task 0 >>= fun task =>
      finishTaskRefund task >>= fun _ => pure none := by
  rw [runFrom, program, settleTaskToken]
  split_ifs
  · exact runFrom_finish (n + 1) task
  · simp only [bind_assoc_eq, pure_bind_eq]
    congr 1
    funext task
    rw [runFrom, program]
    simp only [bind_assoc_eq, pure_bind_eq, runFrom_finish]
    rfl

lemma runFrom_funding (n : ℕ) (task : Task) :
    runFrom stores (n + 6) task funding = settleTaskFunding stores task 0 >>= fun task =>
      settleTaskToken stores task 0 >>= fun task => finishTaskRefund task >>= fun _ =>
        pure none := by
  rw [runFrom, program, settleTaskFunding]
  split_ifs
  · exact runFrom_token (n + 1) task
  · simp only [bind_assoc_eq, pure_bind_eq]
    congr 1
    funext task
    rw [runFrom, program]
    simp only [bind_assoc_eq, pure_bind_eq, runFrom_token]
    rfl

end

end RefundStage

/-- What is persisted is what the program goes on with. -/
lemma persist_bind_congr {σ ε α : Type} {task : Task} {k k' : Task → TaskProgram σ ε α}
    (h : k task = k' task) :
    persistTaskBillingState task >>= k = persistTaskBillingState task >>= k' :=
  funext fun _ => bind_congr_of_ok rfl h

lemma refundTaskQuota_eq_stages {σ ε : Type} (stores : BillingStores σ ε) (task : Task) :
    RefundStage.runFrom stores 7 task .start = refundTaskQuota stores task >>= fun _ =>
      pure none := by
  rw [RefundStage.runFrom, RefundStage.program, refundTaskQuota]
  split_ifs with hrefunded hquota
  · rfl
  · rfl
  -- both go on from a checkpoint at zero
  have hrest : ∀ funding token,
      (persistTaskBillingState (task.checkpoint 0 funding token) >>= fun task =>
        settleTaskFunding stores task 0 >>= fun task =>
            settleTaskToken stores task 0 >>= fun task =>
          finishTaskRefund task >>= fun _ => pure (none : Option (Task × RefundStage))) =
      (persistTaskBillingState (task.checkpoint 0 funding token) >>= fun task =>
        settleTaskBillingTarget stores task 0 >>= fun task =>
          finishTaskRefund task >>= fun _ => pure none) := by
    intro funding token
    refine persist_bind_congr ?_
    rw [settleTaskBillingTarget_of_pending le_rfl rfl rfl, bind_assoc_eq]
  simp only [bind_assoc_eq, pure_bind_eq, RefundStage.runFrom_funding, startTaskRefund,
    initializeTaskBillingSettlementAt]
  split_ifs with hpending
  · exact hrest _ _
  · exact hrest _ _
  · exact hrest _ _

/-! ## What a stage keeps -/

namespace RefundStage

/-- What holds when a refund is at a stage: the row agrees with the ledger, or will once
    the checkpoint is written. -/
def Ready (task : Task) (w : TaskWorld Ledger) : RefundStage → Prop
  | start => Settled (w.update task) ∧ w.row.privateData = task.privateData
  | funding => ∃ terms, Settling 0 terms task w
  | fundingMoved => w.row.privateData.billingRefunded = false ∧ w.store.funding = 0 ∧
    ∃ terms, Settling 0 terms (task.fundingAt 0) (w.persist (task.fundingAt 0))
  | token => w.store.funding = 0 ∧ ∃ terms, Settling 0 terms task w
  | tokenMoved => w.row.privateData.billingRefunded = false ∧
    ∃ terms, Reached 0 terms (task.tokenAt 0) (w.persist (task.tokenAt 0))
  | finish => ∃ terms, Reached 0 terms task w
  | mark => task.privateData.billingRefunded = true

/-- What a refund leaves as it is: the outcome of the task, and the marker of a refund.
    It never gives back more than was taken. -/
structure Keeps (w w' : TaskWorld Ledger) : Prop where
  status : w'.row.status = w.row.status
  action : w'.row.action = w.row.action
  refunded : w.row.privateData.billingRefunded = true → w'.row.privateData.billingRefunded = true
  nonneg : 0 ≤ w.store.funding ∧ 0 ≤ w.store.token → 0 ≤ w'.store.funding ∧ 0 ≤ w'.store.token

lemma Keeps.refl (w : TaskWorld Ledger) : Keeps w w := ⟨rfl, rfl, id, id⟩

variable {fate : Fate} {task : Task} {w : TaskWorld Ledger} {stage : RefundStage}

lemma Ready.congr {w' : TaskWorld Ledger} (h : stage.Ready task w)
    (hdata : w'.row.privateData = w.row.privateData) (hstore : w'.store = w.store) :
      stage.Ready task w' := by
  obtain ⟨row, store⟩ := w
  obtain ⟨row', store'⟩ := w'
  cases row
  cases hdata
  cases hstore
  cases stage with
  | start => exact ⟨h.1, h.2⟩
  | funding => exact h.imp fun _ h => { h with }
  | fundingMoved => exact ⟨h.1, h.2.1, h.2.2.imp fun _ h => { h with }⟩
  | token => exact ⟨h.1, h.2.imp fun _ h => { h with }⟩
  | tokenMoved => exact ⟨h.1, h.2.imp fun _ h => { h with }⟩
  | finish => exact h.imp fun _ h => { h with }
  | mark => exact h

/-- A refund does not go on with a task that it has not seen refunded. -/
lemma Ready.refunded (h : stage.Ready task w) (hrow : w.row.privateData.billingRefunded = true) :
    task.privateData.billingRefunded = true := by
  cases stage with
  | start => rwa [← h.2]
  | funding => rwa [← h.choose_spec.row]
  | fundingMoved => cases h.1.symm.trans hrow
  | token => rwa [← h.2.choose_spec.row]
  | tokenMoved => cases h.1.symm.trans hrow
  | finish => rwa [← h.choose_spec.row]
  | mark => exact h

/-- What a stage has left: the next one is ready, or the refund has ended with nothing written but
    for a task that is refunded. -/
structure Advanced (task : Task) (w : TaskWorld Ledger) (next : Option (Task × RefundStage))
    (w' : TaskWorld Ledger) : Prop where
  keeps : Keeps w w'
  ready : ∀ n ∈ next, n.2.Ready n.1 w'
  ended : next = none → task.privateData.billingRefunded = true ∨ w' = w

lemma Advanced.some {n : Task × RefundStage} {w' : TaskWorld Ledger} (hkeeps : Keeps w w')
    (hready : n.2.Ready n.1 w') : Advanced task w (.some n) w' :=
  ⟨hkeeps, fun m hm => by cases hm; exact hready, nofun⟩

lemma Advanced.idle : Advanced task w none w where
  keeps := .refl w
  ready _ hn := nomatch hn
  ended _ := .inr rfl

lemma keeps_persist
    (hrefunded : w.row.privateData.billingRefunded = true →
      task.privateData.billingRefunded = true) :
    Keeps w (w.persist task) :=
  ⟨rfl, rfl, hrefunded, id⟩

lemma ensures_persist_next {task' : Task} {next : Task → Option (Task × RefundStage)}
    {E : TaskError Unit → TaskWorld Ledger → Prop}
    (hnext : Advanced task w (next task') (w.persist task')) :
    (persistTaskBillingState task' >>= fun task => pure (next task) :
      TaskProgram Ledger Unit (Option (Task × RefundStage))).Ensures w (Advanced task w) E := by
  refine Program.Ensures.bind (Q := fun task w' => task = task' ∧ w' = w.persist task')
    (ensures_persist ⟨rfl, rfl⟩) ?_
  rintro task' w' ⟨rfl, rfl⟩
  exact ensures_pure _ hnext

lemma ensures_program (h : stage.Ready task w) :
    (stage.program (Ledger.stores fate) task).Ensures w (Advanced task w) (fun _ w' => w' = w) := by
  cases stage with
  | start =>
    rw [program]
    split_ifs with hrefunded hquota
    · exact ensures_pure _ .idle
    · exact ensures_pure _ .idle
    have hlive := Bool.eq_false_of_not_eq_true hrefunded
    refine (ensures_startTaskRefund (.inr h.1) hlive).bind ?_
    rintro task' w' ⟨⟨terms, hsettling⟩, rfl⟩
    refine ensures_pure _ (.some (keeps_persist fun h' => ?_) ⟨terms, hsettling⟩)
    rw [h.2, hlive] at h'
    cases h'
  | funding =>
    obtain ⟨terms, h⟩ := h
    rw [program]
    split_ifs with hdone
    · exact ensures_pure _ (.some (.refl w) ⟨h.funding.trans (h.fundingDone hdone), terms, h⟩)
    · refine (h.ensures_adjustFunding.mono (fun _ _ h => h) fun _ _ h => h.1).bind ?_
      rintro task' w' ⟨hsettling, hfunding, hrow⟩
      refine ensures_pure _ (.some ?_ ⟨?_, hfunding, terms, hsettling⟩)
      · exact ⟨by rw [hrow], by rw [hrow], by rw [hrow]; exact id, fun _ => hsettling.nonneg⟩
      · rw [hrow, h.row]
        exact h.notRefunded
  | fundingMoved =>
    obtain ⟨hlive, hfunding, terms, h⟩ := h
    refine ensures_persist_next (.some (keeps_persist fun h' => ?_) ⟨hfunding, terms, h⟩)
    cases hlive.symm.trans h'
  | token =>
    obtain ⟨hfunding, terms, h⟩ := h
    rw [program]
    split_ifs with hdone
    · exact ensures_pure _ (.some (.refl w) ⟨terms, h.reached hfunding hdone⟩)
    · refine ((h.ensures_adjustToken hfunding).mono (fun _ _ h => h) fun _ _ h => h.1).bind ?_
      rintro task' w' ⟨hreached, hrow⟩
      refine ensures_pure _ (.some ?_ ⟨?_, terms, hreached⟩)
      · exact ⟨by rw [hrow], by rw [hrow], by rw [hrow]; exact id, fun _ => hreached.nonneg⟩
      · rw [hrow, h.row]
        exact h.notRefunded
  | tokenMoved =>
    obtain ⟨hlive, terms, h⟩ := h
    refine ensures_persist_next (.some (keeps_persist fun h' => ?_) ⟨terms, h⟩)
    cases hlive.symm.trans h'
  | finish => exact ensures_persist_next (.some (keeps_persist fun _ => rfl) rfl)
  | mark =>
    rw [program]
    split_ifs
    · exact ensures_persist_next ⟨keeps_persist fun _ => h, fun _ hn => (nomatch hn),
        fun _ => .inl h⟩
    · exact ensures_pure _ .idle

end RefundStage

end Allrouter
