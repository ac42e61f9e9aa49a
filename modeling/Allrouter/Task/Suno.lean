import Allrouter.Task.Transition

/-!
# Suno tasks

Pollers and timeout sweeps read the row of a task and write it some time later, in any
order. A transition to a terminal status is guarded by the status that was read;
every other update of a poller saves the whole row as it was read, whatever has happened
in between. The worker that wins a failure refunds the task, in stages; the one that wins a success
settles the rebate, and saves the billing data as it has it in memory.

* `refunded_once_of_proper`: as long as no such save meets a row that has come to an
  end, and no failure is reported for a task that goes on, a terminal status stays
  terminal, a refunded task stays refunded, and no more is given back than was taken.
* `refunded_twice_of_stale`: a save that comes late brings a task that was refunded back
  to life, and it is refunded once more.
-/

namespace Allrouter

open Durable Interleaving Option

/-! ## Workers -/

/-- What the service reports on a task. -/
structure SunoDataResponse where
  status : TaskStatus := .other ""
  failReason : String := ""
  (submitTime startTime finishTime : ℤ := 0)
  data : String := ""

/-- The two documents differ in their bytes, wherever these stand. -/
def bytesDiffer (oldData newData : String) : Bool :=
  !oldData.toUTF8.data.toList.isPerm newData.toUTF8.data.toList

def taskNeedsUpdate (oldTask : Task) (newTask : SunoDataResponse) : Bool :=
  oldTask.submitTime ≠ newTask.submitTime || oldTask.startTime ≠ newTask.startTime ||
    oldTask.finishTime ≠ newTask.finishTime || oldTask.status ≠ newTask.status ||
    oldTask.failReason ≠ newTask.failReason ||
    (oldTask.status.terminal && oldTask.progress ≠ "100%") || bytesDiffer oldTask.data newTask.data

namespace SunoDataResponse

variable (item : SunoDataResponse) (task : Task)

/-- The status of the task by the report; an empty one tells nothing. -/
def statusOf : TaskStatus := if item.status ≠ .other "" then item.status else task.status

def failed : Bool := item.failReason ≠ "" || item.statusOf task = .failure

def updated : Task :=
  { task with
    status := item.statusOf task
    failReason := if item.failReason ≠ "" then item.failReason else task.failReason
    submitTime := if item.submitTime ≠ 0 then item.submitTime else task.submitTime
    startTime := if item.startTime ≠ 0 then item.startTime else task.startTime
    finishTime := if item.finishTime ≠ 0 then item.finishTime else task.finishTime
    progress := if item.failed task || item.status = .success then "100%" else task.progress
    data := item.data }

/-- The response says that a paid task has failed. -/
def shouldRefund : Bool :=
  item.failed task && (item.updated task).refundQuota > 0 && task.status ≠ .failure

def shouldFinalizeRebate : Bool := item.status = .success && task.status ≠ .success

/-- The task comes to an end, so the write is guarded by the status that was read. -/
def guarded : Bool := (item.statusOf task).terminal && task.status ≠ item.statusOf task

end SunoDataResponse

/-- A worker with the task as it has it in memory. -/
inductive SunoWorker
  | polled (task : Task)
  | swept (task : Task)
  /-- A refund, with the rebate after it if `rebates`. -/
  | refund (task : Task) (stage : RefundStage) (rebates : Bool)
  | rebate (task : Task)
  deriving DecidableEq

/-- What follows the write of a poller: the refund, then the rebate. -/
def SunoDataResponse.billing (item : SunoDataResponse) (task : Task) : Option SunoWorker :=
  if item.shouldRefund task then
    some (.refund (item.updated task) .start (item.shouldFinalizeRebate task))
  else if item.shouldFinalizeRebate task then some (.rebate (item.updated task))
  else none

/-- A worker reads the row. -/
inductive SunoCall
  | poll
  | sweep (cutoffUnix : ℤ)

def SunoCall.start : SunoCall → TaskWorld Ledger → TaskWorld Ledger × Option SunoWorker
  | poll, w => (w, if w.row.unFinishSync then some (.polled w.row) else none)
  | sweep cutoffUnix, w =>
    (w, if w.row.timedOutUnfinished cutoffUnix then some (.swept w.row) else none)

/-- What a worker meets before it writes. -/
inductive SunoInput
  | response (item : SunoDataResponse)
  /-- The channel of the task is not found. -/
  | channelLost (channelId : ℤ)
  | timeout (minutes : String) (now : ℤ)
  /-- How the store operations of a refund end. -/
  | refund (fate : Fate)
  /-- Whether the rebate is applied, and then persisted. -/
  | rebate (applied persisted : Bool)

/-- The write of a terminal status; the worker that wins it goes on with the billing. -/
def TaskWorld.finishFrom (w : TaskWorld Ledger) (fromStatus : TaskStatus) (task : Task)
    (billing : Option SunoWorker) : TaskWorld Ledger × Option SunoWorker :=
  let (w', won) := w.updateWithStatus fromStatus task
  (w', if won then billing else none)

def Task.withoutChannel (task : Task) (channelId : ℤ) : Task :=
  { task with
    failReason := "获取渠道信息失败，请联系管理员，渠道ID：" ++ toString channelId
    status := .failure
    progress := "100%" }

/-- One write of a worker. A worker whose write fails has no other one, and an input for
    another kind of worker does nothing. -/
def SunoInput.next : SunoInput → TaskWorld Ledger → SunoWorker →
    TaskWorld Ledger × Option SunoWorker
  | response item, w, .polled task =>
    if !taskNeedsUpdate task item then (w, none)
    else if item.guarded task then
      w.finishFrom task.status (item.updated task) (item.billing task)
    else (w.update (item.updated task), item.billing task)
  | channelLost channelId, w, .polled _ => (w.update (w.row.withoutChannel channelId), none)
  | timeout minutes now, w, .swept task =>
    let task' := task.timedOut minutes now
    w.finishFrom task.status task'
      (if !task.isLegacy && task'.refundQuota > 0 then some (.refund task' .start false) else none)
  | refund fate, w, .refund task stage rebates =>
    let r := stage.program (Ledger.stores fate) task w
    (r.final w, match r.result with
      | .ok (some (task, stage)) => some (.refund task stage rebates)
      -- The rebate follows however the refund ends.
      | _ => if rebates then some (.rebate (stage.left task)) else none)
  | rebate applied persisted, w, .rebate task =>
    (w.finalizeTaskConsumeRebate task applied persisted, none)
  | _, w, worker => (w, some worker)

/-- The save of a poller that is not guarded finds a task that has not come to an end, and
    no failure is reported with it. -/
def SunoInput.Proper (w : TaskWorld Ledger) : SunoInput → SunoWorker → Prop
  | response item, .polled task => taskNeedsUpdate task item = true → item.guarded task = false →
    w.row.status.terminal = false ∧ item.failReason = ""
  | _, _ => True

abbrev SunoRun : Pool (TaskWorld Ledger) SunoWorker → Pool (TaskWorld Ledger) SunoWorker → Prop :=
  Run (fun w w' o => ∃ call : SunoCall, call.start w = (w', o))
    (fun w worker w' o => ∃ input : SunoInput, input.next w worker = (w', o))

abbrev SunoProperRun : Pool (TaskWorld Ledger) SunoWorker →
    Pool (TaskWorld Ledger) SunoWorker → Prop :=
  Run (fun w w' o => ∃ call : SunoCall, call.start w = (w', o))
    (fun w worker w' o => ∃ input : SunoInput, input.Proper w worker ∧
      input.next w worker = (w', o))

/-! ## The invariant -/

/-- A task that was charged and goes on. A Suno task is no upscale. -/
structure Submitted (w₀ : TaskWorld Ledger) : Prop where
  settled : Settled w₀
  notRefunded : w₀.row.privateData.billingRefunded = false
  running : w₀.row.status.terminal = false
  notUpscale : w₀.row.action ≠ taskActionMiniMaxH3Upscale

section

variable {w₀ w w' : TaskWorld Ledger} {task : Task} {worker u : SunoWorker} {o : Option SunoWorker}
  {item : SunoDataResponse}

/-- The task is charged as it was submitted. -/
structure Original (w₀ : TaskWorld Ledger) (task : Task) : Prop where
  quota : task.quota = w₀.row.quota
  privateData : task.privateData = w₀.row.privateData
  action : task.action = w₀.row.action

/-- Until a task has come to an end, nothing is given back. -/
structure SunoInv (w₀ w : TaskWorld Ledger) : Prop where
  action : w.row.action = w₀.row.action
  nonneg : 0 ≤ w.store.funding ∧ 0 ≤ w.store.token
  running : w.row.status.terminal = false → Original w₀ w.row ∧ w.store = w₀.store

/-- What a worker has read is a task that goes on; a refund is at its stage, after the end of the
    task, and a rebate knows of a refund in the row. -/
def SunoWorker.Holds (w₀ w : TaskWorld Ledger) : SunoWorker → Prop
  | polled task => Original w₀ task ∧ task.status.terminal = false
  | swept task => Original w₀ task ∧ task.status.terminal = false
  | refund task stage _ => w.row.status.terminal = true ∧ stage.Ready task w
  | rebate task => w.row.status.terminal = true ∧
    (w.row.privateData.billingRefunded = true → task.privateData.billingRefunded = true)

/-- The worker has won the end of the task, and writes its billing data. -/
def SunoWorker.bills : SunoWorker → Bool
  | refund .. => true
  | rebate _ => true
  | _ => false

/-- Two workers do not both bill. -/
def SunoWorker.Apart (t u : SunoWorker) : Prop := t.bills = true → u.bills = false

/-- A task that has come to an end stays there, and a refund is not forgotten. -/
structure SunoKeeps (w w' : TaskWorld Ledger) : Prop where
  terminal : w.row.status.terminal = true → w'.row.status.terminal = true
  refunded : w.row.privateData.billingRefunded = true → w'.row.privateData.billingRefunded = true

/-- What a step of a worker keeps. -/
structure SunoStep (w₀ w : TaskWorld Ledger) (worker : SunoWorker) (w' : TaskWorld Ledger)
    (o : Option SunoWorker) : Prop where
  inv : SunoInv w₀ w'
  keeps : SunoKeeps w w'
  others : ∀ u, u.Holds w₀ w → worker.Apart u → u.Holds w₀ w' ∧ ∀ t ∈ o, t.Apart u
  next : ∀ t ∈ o, t.Holds w₀ w'

lemma SunoKeeps.refl (w : TaskWorld Ledger) : SunoKeeps w w := ⟨id, id⟩

lemma SunoKeeps.trans {w'' : TaskWorld Ledger} (h : SunoKeeps w w') (h' : SunoKeeps w' w'') :
    SunoKeeps w w'' := ⟨h'.terminal ∘ h.terminal, h'.refunded ∘ h.refunded⟩

lemma SunoInv.keeps_of_running (h₀ : Submitted w₀) (h : SunoInv w₀ w)
    (hrunning : w.row.status.terminal = false) : SunoKeeps w w' where
  terminal hterminal := by simp [hrunning] at hterminal
  refunded hrefunded := by
    rw [(h.running hrunning).1.privateData, h₀.notRefunded] at hrefunded
    cases hrefunded

lemma SunoWorker.Holds.bills_eq_false (h : u.Holds w₀ w)
    (hrunning : w.row.status.terminal = false) : u.bills = false := by
  cases u with
  | refund task stage rebates => exact absurd h.1 (by simp [hrunning])
  | rebate task => exact absurd h.1 (by simp [hrunning])
  | _ => rfl

lemma SunoWorker.Holds.of_bills_eq_false (h : u.Holds w₀ w) (hu : u.bills = false) :
    u.Holds w₀ w' := by
  cases u with
  | refund task stage rebates => cases hu
  | rebate task => cases hu
  | _ => exact h

lemma SunoStep.refl (h : SunoInv w₀ w) (ho : ∀ t ∈ o, t.bills = false ∧ t.Holds w₀ w) :
    SunoStep w₀ w worker w o where
  inv := h
  keeps := .refl w
  others u hu _ := ⟨hu, fun t ht htrue => absurd (ho t ht).1 (by simp [htrue])⟩
  next t ht := (ho t ht).2

lemma SunoStep.idle (h : SunoInv w₀ w) : SunoStep w₀ w worker w none :=
  .refl h fun _ ht => nomatch ht

/-- The billing of a task that has come to an end. -/
def SunoWorker.Begins (task : Task) (t : SunoWorker) : Prop :=
  task.status.terminal = true ∧ ((∃ rebates, t = .refund task .start rebates) ∨ t = .rebate task)

/-- A write to a task that goes on, which nobody bills yet. -/
lemma SunoStep.update (h₀ : Submitted w₀) (h : SunoInv w₀ w)
    (hrunning : w.row.status.terminal = false) (htask : Original w₀ task)
    (ho : ∀ t ∈ o, t.Begins task) : SunoStep w₀ w worker (w.update task) o := by
  obtain ⟨-, hstore⟩ := h.running hrunning
  have hsettled : Settled (w.update task) := by
    have htask' := h₀.settled.congr htask.quota htask.privateData
    rwa [TaskWorld.update, hstore]
  exact
    { inv := ⟨htask.action, h.nonneg, fun _ => ⟨htask, hstore⟩⟩
      keeps := h.keeps_of_running h₀ hrunning
      others := fun u hu _ =>
        have hfree := hu.bills_eq_false hrunning
        ⟨hu.of_bills_eq_false hfree, fun _ _ _ => hfree⟩
      next := by
        intro t ht
        obtain ⟨hterminal, ⟨rebates, rfl⟩ | rfl⟩ := ho t ht
        · exact ⟨hterminal, hsettled, rfl⟩
        · exact ⟨hterminal, id⟩ }

lemma SunoStep.finishFrom (h₀ : Submitted w₀) (h : SunoInv w₀ w) {fromStatus : TaskStatus}
    (hfrom : fromStatus.terminal = false) (htask : Original w₀ task) {billing : Option SunoWorker}
    (hbilling : ∀ t ∈ billing, t.Begins task)
    (heq : w.finishFrom fromStatus task billing = (w', o)) : SunoStep w₀ w worker w' o := by
  rw [TaskWorld.finishFrom, TaskWorld.updateWithStatus] at heq
  split_ifs at heq with hstatus
  · cases heq
    exact .update h₀ h (hstatus ▸ hfrom) htask hbilling
  · cases heq
    exact .idle h

/-! ## Steps -/

lemma SunoCall.step (h₀ : Submitted w₀) (h : SunoInv w₀ w) {call : SunoCall}
    (heq : call.start w = (w', o)) : SunoStep w₀ w worker w' o := by
  have hread : w.row.status.terminal = false → Original w₀ w.row ∧ w.row.status.terminal = false :=
    fun hrunning => ⟨(h.running hrunning).1, hrunning⟩
  cases call with
  | poll =>
    cases heq
    refine .refl h fun t ht => ?_
    obtain ⟨hread', ⟨⟩⟩ := mem_ite_none_right.1 ht
    refine ⟨rfl, hread ?_⟩
    have haction := h.action ▸ h₀.notUpscale
    simp only [Task.unFinishSync, haction, decide_false, Bool.false_and, Bool.or_false,
      Bool.and_eq_true, Bool.not_eq_true'] at hread'
    exact hread'.1.2
  | sweep cutoffUnix =>
    cases heq
    refine .refl h fun t ht => ?_
    obtain ⟨hread', ⟨⟩⟩ := mem_ite_none_right.1 ht
    refine ⟨rfl, hread ?_⟩
    simp only [Task.timedOutUnfinished, Bool.and_eq_true, Bool.not_eq_true'] at hread'
    exact hread'.1.1.2

lemma Original.updated (item : SunoDataResponse) (h : Original w₀ task) :
    Original w₀ (item.updated task) :=
  { h with }

lemma SunoDataResponse.begins_billing (hterminal : (item.statusOf task).terminal = true) :
    ∀ t ∈ item.billing task, t.Begins (item.updated task) := by
  intro t ht
  rw [billing] at ht
  split_ifs at ht <;> cases ht
  · exact ⟨hterminal, .inl ⟨_, rfl⟩⟩
  · exact ⟨hterminal, .inr rfl⟩

lemma SunoInput.step_response (h₀ : Submitted w₀) (h : SunoInv w₀ w)
    (hholds : (SunoWorker.polled task).Holds w₀ w)
    (hproper : (response item).Proper w (.polled task))
    (heq : (response item).next w (.polled task) = (w', o)) : SunoStep w₀ w worker w' o := by
  obtain ⟨htask, hrunning⟩ := hholds
  rw [next] at heq
  split_ifs at heq with hneeds hguarded
  · cases heq
    exact .idle h
  · have hterminal : (item.statusOf task).terminal = true := by
      rw [SunoDataResponse.guarded, Bool.and_eq_true] at hguarded
      exact hguarded.1
    exact .finishFrom h₀ h hrunning (htask.updated item) (item.begins_billing hterminal) heq
  · obtain ⟨hrow, hreason⟩ := hproper (by simpa using hneeds) (by simpa using hguarded)
    have hgoes : (item.statusOf task).terminal = false := by
      by_contra hterminal
      have hne : task.status ≠ item.statusOf task := fun heq => by simp [heq, hterminal] at hrunning
      simp [SunoDataResponse.guarded, hterminal, hne] at hguarded
    -- only a failure is refunded and only a success has a rebate, and this task goes on
    have hbilling : item.billing task = none := by
      have hfailed : item.failed task = false := by
        have hne : item.statusOf task ≠ .failure :=
          fun hstatus => by rw [hstatus] at hgoes; cases hgoes
        simp [SunoDataResponse.failed, hreason, hne]
      have hsuccess : item.status ≠ .success := fun hstatus => by
        simp [SunoDataResponse.statusOf, hstatus, TaskStatus.terminal] at hgoes
      simp [SunoDataResponse.billing, SunoDataResponse.shouldRefund, hfailed,
        SunoDataResponse.shouldFinalizeRebate, hsuccess]
    cases heq
    refine .update h₀ h hrow (htask.updated item) fun t ht => ?_
    rw [hbilling] at ht
    cases ht

lemma SunoInput.step_channelLost (h : SunoInv w₀ w) {channelId : ℤ} :
    SunoStep w₀ w worker (w.update (w.row.withoutChannel channelId)) none where
  inv := ⟨h.action, h.nonneg, fun hrunning => nomatch hrunning⟩
  keeps := ⟨fun _ => rfl, id⟩
  others u hu _ := by
    refine ⟨?_, fun _ ht => nomatch ht⟩
    cases u with
    | refund task stage rebates => exact ⟨rfl, hu.2.congr rfl rfl⟩
    | rebate task => exact ⟨rfl, hu.2⟩
    | _ => exact hu
  next _ ht := nomatch ht

lemma SunoInput.step_refund (h : SunoInv w₀ w) {stage : RefundStage} {rebates : Bool}
    (hholds : (SunoWorker.refund task stage rebates).Holds w₀ w) {fate : Fate}
    (heq : (SunoInput.refund fate).next w (.refund task stage rebates) = (w', o)) :
    SunoStep w₀ w (.refund task stage rebates) w' o := by
  obtain ⟨hterminal, hready⟩ := hholds
  -- A rebate that follows knows of the refund, if the row does.
  have hended {w' : TaskWorld Ledger} (hended : task.privateData.billingRefunded = true ∨ w' = w)
      (hrow : w'.row.privateData.billingRefunded = true) :
      (stage.left task).privateData.billingRefunded = true := by
    rw [RefundStage.refunded_left]
    rcases hended with hrefunded | rfl
    · exact hrefunded
    · exact hready.refunded hrow
  have hstage : RefundStage.Keeps w w' ∧ ∀ t ∈ o, t.bills = true ∧
      (w'.row.status.terminal = true → t.Holds w₀ w') := by
    have hensures := @RefundStage.ensures_program fate _ _ _ hready
    rw [Program.Ensures] at hensures
    cases heq
    split at hensures
    · rename_i next hresult
      refine ⟨hensures.keeps, fun t ht => ?_⟩
      rw [hresult] at ht
      cases next with
      | none =>
        obtain ⟨-, ⟨⟩⟩ := mem_ite_none_right.1 ht
        exact ⟨rfl, fun hterminal' => ⟨hterminal', hended (hensures.ended rfl)⟩⟩
      | some n =>
        cases ht
        exact ⟨rfl, fun hterminal' => ⟨hterminal', hensures.ready n rfl⟩⟩
    · rename_i e hresult
      rw [hensures]
      refine ⟨.refl w, fun t ht => ?_⟩
      rw [hresult] at ht
      obtain ⟨-, ⟨⟩⟩ := mem_ite_none_right.1 ht
      exact ⟨rfl, fun hterminal' => ⟨hterminal', hended (.inr rfl)⟩⟩
  obtain ⟨hkeeps, hnext⟩ := hstage
  have hterminal' := hkeeps.status ▸ hterminal
  exact
    { inv := ⟨hkeeps.action.trans h.action, hkeeps.nonneg h.nonneg,
        fun hrunning => by simp [hterminal'] at hrunning⟩
      keeps := ⟨fun _ => hterminal', hkeeps.refunded⟩
      others := fun u hu hapart =>
        ⟨hu.of_bills_eq_false (hapart rfl), fun _ _ _ => hapart rfl⟩
      next := fun t ht => (hnext t ht).2 hterminal' }

/-- The rebate writes what the worker has in memory, and nobody else bills the task. -/
lemma SunoInput.step_rebate (h : SunoInv w₀ w) (hholds : (SunoWorker.rebate task).Holds w₀ w)
    (applied persisted : Bool) :
    SunoStep w₀ w (.rebate task) (w.finalizeTaskConsumeRebate task applied persisted) none := by
  rw [TaskWorld.finalizeTaskConsumeRebate]
  split_ifs
  · exact
      { inv := ⟨h.action, h.nonneg, fun hrunning => absurd hholds.1 (by
          have hrow : w.row.status.terminal = false := hrunning
          simp [hrow])⟩
        keeps := ⟨id, hholds.2⟩
        others := fun u hu hapart => ⟨hu.of_bills_eq_false (hapart rfl), fun _ ht => nomatch ht⟩
        next := fun _ ht => nomatch ht }
  · exact .idle h

lemma SunoStep.wait (h : SunoInv w₀ w) (hholds : worker.Holds w₀ w) :
    SunoStep w₀ w worker w (some worker) where
  inv := h
  keeps := .refl w
  others u hu hapart := ⟨hu, fun t ht => by cases ht; exact hapart⟩
  next t ht := by cases ht; exact hholds

lemma SunoInput.step (h₀ : Submitted w₀) (h : SunoInv w₀ w) (hholds : worker.Holds w₀ w)
    {input : SunoInput} (hproper : input.Proper w worker) (heq : input.next w worker = (w', o)) :
    SunoStep w₀ w worker w' o := by
  cases worker with
  | polled task =>
    cases input with
    | response item => exact step_response h₀ h hholds hproper heq
    | channelLost channelId =>
      cases heq
      exact step_channelLost h
    | _ =>
      cases heq
      exact .wait h hholds
  | swept task =>
    cases input with
    | timeout minutes now =>
      have htask : Original w₀ (task.timedOut minutes now) := { hholds.1 with }
      refine .finishFrom h₀ h hholds.2 htask (fun t ht => ?_) heq
      obtain ⟨-, ⟨⟩⟩ := mem_ite_none_right.1 ht
      exact ⟨rfl, .inl ⟨_, rfl⟩⟩
    | _ =>
      cases heq
      exact .wait h hholds
  | refund task stage rebates =>
    cases input with
    | refund fate => exact step_refund h hholds heq
    | _ =>
      cases heq
      exact .wait h hholds
  | rebate task =>
    cases input with
    | rebate applied persisted =>
      cases heq
      exact step_rebate h hholds applied persisted
    | _ =>
      cases heq
      exact .wait h hholds

/-! ## Runs -/

/-- The invariant of the row, with what every worker relies on. -/
def SunoPoolInv (w₀ : TaskWorld Ledger) (p : Pool (TaskWorld Ledger) SunoWorker) : Prop :=
  SunoInv w₀ p.shared ∧ (∀ worker ∈ p.threads, worker.Holds w₀ p.shared) ∧
    p.threads.Pairwise SunoWorker.Apart

lemma SunoPoolInv.run (h₀ : Submitted w₀) {p q : Pool (TaskWorld Ledger) SunoWorker}
    (hp : SunoPoolInv w₀ p) (h : SunoProperRun p q) : SunoPoolInv w₀ q ∧
      SunoKeeps p.shared q.shared := by
  have hrun := Run.invariant_pairwise (fun w => SunoInv w₀ w ∧ SunoKeeps p.shared w)
    (fun w worker => worker.Holds w₀ w) SunoWorker.Apart ?_ ?_ ?_ h ⟨⟨hp.1, .refl _⟩, hp.2⟩
  · exact ⟨⟨hrun.1.1, hrun.2⟩, hrun.1.2⟩
  · intro t u hapart hu
    by_contra ht
    rw [Bool.not_eq_false] at ht
    simp [hapart ht] at hu
  · rintro w w' o ⟨hinv, hkeeps⟩ ⟨call, heq⟩
    -- a call is no step of a worker that refunds
    have hstep : SunoStep w₀ w (.polled w.row) w' o := call.step h₀ hinv heq
    exact ⟨⟨hstep.inv, hkeeps.trans hstep.keeps⟩,
      fun u hu => hstep.others u hu (fun hfalse => nomatch hfalse), hstep.next⟩
  · rintro w w' worker o ⟨hinv, hkeeps⟩ hholds ⟨input, hproper, heq⟩
    have hstep := input.step h₀ hinv hholds hproper heq
    exact ⟨⟨hstep.inv, hkeeps.trans hstep.keeps⟩, hstep.others, hstep.next⟩

lemma Submitted.poolInv (h₀ : Submitted w₀) : SunoPoolInv w₀ ⟨w₀, []⟩ :=
  ⟨⟨rfl, h₀.settled.nonneg, fun _ => ⟨⟨rfl, rfl, rfl⟩, rfl⟩⟩, List.forall_mem_nil _, .nil⟩

end

/-- As long as every save without a guard finds a task that goes on, a terminal status and a refund
    stay, and no more is given back than was taken. -/
theorem refunded_once_of_proper {w₀ : TaskWorld Ledger} (h₀ : Submitted w₀)
    {p q : Pool (TaskWorld Ledger) SunoWorker} (hp : SunoProperRun ⟨w₀, []⟩ p)
    (hq : SunoProperRun p q) :
    (p.shared.row.status.terminal = true → q.shared.row.status.terminal = true) ∧
    (p.shared.row.privateData.billingRefunded = true →
      q.shared.row.privateData.billingRefunded = true) ∧
    0 ≤ q.shared.store.funding ∧ 0 ≤ q.shared.store.token := by
  obtain ⟨hinv, -⟩ := h₀.poolInv.run h₀ hp
  obtain ⟨⟨hinv', -⟩, hkeeps⟩ := hinv.run h₀ hq
  exact ⟨hkeeps.terminal, hkeeps.refunded, hinv'.nonneg⟩

namespace Song

/-- A song that took 4 from the reward part of a wallet and 6 from the paid one. -/
def submitted : TaskWorld Ledger where
  row :=
    { status := .inProgress, quota := 10, action := "MUSIC", submitTime := 1800000000,
      progress := "30%"
      privateData :=
        { billingSource := .wallet, tokenId := 7, walletQuotaBreakdownRecorded := true
          walletRewardUsed := 4, walletPaidUsed := 6 } }
  store := { funding := 10, token := 10 }

lemma submitted_ok : Submitted submitted where
  settled := ⟨rfl, fun _ => by decide, rfl, rfl, fun _ _ => by decide⟩
  notRefunded := rfl
  running := rfl
  notUpscale := by decide

def failed : SunoInput := .response { status := .failure, failReason := "boom" }

def goesOn : SunoInput := .response { status := .inProgress, startTime := 1800000060 }

def refund : SunoInput := .refund { wallet := some ⟨100, 5⟩, token := true }

def after (p : Pool (TaskWorld Ledger) SunoWorker) (as : List (Action SunoCall SunoInput)) :
    Pool (TaskWorld Ledger) SunoWorker :=
  (play SunoCall.start SunoInput.next p as).getD p

lemma run_after (p : Pool (TaskWorld Ledger) SunoWorker) (as : List (Action SunoCall SunoInput)) :
    SunoRun p (after p as) := run_getD_play SunoCall.start SunoInput.next p as

/-- Two pollers read the song; the first is told that it has failed, and refunds it. -/
def refunded : Pool (TaskWorld Ledger) SunoWorker :=
  after ⟨submitted, []⟩
    ([.call .poll, .call .poll, .move 0 failed] ++ List.replicate 7 (.move 0 refund))

/-- The other one was told, before, that it goes on. -/
def revived : Pool (TaskWorld Ledger) SunoWorker := after refunded [.move 0 goesOn]

def refundedAgain : Pool (TaskWorld Ledger) SunoWorker :=
  after revived ([.call .poll, .move 0 failed] ++ List.replicate 7 (.move 0 refund))

end Song

/-- Two pollers are told of the failure, and the song is refunded once. -/
theorem refunded_once_of_song : ∃ p q : Pool (TaskWorld Ledger) SunoWorker,
    SunoProperRun ⟨Song.submitted, []⟩ p ∧ p.shared.row.status.terminal = true ∧ SunoProperRun p q ∧
      q.threads = [] ∧ q.shared.store = { funding := 0, token := 0 } ∧
      q.shared.row.status.terminal = true ∧ 0 ≤ q.shared.store.funding ∧
          0 ≤ q.shared.store.token := by
  have hguarded : ∀ w task, task = Song.submitted.row → Song.failed.Proper w (.polled task) := by
    rintro w task rfl - h
    exact absurd h (by decide)
  obtain ⟨p, hp, hterminal, q, hq, hthreads, hstore⟩ : ∃ p, SunoProperRun ⟨Song.submitted, []⟩ p ∧
      p.shared.row.status.terminal = true ∧ ∃ q, SunoProperRun p q ∧
        q.threads = [] ∧ q.shared.store = { funding := 0, token := 0 } :=
    ⟨_, .head (.call [] ⟨.poll, rfl⟩) <| .head (.call _ ⟨.poll, rfl⟩) <|
      .head (.move [] [_] ⟨Song.failed, hguarded _ _ rfl, rfl⟩) .refl, rfl,
      _, .head (.move [] [_] ⟨Song.refund, trivial, rfl⟩) <|
      .head (.move [_] [] ⟨Song.failed, hguarded _ _ rfl, rfl⟩) <|
      .head (.move [] [] ⟨Song.refund, trivial, rfl⟩) <|
        .head (.move [] [] ⟨Song.refund, trivial, rfl⟩) <|
      .head (.move [] [] ⟨Song.refund, trivial, rfl⟩) <|
        .head (.move [] [] ⟨Song.refund, trivial, rfl⟩) <|
      .head (.move [] [] ⟨Song.refund, trivial, rfl⟩) <|
      .head (.move [] [] ⟨Song.refund, trivial, rfl⟩) .refl, rfl, rfl⟩
  have honce := refunded_once_of_proper Song.submitted_ok hp hq
  exact ⟨p, q, hp, hterminal, hq, hthreads, hstore, honce.1 hterminal, honce.2.2⟩

/-- A save that comes late brings the song back to life, and it is refunded again. -/
theorem refunded_twice_of_stale : SunoRun ⟨Song.submitted, []⟩ Song.refunded ∧
    SunoRun Song.refunded Song.revived ∧
      SunoRun Song.revived Song.refundedAgain ∧ (Song.refunded.shared.row.status.terminal = true ∧
      Song.refunded.shared.row.privateData.billingRefunded = true) ∧
        (Song.revived.shared.row.status.terminal = false ∧
      Song.revived.shared.row.privateData.billingRefunded = false) ∧
    Song.refundedAgain.shared.store = { funding := -10, token := -10 } := by
  exact ⟨Song.run_after _ _, Song.run_after _ _,
    Song.run_after _ _, by decide +kernel, by decide +kernel, by decide +kernel⟩

end Allrouter
