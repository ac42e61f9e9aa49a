import Allrouter.Task.Video

/-!
# The media of a video task

The frames and videos that a task was submitted with are deleted when it comes to an end, by the
worker that has brought it there. But a dispatch that fails deletes them before its guarded write,
and a poller whose write is lost deletes them all the same.

* `deleted_of_current`: if every worker meets the status that it has read, media are deleted only of
  tasks that have come to an end, or do so by the write of the worker;
* `deleted_of_submitted`: a stale dispatch is given up while its submission succeeds.
-/

namespace Allrouter

open Interleaving

/-- Media were deleted when the row had the status `stored`, by a worker that has written a terminal
    status, has failed to, or has had nothing to write. -/
structure Deletion where
  stored : TaskStatus
  won : Option Bool
  deriving DecidableEq

/-- The task has come to an end or does so by the write of the worker, which has not lost it. -/
def Deletion.Safe (d : Deletion) : Prop := (d.stored.terminal = true ∨ d.won = some true) ∧
    d.won ≠ some false

abbrev MediaWorld : Type := TaskWorld (List Deletion)

/-- A call that has read the row. -/
inductive MediaWorker
  /-- Has read a task that is dispatched, to submit it or because it is stale. -/
  | dispatched (task : Task) (submits : Bool)
  /-- Has deleted the media, and is to write the failure. -/
  | failing (task : Task) (stored : TaskStatus)
  | polled (task : Task)
  /-- Has written the terminal status `status`, or failed to, and is to delete the media. -/
  | deleting (status : TaskStatus) (won : Option Bool)
  deriving DecidableEq

/-- The calls that may delete media. -/
inductive MediaCall
  | submitMiniMaxH3Task
  | cleanupStaleMiniMaxH3Dispatches (cutoff : ℤ)
  | updateVideoSingleTask
  /-- Whatever else is written to the row. -/
  | other (row : Task)

variable (w : MediaWorld)

def MediaCall.start : MediaCall → MediaWorld × Option MediaWorker
  | submitMiniMaxH3Task =>
    (w, if w.row.action = taskActionMiniMaxH3Generate &&
      w.row.status = .dispatching then some (.dispatched w.row true)
      else none)
  | cleanupStaleMiniMaxH3Dispatches cutoff =>
    (w, if w.row.action = taskActionMiniMaxH3Generate && w.row.status = .dispatching &&
      w.row.startTime > 0 &&
        w.row.startTime < cutoff then some (.dispatched w.row false) else none)
  | updateVideoSingleTask =>
    (w, if w.row.unFinishSync && w.row.shouldPoll then some (.polled w.row) else none)
  | other row => (w.update row, none)

/-- What a worker meets. -/
inductive MediaInput
  | fail (publicReason data : String) (now : ℤ)
  | accept (upstreamTaskID data : String)
  | report (report : VideoReport)
  /-- The step that is left. -/
  | finish

/-- The write of a poller, and the deletion that it goes on with. -/
def VideoWrite.writeMedia (read : Task) : VideoWrite → MediaWorld × Option MediaWorker
  | nothing => (w, none)
  | upscaling task =>
    (if task.sameSnapshot read then w else (w.updateWithStatus read.status task).1, none)
  | update task _ _ =>
    let r := w.updateWithStatus read.status task
    let isDone := task.status.terminal
    let r := if isDone && read.status ≠ task.status || !task.sameSnapshot read then (r.1, some r.2)
      else (w, none)
    (r.1, if isDone && isMiniMaxH3Model task.originModelName then some (.deleting task.status r.2)
      else none)

def MediaInput.next : MediaInput → MediaWorld → MediaWorker →
    MediaWorld × Option MediaWorker
  | fail publicReason data now, w, .dispatched task _ =>
    (w, some (.failing (task.dispatchFailed publicReason data now) w.row.status))
  | accept upstreamTaskID data, w, .dispatched task true =>
    ((w.updateWithStatus .dispatching (task.dispatchAccepted upstreamTaskID data)).1, none)
  | report r, w, .polled task => (r.write task).writeMedia w task
  | finish, w, .failing task stored =>
    let r := w.updateWithStatus .dispatching task
    ({ r.1 with store := ⟨stored, some r.2⟩ :: r.1.store }, none)
  | finish, w, .deleting _ won => ({ w with store := ⟨w.row.status, won⟩ :: w.store }, none)
  | _, w, worker => (w, some worker)

/-- The row has the status that the worker has read, when it writes or, if there was nothing to
    write, deletes. -/
def MediaWorker.Current : MediaWorker → Prop
  | dispatched .. => True
  | failing .. => w.row.status = .dispatching
  | polled task => w.row.status = task.status
  | deleting status won => won = none → w.row.status = status

instance (worker : MediaWorker) : Decidable (worker.Current w) := by
  cases worker <;> unfold MediaWorker.Current <;> infer_instance

/-- Any number of workers in any order, where each step satisfies `P`. -/
abbrev MediaRun (P : MediaWorld → MediaWorker → Prop) :
    Pool (MediaWorld) MediaWorker → Pool (MediaWorld) MediaWorker → Prop :=
  Run (fun w w' o => ∃ call : MediaCall, call.start w = (w', o))
    (fun w worker w' o => P w worker ∧ ∃ input : MediaInput, input.next w worker = (w', o))

/-- A worker that goes on to delete has written a terminal status, or has found one. -/
def MediaWorker.Holds : MediaWorker → Prop
  | deleting status won => status.terminal = true ∧ won ≠ some false
  | _ => True

variable {w} {w' : MediaWorld} {worker : MediaWorker} {o : Option MediaWorker}

lemma MediaCall.start_spec {call : MediaCall} (h : call.start w = (w', o)) :
    w'.store = w.store ∧ ∀ t ∈ o, t.Holds := by
  cases call with
  | other => cases h; exact ⟨rfl, by simp⟩
  | _ =>
    cases h
    refine ⟨rfl, fun t ht => ?_⟩
    obtain ⟨-, ⟨⟩⟩ := Option.mem_ite_none_right.1 ht
    trivial

lemma VideoWrite.writeMedia_spec {write : VideoWrite} {task : Task}
    (hcurrent : w.row.status = task.status) (h : write.writeMedia w task = (w', o)) :
      w'.store = w.store ∧ ∀ t ∈ o, t.Holds := by
  have hupdate (task' : Task) : w.updateWithStatus task.status task' = (w.update task', true) :=
    if_pos hcurrent
  cases write with
  | nothing => cases h; exact ⟨rfl, by simp⟩
  | upscaling task' =>
    rw [writeMedia, hupdate] at h
    cases h
    refine ⟨?_, by simp⟩
    split <;> rfl
  | update task' _ _ =>
    rw [writeMedia, hupdate] at h
    cases h
    refine ⟨?_, fun t ht => ?_⟩
    · split <;> rfl
    · obtain ⟨hdone, ⟨⟩⟩ := Option.mem_ite_none_right.1 ht
      refine ⟨(Bool.and_eq_true _ _ ▸ hdone).1, ?_⟩
      split <;> simp

lemma MediaInput.next_spec {input : MediaInput} (hcurrent : worker.Current w)
    (hholds : worker.Holds) (h : input.next w worker = (w', o)) :
      (∀ d ∈ w'.store, d ∈ w.store ∨ d.Safe) ∧ ∀ t ∈ o, t.Holds := by
  have hsame (heq : w'.store = w.store) : ∀ d ∈ w'.store, d ∈ w.store ∨ d.Safe := fun d hd =>
    .inl (heq ▸ hd)
  have hcons {d₀ : Deletion} (hd₀ : d₀.Safe) (heq : w'.store = d₀ :: w.store) :
      ∀ d ∈ w'.store, d ∈ w.store ∨ d.Safe := by
    intro d hd
    rcases List.mem_cons.1 (heq ▸ hd) with rfl | hd
    · exact .inr hd₀
    · exact .inl hd
  unfold next at h
  split at h
  · cases h
    exact ⟨hsame rfl, by simp [MediaWorker.Holds]⟩
  · cases h
    refine ⟨hsame ?_, by simp⟩
    unfold TaskWorld.updateWithStatus
    split <;> rfl
  · exact (VideoWrite.writeMedia_spec hcurrent h).imp_left hsame
  · rw [TaskWorld.updateWithStatus, if_pos (show w.row.status = _ from hcurrent)] at h
    cases h
    exact ⟨hcons ⟨.inr rfl, by simp⟩ rfl, by simp⟩
  · rename_i won
    cases h
    refine ⟨hcons ⟨?_, hholds.2⟩ rfl, by simp⟩
    rcases won with - | - | -
    · exact .inl (hcurrent rfl ▸ hholds.1)
    · exact absurd rfl hholds.2
    · exact .inr rfl
  · cases h
    exact ⟨hsame rfl, by simpa using hholds⟩

/-- As long as the row has the status that a worker has read, media are deleted only for a task that
    has come to an end, or does so by the write of the worker. -/
theorem deleted_of_current {row : Task} {p : Pool (MediaWorld) MediaWorker}
    (h : MediaRun (fun w worker => worker.Current w) ⟨⟨row, []⟩, []⟩ p) :
      ∀ d ∈ p.shared.store, d.Safe := by
  refine (h.invariant (fun w => ∀ d ∈ w.store, d.Safe) (fun _ worker => worker.Holds) ?_ ?_
    ⟨by simp, by simp⟩).1
  · rintro w w' o hsafe ⟨call, hcall⟩
    obtain ⟨hstore, ho⟩ := MediaCall.start_spec hcall
    exact ⟨hstore ▸ hsafe, fun _ hu => hu, ho⟩
  · rintro w w' worker o hsafe hholds ⟨hcurrent, input, hnext⟩
    obtain ⟨hstore, ho⟩ := MediaInput.next_spec hcurrent hholds hnext
    exact ⟨fun d hd => (hstore d hd).elim (hsafe d) id, fun _ hu => hu, ho⟩

namespace Reel

def row : Task where
  status := .dispatching
  quota := 0
  action := taskActionMiniMaxH3Generate
  startTime := 1
  originModelName := "MiniMax-H3"

lemma run_after (P : MediaWorld → MediaWorker → Prop) [∀ w worker, Decidable (P w worker)]
    (as : List (Action MediaCall MediaInput)) {q : Pool MediaWorld MediaWorker}
    (h : playIf (fun _ => P) (fun call w => call.start w) MediaInput.next ⟨⟨row, []⟩, []⟩ as =
      some q) :
    MediaRun P ⟨⟨row, []⟩, []⟩ q := run_of_playIf (fun i _ => ⟨i, rfl⟩) (fun k _ _ hP =>
      ⟨hP, k, rfl⟩) h

end Reel

/-- A dispatch that is found stale. -/
theorem deleted_of_current_stale :
    ∃ p, MediaRun (fun w worker => worker.Current w) ⟨⟨Reel.row, []⟩, []⟩ p ∧
      p.shared.store = [⟨.dispatching, some true⟩] ∧ ∀ d ∈ p.shared.store, d.Safe := by
  have hrun := Reel.run_after (fun w worker => worker.Current w)
    [.call (.cleanupStaleMiniMaxH3Dispatches 2), .move 0 (.fail "" "" 2), .move 0 .finish] rfl
  exact ⟨_, hrun, rfl, deleted_of_current hrun⟩

/-- A worker that has lost the row to the dispatcher deletes the media all the same. -/
theorem deleted_of_submitted :
    ∃ p, MediaRun (fun _ _ => True) ⟨⟨Reel.row, []⟩, []⟩ p ∧
      p.shared.row.status = .submitted ∧ p.shared.store = [⟨.submitted, some false⟩] :=
  ⟨_, Reel.run_after _ [.call .submitMiniMaxH3Task, .call (.cleanupStaleMiniMaxH3Dispatches 2),
    .move 1 (.accept "u" ""), .move 0 (.fail "" "" 2), .move 0 .finish] rfl, rfl, rfl⟩

end Allrouter
