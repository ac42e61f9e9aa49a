import Allrouter.Task.Transition

/-!
# Video tasks

Pollers, timeout sweeps and the dispatcher work on copies of the row of a video task, and
every write of theirs is guarded by the status they have read. So one of them at most
brings the task to an end, and settles or refunds it
(`single_winner_of_plain`).

This is about tasks that no upscale is chained to. While the upscale of a video runs, its
row has the status `SUCCESS` already, so that older instances leave it alone; a failed
upscale then takes the place of that success (`overwritten_of_upscale`).
-/

namespace Allrouter

open Interleaving Text Option

/-! ## What a poll leads to -/

/-- What the channel says of a task. -/
structure TaskInfo where
  stage : String := ""
  status : TaskStatus := .other ""
  (url progress reason : String := "")

def failTaskInfo (reason : String) : TaskInfo where
  status := .failure
  reason := reason

def miniMaxH3UpscaleStage : String := "minimax_h3_upscale"

def isMiniMaxH3Model (modelName : String) : Bool :=
  modelName = "MiniMax-H3" || modelName = "MiniMax-H3-Ref2va"

/-- What a response without a status is. -/
inductive ErrorBody
  | unparsable
  /-- An error with the code 429. -/
  | rateLimited
  | failed (reason : String)

/-- What the handling of the media of a result leaves in the private data. -/
structure TaskMedia where
  resultURL : String
  autoDLResultUploadFailures : ℤ
  (miniMaxH3UpscaleStatus miniMaxH3UpscaleURL : String)
  miniMaxH3PersistFailures : ℤ

variable (task : Task)

def Task.media : TaskMedia where
  resultURL := task.privateData.resultURL
  autoDLResultUploadFailures := task.privateData.autoDLResultUploadFailures
  miniMaxH3UpscaleStatus := task.privateData.miniMaxH3UpscaleStatus
  miniMaxH3UpscaleURL := task.privateData.miniMaxH3UpscaleURL
  miniMaxH3PersistFailures := task.privateData.miniMaxH3PersistFailures

def Task.withMedia (media : TaskMedia) : Task :=
  { task with privateData := { task.privateData with
      resultURL := media.resultURL
      autoDLResultUploadFailures := media.autoDLResultUploadFailures
      miniMaxH3UpscaleStatus := media.miniMaxH3UpscaleStatus
      miniMaxH3UpscaleURL := media.miniMaxH3UpscaleURL
      miniMaxH3PersistFailures := media.miniMaxH3PersistFailures } }

/-- There is nothing to write. -/
def Task.sameSnapshot (other : Task) : Bool :=
  let data := task.privateData
  let data' := other.privateData
  task.action = other.action && task.status = other.status && task.progress = other.progress &&
    task.startTime = other.startTime && task.finishTime = other.finishTime &&
    task.failReason = other.failReason && data.resultURL = data'.resultURL &&
    data.autoDLResultUploadFailures = data'.autoDLResultUploadFailures &&
    data.miniMaxH3UpscaleTaskID = data'.miniMaxH3UpscaleTaskID &&
    data.miniMaxH3UpscaleStatus = data'.miniMaxH3UpscaleStatus &&
    data.miniMaxH3UpscaleURL = data'.miniMaxH3UpscaleURL &&
    data.miniMaxH3PersistFailures = data'.miniMaxH3PersistFailures && task.data = other.data

/-- The progress of an upscale has the last tenth of the public one. -/
def minimaxH3UpscalePublicProgress (raw : String) : String :=
  match toInt? (trimLast '%' (trimSpace raw)) with
  | none => "90%"
  | some value =>
    if value < 0 ∨ value > maxInt64 then "90%"
    else if value ≥ 100 then "99%"
    else toString (90 + value / 10) ++ "%"

/-- What a poller hears of a task, after its media were handled. -/
structure VideoReport where
  result : TaskInfo
  media : TaskMedia
  /-- The data to be stored, unless those of the submission are kept. -/
  data : Option String := none
  errorBody : ErrorBody := .unparsable
  /-- Where the video is found through the gateway. -/
  proxyURL : String := ""
  now : ℤ := 0

/-- What a poller does about a report. -/
inductive VideoWrite
  | nothing
  /-- Stores the progress of an upscale. -/
  | upscaling (task : Task)
  | update (task : Task) (shouldSettle shouldRefund : Bool)

namespace VideoReport

variable (report : VideoReport)

def upscaleStatus : String :=
  match report.result.status with
  | .success => "completed"
  | .failure => "failed"
  | .queued => "queued"
  | _ => "running"

/-- The task with the media of the report, and with the status of the upscale. -/
def processed : Task :=
  let task := task.withMedia report.media
  if report.result.stage = miniMaxH3UpscaleStage then
    { task with privateData := { task.privateData with miniMaxH3UpscaleStatus :=
      report.upscaleStatus } }
  else task

/-- The result that counts: an error takes the place of an empty status, unless the
    task is to be polled again. -/
def outcome : Option TaskInfo :=
  if report.result.status = .other "" then
    match report.errorBody with
    | .unparsable => some report.result
    | .rateLimited => none
    | .failed reason => some (failTaskInfo reason)
  else some report.result

/-- The row that a result asks for. -/
def writeResult (result : TaskInfo) : VideoWrite :=
  let progressOr (progress : String) := if result.progress ≠ "" then result.progress else progress
  match result.status with
  | .submitted =>
    .update { task with status := .submitted, progress := progressOr "10%" } false false
  | .queued => .update { task with status := .queued, progress := progressOr "20%" } false false
  | .inProgress =>
    .update
      { task with
        status := .inProgress
        progress := progressOr "30%"
        startTime := if task.startTime = 0 then report.now else task.startTime }
      false false
  | .success =>
    .update
      { task with
        status := .success
        progress := progressOr "100%"
        finishTime := if task.finishTime = 0 then report.now else task.finishTime
        privateData := { task.privateData with
          -- a video that is part of the response is served by the gateway
          resultURL := if result.url.toList.take 5 = "data:".toList ||
            result.url = "" then report.proxyURL
            else result.url } }
      true false
  | .failure =>
    .update
      { task with
        status := .failure
        progress := "100%"
        finishTime := if task.finishTime = 0 then report.now else task.finishTime
        failReason := result.reason }
      false (task.refundQuota > 0)
  | _ => .nothing

/-- What a poller writes that has `task` in memory. -/
def write : VideoWrite :=
  let result := report.result
  let task := report.processed task
  if result.stage = miniMaxH3UpscaleStage && result.status ≠ .success &&
    result.status ≠ .failure then
    .upscaling
      { task with
        status := .success
        action := taskActionMiniMaxH3Upscale
        progress := if result.progress ≠ "" then minimaxH3UpscalePublicProgress result.progress
          else "90%" }
  else
    let task := { task with data := report.data.getD task.data }
    match report.outcome with
    | none => .nothing
    | some result =>
      report.writeResult
        (if result.stage = miniMaxH3UpscaleStage ∧ result.status = .success then
          { task with privateData := { task.privateData with resultURL := result.url } }
        else task)
        result

end VideoReport

/-! ## Workers -/

/-- What has happened to a task: the terminal statuses that were won, and for each settlement
    or refund whether its worker has won one. -/
structure VideoHistory where
  wins : List TaskStatus := []
  billings : List Bool := []
  deriving DecidableEq

/-- A worker with the task as it has it in memory. -/
inductive VideoWorker
  | polled (task : Task)
  /-- A poller that has submitted an upscale of the task it has read. -/
  | upscaled (read task : Task)
  | swept (task : Task)
  | dispatched (task : Task)
  | billing (task : Task) (won : Bool)
  deriving DecidableEq

/-- The task waits here for its dispatch. -/
def Task.isLocalMiniMaxH3 : Bool :=
  isMiniMaxH3Model task.originModelName && trimSpace task.privateData.upstreamTaskID = "" &&
    (task.status = .notStart || task.status = .dispatching)

/-- The upstream service knows the task. -/
def Task.shouldPoll : Bool :=
  !isMiniMaxH3Model task.originModelName || trimSpace task.privateData.upstreamTaskID ≠ ""

/-- The calls that start a worker. -/
inductive VideoCall
  | poll
  | sweep (cutoffUnix : ℤ)
  | dispatch

def VideoCall.start {σ : Type} : VideoCall → TaskWorld σ → TaskWorld σ × Option VideoWorker
  | poll, w => (w, if w.row.unFinishSync && w.row.shouldPoll then some (.polled w.row) else none)
  | sweep cutoffUnix, w =>
    (w, if w.row.timedOutUnfinished cutoffUnix && !w.row.isLocalMiniMaxH3 then some (.swept w.row)
      else none)
  | dispatch, w =>
    (w, if w.row.action = taskActionMiniMaxH3Generate && w.row.status = .dispatching then
        some (.dispatched w.row)
      else none)

namespace TaskWorld

variable (w : TaskWorld VideoHistory)

/-- A guarded write; a terminal status that was not there before is a win. -/
def win (fromStatus : TaskStatus) (task : Task) : TaskWorld VideoHistory × Bool :=
  let r := w.updateWithStatus fromStatus task
  if r.2 && task.status.terminal && fromStatus ≠ task.status then
    ({ r.1 with store := { r.1.store with wins := task.status :: r.1.store.wins } }, r.2)
  else r

/-- A worker starts the settlement or the refund of a task. -/
def bill (won : Bool) : TaskWorld VideoHistory × Option VideoWorker :=
  ({ w with store := { w.store with billings := won :: w.store.billings } },
    some (.billing task won))

/-- The write of a terminal status, after which the winner bills the task, if it is to. -/
def finish (fromStatus : TaskStatus) (task : Task) (bills : Bool) :
    TaskWorld VideoHistory × Option VideoWorker :=
  let r := w.win fromStatus task
  if r.2 && bills then r.1.bill task true else (r.1, none)

/-- The upscale of a task, with the status that older instances leave alone. A task that has
    failed in between is not upscaled. -/
def persistMiniMaxH3UpscaleSubmission : TaskWorld VideoHistory × Bool :=
  match w.row.status with
  | .notStart | .dispatching | .submitted | .queued | .inProgress | .success =>
    w.win w.row.status
      { w.row with
        action := taskActionMiniMaxH3Upscale
        status := .success
        progress := "90%"
        finishTime := 0
        privateData := task.privateData }
  | _ => (w, false)

end TaskWorld

/-- What a worker meets before it writes. -/
inductive VideoInput
  | report (report : VideoReport)
  /-- The video is there, and its upscale was submitted. -/
  | submitUpscale (upscaleTaskID resultURL : String)
  /-- How a poller goes on that has submitted an upscale. -/
  | resume (data : Option String) (now : ℤ)
  | timeout (minutes : String) (now : ℤ)
  | dispatchFailed (publicReason data : String) (now : ℤ)
  | dispatchAccepted (upstreamTaskID data : String)
  /-- The billing of a task writes its quota and private data. -/
  | persist (quota : ℤ) (privateData : TaskPrivateData)
  /-- The billing of a task saves the row as its worker has it. -/
  | save (quota : ℤ) (privateData : TaskPrivateData)

/-- What a poller does that has read one task, and has come to another in memory. -/
def VideoWrite.perform (read : Task) (w : TaskWorld VideoHistory) :
    VideoWrite → TaskWorld VideoHistory × Option VideoWorker
  | nothing => (w, none)
  | upscaling task => (if task.sameSnapshot read then w else (w.win read.status task).1, none)
  | update task shouldSettle shouldRefund =>
    let bills := shouldSettle || shouldRefund
    if task.status.terminal && read.status ≠ task.status then w.finish read.status task bills
    else
      -- whether this write is lost does not matter for the billing
      let w' := if task.sameSnapshot read then w else (w.win read.status task).1
      if bills then w'.bill task false else (w', none)

/-- The task as the dispatcher writes it, when it could not be submitted. -/
def Task.dispatchFailed (publicReason data : String) (now : ℤ) : Task :=
  { task with
    status := .failure
    progress := "100%"
    finishTime := now
    failReason := publicReason
    data := data }

/-- The task as the dispatcher writes it, when it was submitted. -/
def Task.dispatchAccepted (upstreamTaskID data : String) : Task :=
  { task with
    status := .submitted
    progress := "10%"
    privateData := { task.privateData with upstreamTaskID := upstreamTaskID }
    data := data }

/-- One write of a worker. A worker whose write fails has no other one, and an input for
    another kind of worker does nothing. -/
def VideoInput.next : VideoInput → TaskWorld VideoHistory → VideoWorker →
    TaskWorld VideoHistory × Option VideoWorker
  | report r, w, .polled task => (r.write task).perform task w
  | submitUpscale upscaleTaskID resultURL, w, .polled task =>
    let task' : Task :=
      { task with
        action := taskActionMiniMaxH3Upscale
        privateData := { task.privateData with
          resultURL := resultURL
          miniMaxH3UpscaleTaskID := upscaleTaskID
          miniMaxH3UpscaleStatus := "queued" } }
    let r := w.persistMiniMaxH3UpscaleSubmission task'
    (r.1, if r.2 then some (.upscaled task task') else none)
  | resume data now, w, .upscaled read task =>
    let r : VideoReport :=
      { result := { status := .inProgress, progress := "90%" }, media := task.media, data := data,
        now := now }
    (r.write task).perform read w
  | timeout minutes now, w, .swept task =>
    let task' := task.timedOut minutes now
    w.finish task.status task' (!task.isLegacy && task'.refundQuota > 0)
  | dispatchFailed publicReason data now, w, .dispatched task =>
    let task' := task.dispatchFailed publicReason data now
    w.finish .dispatching task' (task'.refundQuota > 0)
  | dispatchAccepted upstreamTaskID data, w, .dispatched task =>
    ((w.win .dispatching (task.dispatchAccepted upstreamTaskID data)).1, none)
  | persist quota privateData, w, .billing task won =>
    let task' : Task := { task with quota := quota, privateData := privateData }
    (w.persist task', some (.billing task' won))
  | save quota privateData, w, .billing task won =>
    let task' : Task := { task with quota := quota, privateData := privateData }
    (w.update task', some (.billing task' won))
  | _, w, worker => (w, some worker)

/-- No upscale has to do with it. -/
def VideoInput.Plain : VideoInput → Prop
  | report r => r.result.stage ≠ miniMaxH3UpscaleStage
  | submitUpscale .. => False
  | _ => True

/-- Any number of workers, in any order. -/
abbrev VideoRun : Pool (TaskWorld VideoHistory) VideoWorker →
    Pool (TaskWorld VideoHistory) VideoWorker → Prop :=
  Run (fun w w' o => ∃ call : VideoCall, call.start w = (w', o))
    (fun w worker w' o => ∃ input : VideoInput, input.next w worker = (w', o))

abbrev VideoPlainRun :
    Pool (TaskWorld VideoHistory) VideoWorker → Pool (TaskWorld VideoHistory) VideoWorker → Prop :=
  Run (fun w w' o => ∃ call : VideoCall, call.start w = (w', o))
    (fun w worker w' o => ∃ input : VideoInput, input.Plain ∧ input.next w worker = (w', o))

/-! ## The invariant -/

section

variable {w w' : TaskWorld VideoHistory} {task : Task} {worker : VideoWorker}
  {o : Option VideoWorker} {report : VideoReport}

/-- Until a task has come to an end nobody has won, and then one worker has, who bills it. -/
structure VideoInv (w : TaskWorld VideoHistory) : Prop where
  action : w.row.action ≠ taskActionMiniMaxH3Upscale
  running : w.row.status.terminal = false → w.store.wins = []
  wins : w.store.wins.length ≤ 1
  billed : ∀ won ∈ w.store.billings, won = true
  billings : w.store.billings.length ≤ w.store.wins.length

/-- What a worker relies on: it has read a task that goes on, or it has brought the task to
    the end it has come to. -/
def VideoWorker.Holds (w : TaskWorld VideoHistory) : VideoWorker → Prop
  | polled task => task.action ≠ taskActionMiniMaxH3Upscale ∧ task.status.terminal = false
  | upscaled .. => False
  | swept task => task.action ≠ taskActionMiniMaxH3Upscale ∧ task.status.terminal = false
  | dispatched task => task.action ≠ taskActionMiniMaxH3Upscale
  | billing task _ => task.action ≠ taskActionMiniMaxH3Upscale ∧ w.row.status.terminal = true ∧
    task.status = w.row.status

/-- A terminal status is not overwritten. -/
def VideoKeeps (w w' : TaskWorld VideoHistory) : Prop :=
  w.row.status.terminal = true → w'.row.status = w.row.status

/-- What a step of a worker keeps. -/
structure VideoStep (w w' : TaskWorld VideoHistory) (o : Option VideoWorker) : Prop where
  inv : VideoInv w'
  keeps : VideoKeeps w w'
  next : ∀ t ∈ o, t.Holds w'

/-- What a worker relies on stays, as long as a terminal status does. -/
lemma VideoWorker.Holds.keeps (h : worker.Holds w) (hkeeps : VideoKeeps w w') :
    worker.Holds w' := by
  cases worker with
  | billing task won =>
    obtain ⟨haction, hterminal, hstatus⟩ := h
    have hsame := hkeeps hterminal
    exact ⟨haction, hsame ▸ hterminal, hstatus.trans hsame.symm⟩
  | _ => exact h

lemma VideoStep.idle (h : VideoInv w) : VideoStep w w none :=
  ⟨h, fun _ => rfl, fun _ ht => nomatch ht⟩

lemma VideoInv.win (h : VideoInv w) {fromStatus : TaskStatus} (hfrom : fromStatus.terminal = false)
    (haction : task.action ≠ taskActionMiniMaxH3Upscale) :
    VideoInv (w.win fromStatus task).1 ∧ VideoKeeps w (w.win fromStatus task).1 ∧
      ((w.win fromStatus task).2 = true → (w.win fromStatus task).1.row = task ∧
        (task.status.terminal = true →
          (w.win fromStatus task).1.store = { wins := [task.status] })) := by
  by_cases hstatus : w.row.status = fromStatus
  · have hrunning := hstatus ▸ hfrom
    have hwins := h.running hrunning
    have hbillings := List.length_eq_zero_iff.1 (Nat.le_zero.1 (by simpa [hwins] using h.billings))
    have hkeeps : ∀ w', VideoKeeps w w' := fun w' hterminal => by simp [hrunning] at hterminal
    cases hterminal : task.status.terminal with
    | true =>
      have hne : fromStatus ≠ task.status := fun heq => by simp [heq, hterminal] at hfrom
      have hwin : w.win fromStatus task = (⟨task, { wins := [task.status] }⟩, true) := by
        simp [TaskWorld.win, TaskWorld.updateWithStatus, TaskWorld.update, hstatus, hterminal, hne,
          hwins, hbillings]
      rw [hwin]
      exact ⟨⟨haction, fun hrunning' => by simp [hterminal] at hrunning', by simp, by simp,
        by simp⟩, hkeeps _, fun _ => ⟨rfl, fun _ => rfl⟩⟩
    | false =>
      have hwin : w.win fromStatus task = (w.update task, true) := by
        simp [TaskWorld.win, TaskWorld.updateWithStatus, hstatus, hterminal]
      rw [hwin]
      exact ⟨{ h with action := haction, running := fun _ => hwins }, hkeeps _, fun _ =>
        ⟨rfl, fun hfalse => nomatch hfalse⟩⟩
  · have hwin : w.win fromStatus task = (w, false) := by
      simp [TaskWorld.win, TaskWorld.updateWithStatus, hstatus]
    rw [hwin]
    exact ⟨h, fun _ => rfl, fun hfalse => nomatch hfalse⟩

lemma VideoStep.finish (h : VideoInv w) {fromStatus : TaskStatus}
    (hfrom : fromStatus.terminal = false) (haction : task.action ≠ taskActionMiniMaxH3Upscale)
    (hterminal : task.status.terminal = true) {bills : Bool}
    (heq : w.finish fromStatus task bills = (w', o)) : VideoStep w w' o := by
  obtain ⟨hinv, hkeeps, hwon⟩ := h.win hfrom haction
  rw [TaskWorld.finish] at heq
  split_ifs at heq with hbills
  · rw [Bool.and_eq_true] at hbills
    obtain ⟨hrow, hstore⟩ := hwon hbills.1
    cases heq
    refine ⟨{ hinv with billed := ?_, billings := ?_ }, hkeeps, fun t ht => ?_⟩
    · simp [hstore hterminal]
    · simp [hstore hterminal]
    · cases ht
      exact ⟨haction, (congrArg (·.status.terminal) hrow).trans hterminal,
        (congrArg Task.status hrow).symm⟩
  · cases heq
    exact ⟨hinv, hkeeps, fun _ ht => nomatch ht⟩

/-! ## Steps -/

lemma VideoCall.step (h : VideoInv w) {call : VideoCall} (heq : call.start w = (w', o)) :
    VideoStep w w' o := by
  cases call with
  | poll =>
    cases heq
    refine ⟨h, fun _ => rfl, fun t ht => ?_⟩
    obtain ⟨hread, ⟨⟩⟩ := mem_ite_none_right.1 ht
    have haction := h.action
    simp only [Task.unFinishSync, haction, decide_false, Bool.false_and, Bool.or_false,
      Bool.and_eq_true, Bool.not_eq_true'] at hread
    exact ⟨haction, hread.1.1.2⟩
  | sweep cutoffUnix =>
    cases heq
    refine ⟨h, fun _ => rfl, fun t ht => ?_⟩
    obtain ⟨hread, ⟨⟩⟩ := mem_ite_none_right.1 ht
    simp only [Task.timedOutUnfinished, Bool.and_eq_true, Bool.not_eq_true'] at hread
    exact ⟨h.action, hread.1.1.1.2⟩
  | dispatch =>
    cases heq
    refine ⟨h, fun _ => rfl, fun t ht => ?_⟩
    obtain ⟨hread, ⟨⟩⟩ := mem_ite_none_right.1 ht
    exact h.action

lemma VideoReport.writeResult_update {result : TaskInfo} {task' : Task}
    {shouldSettle shouldRefund : Bool}
    (heq : report.writeResult task result = .update task' shouldSettle shouldRefund) :
    task'.action = task.action ∧ ((shouldSettle || shouldRefund) = true →
      task'.status.terminal = true) := by
  simp only [writeResult] at heq
  split at heq <;> cases heq
  all_goals exact ⟨rfl, by simp [TaskStatus.terminal]⟩

/-- Without an upscale a poller keeps the action it has read, and bills a task that has
    come to an end. -/
lemma VideoReport.write_cases (hplain : report.result.stage ≠ miniMaxH3UpscaleStage)
    (task : Task) : report.write task = .nothing ∨ ∃ task' shouldSettle shouldRefund,
      report.write task = .update task' shouldSettle shouldRefund ∧ task'.action = task.action ∧
        ((shouldSettle || shouldRefund) = true → task'.status.terminal = true) := by
  generalize hwrite : report.write task = write
  simp only [VideoReport.write, hplain, decide_false, Bool.false_and, Bool.false_eq_true,
    if_false] at hwrite
  split at hwrite
  · exact .inl hwrite.symm
  · cases write with
    | nothing => exact .inl rfl
    | upscaling task' =>
      simp only [writeResult] at hwrite
      split at hwrite <;> cases hwrite
    | update task' shouldSettle shouldRefund =>
      obtain ⟨haction, hbills⟩ := writeResult_update hwrite
      refine .inr ⟨task', shouldSettle, shouldRefund, rfl, haction.trans ?_, hbills⟩
      simp only [processed]
      split_ifs <;> rfl

lemma VideoInput.step_report (h : VideoInv w) (hholds : (VideoWorker.polled task).Holds w)
    {r : VideoReport} (hplain : r.result.stage ≠ miniMaxH3UpscaleStage)
    (heq : (r.write task).perform task w = (w', o)) :
    VideoStep w w' o := by
  obtain ⟨haction, hrunning⟩ := hholds
  rcases r.write_cases hplain task with hwrite | ⟨task', shouldSettle, shouldRefund, hwrite,
    haction', hbills⟩
  · rw [hwrite] at heq
    cases heq
    exact .idle h
  rw [hwrite] at heq
  rw [← haction'] at haction
  simp only [VideoWrite.perform] at heq
  cases hterminal : task'.status.terminal with
  | true =>
    have hne : task.status ≠ task'.status := fun hsame => by simp [hsame, hterminal] at hrunning
    rw [if_pos (by simp [hterminal, hne])] at heq
    exact .finish h hrunning haction hterminal heq
  | false =>
    -- nothing to bill
    have hnone : ¬(shouldSettle || shouldRefund) = true :=
      fun hbills' => by simp [hbills hbills'] at hterminal
    rw [if_neg (by simp [hterminal]), if_neg hnone] at heq
    cases heq
    split_ifs
    · exact .idle h
    · obtain ⟨hinv, hkeeps, -⟩ := h.win hrunning haction
      exact ⟨hinv, hkeeps, fun _ ht => nomatch ht⟩

lemma VideoStep.wait (h : VideoInv w) (hholds : worker.Holds w) : VideoStep w w (some worker) :=
  ⟨h, fun _ => rfl, fun t ht => by cases ht; exact hholds⟩

lemma VideoInput.step (h : VideoInv w) (hholds : worker.Holds w) {input : VideoInput}
    (hplain : input.Plain) (heq : input.next w worker = (w', o)) : VideoStep w w' o := by
  cases worker with
  | polled task =>
    cases input with
    | report r => exact step_report h hholds hplain heq
    | submitUpscale upscaleTaskID resultURL => exact hplain.elim
    | _ =>
      cases heq
      exact .wait h hholds
  | upscaled read task => exact hholds.elim
  | swept task =>
    cases input with
    | timeout minutes now =>
      exact @VideoStep.finish _ _ (task.timedOut minutes now) _ h _ hholds.2 hholds.1 rfl _ heq
    | _ =>
      cases heq
      exact .wait h hholds
  | dispatched task =>
    cases input with
    | dispatchFailed publicReason data now =>
      exact @VideoStep.finish _ _ (task.dispatchFailed publicReason data now) _ h .dispatching rfl
        hholds rfl _ heq
    | dispatchAccepted upstreamTaskID data =>
      cases heq
      obtain ⟨hinv, hkeeps, -⟩ :=
        @VideoInv.win _ (task.dispatchAccepted upstreamTaskID data) h .dispatching rfl hholds
      exact ⟨hinv, hkeeps, fun _ ht => nomatch ht⟩
    | _ =>
      cases heq
      exact .wait h hholds
  | billing task won =>
    obtain ⟨haction, hterminal, hstatus⟩ := hholds
    cases input with
    | persist quota privateData =>
      cases heq
      exact ⟨{ h with }, fun _ => rfl, fun t ht => by cases ht; exact ⟨haction, hterminal, hstatus⟩⟩
    | save quota privateData =>
      cases heq
      -- the winner writes the status that is there
      have hterminal' := hstatus ▸ hterminal
      refine ⟨{ h with action := haction, running := fun hrunning => ?_ }, fun _ => hstatus,
        fun t ht => ?_⟩
      · exact absurd hrunning (by simp [TaskWorld.update, hterminal'])
      · cases ht
        exact ⟨haction, hterminal', rfl⟩
    | _ =>
      cases heq
      exact .wait h ⟨haction, hterminal, hstatus⟩

/-! ## Runs -/

/-- The invariant of the row, with what every worker relies on. -/
def VideoPoolInv (p : Pool (TaskWorld VideoHistory) VideoWorker) : Prop :=
  VideoInv p.shared ∧ ∀ worker ∈ p.threads, worker.Holds p.shared

lemma VideoKeeps.trans {w'' : TaskWorld VideoHistory} (h : VideoKeeps w w')
    (h' : VideoKeeps w' w'') : VideoKeeps w w'' := fun hterminal =>
  (h' (h hterminal ▸ hterminal)).trans (h hterminal)

lemma VideoPoolInv.run {p q : Pool (TaskWorld VideoHistory) VideoWorker} (hp : VideoPoolInv p)
    (h : VideoPlainRun p q) : VideoPoolInv q ∧ VideoKeeps p.shared q.shared := by
  have hrun := Run.invariant (fun w => VideoInv w ∧ VideoKeeps p.shared w) (fun w worker =>
    worker.Holds w)
    ?_ ?_ h ⟨⟨hp.1, fun _ => rfl⟩, hp.2⟩
  · exact ⟨⟨hrun.1.1, hrun.2⟩, hrun.1.2⟩
  · rintro w w' o ⟨hinv, hkeeps⟩ ⟨call, heq⟩
    have hstep := call.step hinv heq
    exact ⟨⟨hstep.inv, hkeeps.trans hstep.keeps⟩, fun _ hu => hu.keeps hstep.keeps, hstep.next⟩
  · rintro w w' worker o ⟨hinv, hkeeps⟩ hholds ⟨input, hplain, heq⟩
    have hstep := input.step hinv hholds hplain heq
    exact ⟨⟨hstep.inv, hkeeps.trans hstep.keeps⟩, fun _ hu => hu.keeps hstep.keeps, hstep.next⟩

end

/-- A video that is not scaled up has one winner at most, who alone bills it, and its outcome stays.
    -/
theorem single_winner_of_plain {row : Task} (haction : row.action ≠ taskActionMiniMaxH3Upscale)
    {p q : Pool (TaskWorld VideoHistory) VideoWorker} (hp : VideoPlainRun ⟨⟨row, {}⟩, []⟩ p)
    (hq : VideoPlainRun p q) : q.shared.store.wins.length ≤ 1 ∧
    (∀ won ∈ q.shared.store.billings, won = true) ∧ q.shared.store.billings.length ≤
      q.shared.store.wins.length ∧
    (p.shared.row.status.terminal = true → q.shared.row.status = p.shared.row.status) := by
  have hinit : VideoPoolInv ⟨⟨row, {}⟩, []⟩ :=
    ⟨⟨haction, fun _ => rfl, by simp, by simp, by simp⟩, List.forall_mem_nil _⟩
  obtain ⟨hinv, -⟩ := hinit.run hp
  obtain ⟨⟨hinv', -⟩, hkeeps⟩ := hinv.run hq
  exact ⟨hinv'.wins, hinv'.billed, hinv'.billings, hkeeps⟩

namespace Clip

def row : Task where
  status := .inProgress
  quota := 10
  action := taskActionMiniMaxH3Generate
  submitTime := 1800000000
  progress := "30%"
  originModelName := "MiniMax-H3"
  privateData := { upstreamTaskID := "up" }

def start : Pool (TaskWorld VideoHistory) VideoWorker := ⟨⟨row, {}⟩, []⟩

def reported (result : TaskInfo) : VideoInput := .report { result := result, media := row.media }

def after (p : Pool (TaskWorld VideoHistory) VideoWorker)
    (as : List (Action VideoCall VideoInput)) :
    Pool (TaskWorld VideoHistory) VideoWorker :=
  (play VideoCall.start VideoInput.next p as).getD p

lemma run_after (p : Pool (TaskWorld VideoHistory) VideoWorker)
    (as : List (Action VideoCall VideoInput)) : VideoRun p (after p as) :=
  run_getD_play VideoCall.start VideoInput.next p as

/-- A poller finds the video, and submits its upscale. -/
def upscaling : Pool (TaskWorld VideoHistory) VideoWorker :=
  after start [.call .poll, .move 0 (.submitUpscale "up2" "https://video"),
    .move 0 (.resume none 0)]

def failed : Pool (TaskWorld VideoHistory) VideoWorker :=
  after upscaling [.call .poll,
    .move 0 (reported { stage := miniMaxH3UpscaleStage, status := .failure })]

end Clip

/-- Two pollers of a video, one of which is told that it is there, the other that it has
    failed. -/
theorem single_winner_of_clip : ∃ p q : Pool (TaskWorld VideoHistory) VideoWorker,
    VideoPlainRun Clip.start p ∧ p.shared.row.status = .success ∧ VideoPlainRun p q ∧
      q.shared.row.status = .success ∧ q.shared.store = { wins := [.success], billings := [true] } ∧
      q.shared.store.wins.length ≤ 1 ∧ q.shared.store.billings.length ≤
          q.shared.store.wins.length := by
  have hplain : ∀ result : TaskInfo, result.stage ≠ miniMaxH3UpscaleStage →
      (Clip.reported result).Plain :=
    fun _ h => h
  obtain ⟨p, hp, hsuccess, q, hq, hstore⟩ : ∃ p, VideoPlainRun Clip.start p ∧
    p.shared.row.status = .success ∧
      ∃ q, VideoPlainRun p q ∧ q.shared.store = { wins := [.success], billings := [true] } :=
    ⟨_, .head (.call [] ⟨.poll, rfl⟩) <| .head (.call _ ⟨.poll, rfl⟩) <|
      .head (.move [] [_] ⟨Clip.reported { status := .success }, hplain _ (by decide), rfl⟩) .refl,
        rfl,
      _, .head (.move [_] [] ⟨Clip.reported { status := .failure }, hplain _ (by decide), rfl⟩) <|
      .head (.move [] [] ⟨.save 8 {}, trivial, rfl⟩) .refl, rfl⟩
  have hwinner := @single_winner_of_plain Clip.row (by decide) _ _ hp hq
  exact ⟨p, q, hp, hsuccess, hq, (hwinner.2.2.2 (by rw [hsuccess]; rfl)).trans hsuccess,
    hstore, hwinner.1, hwinner.2.2.1⟩

/-- A video that is there, and whose upscale then fails. -/
theorem overwritten_of_upscale : VideoRun Clip.start Clip.upscaling ∧
    VideoRun Clip.upscaling Clip.failed ∧
    Clip.upscaling.shared.row.status = .success ∧ Clip.failed.shared.row.status = .failure ∧
    Clip.failed.shared.store.wins = [.failure, .success] := by
  exact ⟨Clip.run_after _ _,
    Clip.run_after _ _, by decide +kernel, by decide +kernel, by decide +kernel⟩

end Allrouter
