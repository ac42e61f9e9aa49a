import Allrouter.Task.Video

/-!
# The queue of generations

A generation that is dispatched here waits in the table of tasks until there is room for
it upstream. A dispatcher *claims* as many of the waiting ones as there are slots free
(`claimMiniMaxH3TasksInTransaction`): it counts those that occupy a slot, reads the
oldest of the queue, and reserves each of them, provided that it still waits.

Any number of dispatchers claim at the same time. One lock is held for the length of a
claim; but everything else that writes to the table does not ask for it, and happens
between any two statements of a claim (`QueueCall`, `ClaimMove`). What a claim writes is
visible when it commits.

* `reserveTasks_rows`: what the loop of guarded updates does to the table.
* `Evolves`: what any step may do to a row, in so far as the queue depends on it: none
  waits that did not wait before. Everything that was known of a claim survives it.
* `miniMaxH3_claims_in_order`: no more than `n` slots are ever occupied, no task is claimed
  twice, and the queue is served in the order of submission.
-/

namespace Allrouter

open Interleaving Table List Step Function Allrouter.Task

/-! ## Tasks in the table -/

/-- A task with its id. -/
structure TaskRow where
  id : ℤ
  task : Task
  deriving DecidableEq

/-- A generation that counts as active: it occupies one of the slots. -/
def Task.active (task : Task) : Bool :=
  task.action = taskActionMiniMaxH3Generate &&
    (task.status = .dispatching || task.status = .submitted || task.status = .queued ||
      task.status = .inProgress)

/-- The task waits for a place. -/
def Task.waiting (task : Task) : Bool :=
  task.action = taskActionMiniMaxH3Generate && task.status = .notStart

def Task.reserve (task : Task) (now : ℤ) : Task :=
  { task with status := .dispatching, progress := "5%", startTime := now }

variable {task : Task}

lemma Task.active_iff : task.active = true ↔ task.action = taskActionMiniMaxH3Generate ∧
      (task.status = .dispatching ∨ task.status = .submitted ∨ task.status = .queued ∨
        task.status = .inProgress) := by
  simp [active, or_assoc]

lemma Task.waiting_iff :
    task.waiting = true ↔ task.action = taskActionMiniMaxH3Generate ∧ task.status = .notStart := by
  simp [waiting]

namespace TaskRow

def reserve (row : TaskRow) (now : ℤ) : TaskRow := { row with task := row.task.reserve now }

/-- The order of the queue: by the time of submission, and by key. -/
def Before (r q : TaskRow) : Prop :=
  r.task.submitTime < q.task.submitTime ∨ (r.task.submitTime = q.task.submitTime ∧ r.id ≤ q.id)

instance : DecidableRel Before := fun r q =>
  inferInstanceAs (Decidable (r.task.submitTime < q.task.submitTime ∨
    (r.task.submitTime = q.task.submitTime ∧ r.id ≤ q.id)))

instance : Std.Total Before where
  total r q := by
    simp only [Before]
    omega

instance : IsTrans TaskRow Before where
  trans r q t := by
    simp only [Before]
    omega

/-- The order depends on nothing but the key and the time of submission. -/
lemma Before.congr {r r' q q' : TaskRow} (h : r.Before q) (hr : r'.id = r.id)
    (hr' : r'.task.submitTime = r.task.submitTime) (hq : q'.id = q.id)
    (hq' : q'.task.submitTime = q.task.submitTime) : r'.Before q' := by
  rw [Before, hr, hr', hq, hq']
  exact h

end TaskRow

/-! ## The statements of a claim -/

/-- The tasks that take a place. -/
def countActive (rows : List TaskRow) : ℕ := rows.countP fun row => row.task.active

/-- The oldest tasks of the queue, as many as there are slots available. -/
def selectWaiting (rows : List TaskRow) (available : ℤ) : List TaskRow :=
  ((rows.filter fun row => row.task.waiting).insertionSort TaskRow.Before).take available.toNat

/-- The rows that the update of one task matches. -/
def matchesNotStart (id : ℤ) (row : TaskRow) : Bool := row.id = id && row.task.status = .notStart

def updateNotStart (rows : List TaskRow) (id now : ℤ) : List TaskRow :=
  rows.map fun row => if matchesNotStart id row then row.reserve now else row

/-- The loop over the tasks that were selected: each one is updated if it still waits, and is
    reserved when the update has affected its row. -/
def reserveTasks (now : ℤ) : List TaskRow → List TaskRow → List TaskRow × List TaskRow
  | rows, [] => (rows, [])
  | rows, task :: claimed =>
    let rest := reserveTasks now (updateNotStart rows task.id now) claimed
    (rest.1, if rows.countP (matchesNotStart task.id) = 1 then task.reserve now :: rest.2
      else rest.2)

section Select

variable {rows : List TaskRow} {available : ℤ} {r q : TaskRow}

lemma selectWaiting_perm (rows : List TaskRow) :
    ((rows.filter fun row => row.task.waiting).insertionSort TaskRow.Before).Perm
      (rows.filter fun row => row.task.waiting) :=
  perm_insertionSort _ _

lemma mem_of_mem_selectWaiting (h : r ∈ selectWaiting rows available) :
    r ∈ rows ∧ r.task.waiting = true :=
  mem_filter.1 ((selectWaiting_perm rows).mem_iff.1 (mem_of_mem_take h))

lemma keyed_selectWaiting (h : Keyed TaskRow.id rows) (available : ℤ) :
    Keyed TaskRow.id (selectWaiting rows available) := by
  have hfilter : Keyed TaskRow.id (rows.filter fun row => row.task.waiting) :=
    h.sublist (filter_sublist.map _)
  have hsort := (((selectWaiting_perm rows).map TaskRow.id).nodup_iff).2 hfilter
  exact hsort.sublist ((take_sublist _ _).map _)

/-- A task that waits and was not selected comes after those that were. -/
lemma before_of_not_mem_selectWaiting (hr : r ∈ selectWaiting rows available) (hq : q ∈ rows)
    (hwaiting : q.task.waiting = true) (hnot : q ∉ selectWaiting rows available) : r.Before q := by
  have hsorted := pairwise_insertionSort TaskRow.Before (rows.filter fun row => row.task.waiting)
  rw [← take_append_drop available.toNat (insertionSort _ _), pairwise_append] at hsorted
  have hmem := (selectWaiting_perm rows).mem_iff.2 (mem_filter.2 ⟨hq, hwaiting⟩)
  rw [← take_append_drop available.toNat (insertionSort _ _), mem_append] at hmem
  exact hsorted.2.2 r hr q (hmem.resolve_left hnot)

end Select

/-! ## The loop of updates -/

section Reserve

variable {rows : List TaskRow} {claimed : List TaskRow} {id now : ℤ}

lemma matchesNotStart_iff {row : TaskRow} :
    matchesNotStart id row = true ↔ row.id = id ∧ row.task.status = .notStart := by
  simp [matchesNotStart]

lemma map_id_updateNotStart (rows : List TaskRow) (id now : ℤ) :
    (updateNotStart rows id now).map TaskRow.id = rows.map TaskRow.id := by
  rw [updateNotStart, map_map]
  refine map_congr_left fun row _ => ?_
  simp only [comp_apply]
  split_ifs <;> rfl

lemma reserveTasks_rows (now : ℤ) (rows claimed : List TaskRow) :
    (reserveTasks now rows claimed).1 =
      rows.map fun row =>
        if row.id ∈ claimed.map TaskRow.id ∧ row.task.status = .notStart then row.reserve now
          else row := by
  induction claimed generalizing rows with
  | nil => simp [reserveTasks]
  | cons task claimed ih =>
    rw [reserveTasks, ih, updateNotStart, map_map]
    refine map_congr_left fun row _ => ?_
    simp only [comp_apply, map_cons, mem_cons]
    by_cases hm : matchesNotStart task.id row = true
    · -- a row that is reserved no longer waits, so that no later update matches it
      obtain ⟨hid, hstatus⟩ := matchesNotStart_iff.1 hm
      simp only [hm, if_true]
      rw [if_neg fun h => TaskStatus.noConfusion h.2, if_pos ⟨.inl hid, hstatus⟩]
    · simp only [hm]
      refine if_congr ⟨fun h => ⟨.inr h.1, h.2⟩, fun h => ⟨?_, h.2⟩⟩ rfl rfl
      exact h.1.resolve_left fun hid => hm (matchesNotStart_iff.2 ⟨hid, h.2⟩)

lemma map_id_reserveTasks (now : ℤ) (rows claimed : List TaskRow) :
    (reserveTasks now rows claimed).1.map TaskRow.id = rows.map TaskRow.id := by
  induction claimed generalizing rows with
  | nil => rfl
  | cons task claimed ih => rw [reserveTasks, ih, map_id_updateNotStart]

/-- The tasks that the loop returns are some of those that were selected, in their order. -/
lemma reserveTasks_sublist (now : ℤ) (rows claimed : List TaskRow) :
    (reserveTasks now rows claimed).2.Sublist (claimed.map fun task => task.reserve now) := by
  induction claimed generalizing rows with
  | nil => exact .slnil
  | cons task claimed ih =>
    rw [reserveTasks]
    split_ifs
    · exact (ih _).cons_cons _
    · exact (ih _).cons _

/-- A task is returned for a row that waited until the loop. -/
lemma exists_of_mem_reserveTasks {r : TaskRow} (h : r ∈ (reserveTasks now rows claimed).2) :
    ∃ row ∈ rows, row.id = r.id ∧ row.task.status = .notStart := by
  induction claimed generalizing rows with
  | nil => cases h
  | cons task claimed ih =>
    have hrest (h : r ∈ (reserveTasks now (updateNotStart rows task.id now) claimed).2) :
        ∃ row ∈ rows, row.id = r.id ∧ row.task.status = .notStart := by
      obtain ⟨row', hrow', hid, hstatus⟩ := ih h
      obtain ⟨row, hrow, rfl⟩ := mem_map.1 hrow'
      split_ifs at hid hstatus
      · cases hstatus
      · exact ⟨row, hrow, hid, hstatus⟩
    rw [reserveTasks] at h
    split_ifs at h with hcount
    · rcases mem_cons.1 h with rfl | h
      · obtain ⟨row, hrow, hmatch⟩ := countP_pos_iff.1 (hcount ▸ Nat.one_pos)
        obtain ⟨hid, hstatus⟩ := matchesNotStart_iff.1 hmatch
        exact ⟨row, hrow, hid, hstatus⟩
      · exact hrest h
    · exact hrest h

/-- One update makes at most one task active. -/
lemma countActive_updateNotStart_le (h : Keyed TaskRow.id rows) (id now : ℤ) :
    countActive (updateNotStart rows id now) ≤ countActive rows + 1 := by
  have hone : rows.countP (fun row => row.id = id) ≤ 1 := by
    have := nodup_iff_count_le_one.1 h id
    rwa [count, countP_map] at this
  have hor : countActive (updateNotStart rows id now) ≤ countActive rows + rows.countP fun row =>
      row.id = id := by
    clear h hone
    rw [countActive, countActive, updateNotStart, countP_map]
    induction rows with
    | nil => simp
    | cons row rows ih =>
      simp only [countP_cons, comp_apply]
      by_cases hm : matchesNotStart id row = true
      · have : row.id = id := (matchesNotStart_iff.1 hm).1
        simp only [this, decide_true]
        split_ifs <;> omega
      · simp only [hm, Bool.false_eq_true, if_false]
        split_ifs <;> omega
  omega

lemma countActive_reserveTasks_le (h : Keyed TaskRow.id rows) (now : ℤ) (claimed : List TaskRow) :
    countActive (reserveTasks now rows claimed).1 ≤ countActive rows + claimed.length := by
  induction claimed generalizing rows with
  | nil => exact le_rfl
  | cons task claimed ih =>
    have hupdate := countActive_updateNotStart_le h task.id now
    have hrest := @ih (updateNotStart rows task.id now) (by rwa [Keyed, map_id_updateNotStart])
    rw [reserveTasks, length_cons]
    dsimp only
    omega

end Reserve

/-! ## What else is written -/

/-- What may become of a task other than by a claim: the dispatcher of a claimed one reports,
    the pollers follow it upstream, and at any time it may come to an end. The `other` tasks
    are no generations, or none any more as they were chained on. -/
inductive Task.Advances (task : Task) : Task → Prop
  | accepted (upstreamTaskID data : String) :
      task.status = .dispatching → Advances task (task.dispatchAccepted upstreamTaskID data)
  | failed (publicReason data : String) (now : ℤ) :
      task.status = .dispatching → Advances task (task.dispatchFailed publicReason data now)
  | polled (task' : Task) :
      (task.status = .submitted ∨ task.status = .queued ∨ task.status = .inProgress) →
      (task'.status = .submitted ∨ task'.status = .queued ∨ task'.status = .inProgress) →
      task'.action = task.action → task'.submitTime = task.submitTime → Advances task task'
  | ended (task' : Task) :
      task'.status.terminal = true → task'.submitTime = task.submitTime → Advances task task'
  | other (task' : Task) :
      task'.action ≠ taskActionMiniMaxH3Generate → task'.submitTime = task.submitTime →
      (task'.status = .notStart → task.status = .notStart ∧ task.action = task'.action) →
        Advances task task'

namespace Task.Advances

variable {task task' : Task}

lemma submitTime_eq (h : task.Advances task') : task'.submitTime = task.submitTime := by
  cases h <;> first | assumption | rfl

lemma active_of_active (h : task.Advances task') (hactive : task'.active = true) :
    task.active = true := by
  obtain ⟨haction', hstatus'⟩ := active_iff.1 hactive
  rw [active_iff]
  cases h with
  | accepted _ _ hstatus => exact ⟨haction', .inl hstatus⟩
  | failed => simp [dispatchFailed] at hstatus'
  | polled _ hstatus _ haction _ => exact ⟨haction ▸ haction', .inr hstatus⟩
  | ended _ hterminal _ => rcases hstatus' with h | h | h | h <;>
    simp [h, TaskStatus.terminal] at hterminal
  | other _ haction => exact absurd haction' haction

lemma notStart_of_notStart (h : task.Advances task') (hstatus : task'.status = .notStart) :
    task.status = .notStart ∧ task.action = task'.action := by
  cases h with
  | accepted => cases hstatus
  | failed => cases hstatus
  | polled _ _ h => simp [hstatus] at h
  | ended _ hterminal => simp [hstatus, TaskStatus.terminal] at hterminal
  | other _ _ _ h => exact h hstatus

end Task.Advances

/-! ## Claims among other writers -/

/-- What a claim that has committed did: the keys that waited when it read the queue, and the
    tasks that it returned. -/
structure ClaimRecord where
  queued : List ℤ
  claimed : List TaskRow
  deriving DecidableEq

/-- The table of tasks, the lock on its queue, and the claims that were made. -/
structure TaskQueue where
  rows : List TaskRow
  locked : Bool := false
  claims : List ClaimRecord := []
  deriving DecidableEq

/-- How far a claim has come; but for the first stage, it holds the lock. -/
inductive ClaimThread
  | called
  | counted (available : ℤ)
  | selected (queued : List ℤ) (claimed : List TaskRow)
  deriving DecidableEq

def ClaimThread.holdsLock : ClaimThread → Bool
  | called => false
  | _ => true

/-- What happens to the table besides the statements of claims; the key of a new row was never
    used before. A claim of no slots returns at once. -/
inductive QueueCall (n : ℤ) (s : TaskQueue) : TaskQueue → Option ClaimThread → Prop
  | claim : QueueCall n s s (if n ≤ 0 then none else some .called)
  | insert (row : TaskRow) :
      (∀ q ∈ s.rows, q.id ≠ row.id) → row.task.active = false →
      QueueCall n s { s with rows := s.rows ++ [row] } none
  | write (row : TaskRow) (task : Task) :
      row ∈ s.rows → row.task.Advances task →
      QueueCall n s { s with rows := put TaskRow.id ⟨row.id, task⟩ s.rows } none

/-- The statements of a claim. The updates are visible with the commit, which gives the lock
    back; so does any failure. -/
inductive ClaimMove (n : ℤ) (s : TaskQueue) : ClaimThread → TaskQueue → Option ClaimThread → Prop
  | count :
      s.locked = false → 0 < n - countActive s.rows →
      ClaimMove n s .called { s with locked := true } (some (.counted (n - countActive s.rows)))
  | full : s.locked = false → n - countActive s.rows ≤ 0 → ClaimMove n s .called s none
  | select (available : ℤ) :
      ClaimMove n s (.counted available) s
        (some (.selected ((s.rows.filter fun row => row.task.waiting).map TaskRow.id)
          (selectWaiting s.rows available)))
  | commit (queued : List ℤ) (claimed : List TaskRow) (now : ℤ) :
      ClaimMove n s (.selected queued claimed)
        { rows := (reserveTasks now s.rows claimed).1
          locked := false
          claims := ⟨queued, (reserveTasks now s.rows claimed).2⟩ :: s.claims } none
  | timedOut : ClaimMove n s .called s none
  | failed (t : ClaimThread) : t.holdsLock = true → ClaimMove n s t { s with locked := false } none

/-- Any number of claims of up to `n` slots, among any other writers. -/
abbrev QueueRun (n : ℤ) : Pool TaskQueue ClaimThread → Pool TaskQueue ClaimThread → Prop :=
  Run (QueueCall n) (ClaimMove n)

/-! ## How the table evolves -/

/-- What is left of the rows of a table after a step: those that are still there as waiting were
    waiting before, and their place in the queue is the same. -/
structure Evolves (rows rows' : List TaskRow) : Prop where
  keyed : Keyed TaskRow.id rows'
  ids : ∀ i ∈ rows.map TaskRow.id, i ∈ rows'.map TaskRow.id
  row : ∀ q' ∈ rows', q'.id ∈ rows.map TaskRow.id →
    ∃ q ∈ rows, q.id = q'.id ∧ q.task.submitTime = q'.task.submitTime ∧
      (q'.task.status = .notStart → q.task.status = .notStart ∧ q.task.action = q'.task.action)

namespace Evolves

variable {rows : List TaskRow} {row : TaskRow}

lemma insert (h : Keyed TaskRow.id rows) (hnew : ∀ q ∈ rows, q.id ≠ row.id) :
    Evolves rows (rows ++ [row]) where
  keyed := h.append_singleton hnew
  ids i hi := by
    rw [map_append]
    exact mem_append_left _ hi
  row q' hq' hid := by
    rcases mem_append.1 hq' with hq' | hq'
    · exact ⟨q', hq', rfl, rfl, fun h => ⟨h, rfl⟩⟩
    · obtain ⟨q, hq, hqid⟩ := mem_map.1 hid
      exact absurd (hqid.trans (congrArg TaskRow.id (mem_singleton.1 hq'))) (hnew q hq)

lemma write (h : Keyed TaskRow.id rows) {task : Task} (hrow : row ∈ rows)
    (hadvances : row.task.Advances task) : Evolves rows (put TaskRow.id ⟨row.id, task⟩ rows) where
  keyed := h.put _
  ids i hi := by rwa [map_key_put]
  row q' hq' _ := by
    rcases mem_put hq' with rfl | ⟨hq', -⟩
    · exact ⟨row, hrow, rfl, hadvances.submitTime_eq.symm, hadvances.notStart_of_notStart⟩
    · exact ⟨q', hq', rfl, rfl, fun h => ⟨h, rfl⟩⟩

lemma reserve (h : Keyed TaskRow.id rows) (now : ℤ) (claimed : List TaskRow) :
    Evolves rows (reserveTasks now rows claimed).1 where
  keyed := by rwa [Keyed, map_id_reserveTasks]
  ids i hi := by rwa [map_id_reserveTasks]
  row q' hq' _ := by
    rw [reserveTasks_rows] at hq'
    obtain ⟨q, hq, rfl⟩ := mem_map.1 hq'
    refine ⟨q, hq, ?_⟩
    split_ifs
    · exact ⟨rfl, rfl, fun h => nomatch h⟩
    · exact ⟨rfl, rfl, fun h => ⟨h, rfl⟩⟩

/-- A task that waits waited before, at the same place. -/
lemma waiting {rows' : List TaskRow} (h : Evolves rows rows') {q' : TaskRow} (hq' : q' ∈ rows')
    (hid : q'.id ∈ rows.map TaskRow.id) (hwaiting : q'.task.waiting = true) :
    ∃ q ∈ rows, q.id = q'.id ∧ q.task.submitTime = q'.task.submitTime ∧ q.task.waiting = true := by
  obtain ⟨haction, hstatus⟩ := waiting_iff.1 hwaiting
  obtain ⟨q, hq, hqid, htime, hrest⟩ := h.row q' hq' hid
  obtain ⟨hstatus', haction'⟩ := hrest hstatus
  exact ⟨q, hq, hqid, htime, waiting_iff.2 ⟨haction'.trans haction, hstatus'⟩⟩

end Evolves

/-! ## What is known of a claim -/

/-- A claim that has committed: what it took waits no more, and what it left comes later. -/
structure ClaimRecord.Served (rows : List TaskRow) (record : ClaimRecord) : Prop where
  known : ∀ i ∈ record.queued, i ∈ rows.map TaskRow.id
  claimed_queued : ∀ r ∈ record.claimed, r.id ∈ record.queued
  sorted : record.claimed.Pairwise TaskRow.Before
  gone : ∀ q ∈ rows, q.id ∈ record.claimed.map TaskRow.id → q.task.status ≠ .notStart
  before : ∀ r ∈ record.claimed, ∀ q ∈ rows, q.task.waiting = true →
    q.id ∈ record.queued → r.Before q

/-- A claim that has read the queue: of what it read, the rest comes later. -/
structure Selection (rows : List TaskRow) (queued : List ℤ) (claimed : List TaskRow) : Prop where
  known : ∀ i ∈ queued, i ∈ rows.map TaskRow.id
  claimed_queued : ∀ r ∈ claimed, r.id ∈ queued
  keyed : Keyed TaskRow.id claimed
  sorted : claimed.Pairwise TaskRow.Before
  row : ∀ r ∈ claimed, ∀ q ∈ rows, q.id = r.id →
    q.task.submitTime = r.task.submitTime ∧
      (q.task.status = .notStart → q.task.action = taskActionMiniMaxH3Generate)
  before : ∀ r ∈ claimed, ∀ q ∈ rows, q.task.waiting = true → q.id ∈ queued →
    q.id ∉ claimed.map TaskRow.id → r.Before q

section Evolution

variable {rows rows' claimed : List TaskRow} {queued : List ℤ}

lemma ClaimRecord.Served.evolves {record : ClaimRecord} (h : record.Served rows)
    (he : Evolves rows rows') :
    record.Served rows' where
  known i hi := he.ids i (h.known i hi)
  claimed_queued := h.claimed_queued
  sorted := h.sorted
  gone q' hq' hid hstatus := by
    obtain ⟨r, hr, hrid⟩ := mem_map.1 hid
    obtain ⟨q, hq, hqid, -, hrest⟩ := he.row q' hq' (hrid ▸ h.known _ (h.claimed_queued r hr))
    exact h.gone q hq (hqid ▸ hid) (hrest hstatus).1
  before r hr q' hq' hwaiting hid := by
    obtain ⟨q, hq, hqid, htime, hwaiting'⟩ := he.waiting hq' (h.known _ hid) hwaiting
    exact (h.before r hr q hq hwaiting' (hqid ▸ hid)).congr rfl rfl hqid.symm htime.symm

lemma Selection.evolves (h : Selection rows queued claimed)
    (he : Evolves rows rows') : Selection rows' queued claimed where
  known i hi := he.ids i (h.known i hi)
  claimed_queued := h.claimed_queued
  keyed := h.keyed
  sorted := h.sorted
  row r hr q' hq' hid := by
    obtain ⟨q, hq, hqid, htime, hrest⟩ := he.row q' hq' (hid ▸ h.known _ (h.claimed_queued r hr))
    obtain ⟨htime', haction⟩ := h.row r hr q hq (hqid.trans hid)
    exact ⟨htime ▸ htime', fun hstatus => (hrest hstatus).2 ▸ haction (hrest hstatus).1⟩
  before r hr q' hq' hwaiting hid hnot := by
    obtain ⟨q, hq, hqid, htime, hwaiting'⟩ := he.waiting hq' (h.known _ hid) hwaiting
    exact (h.before r hr q hq hwaiting' (hqid ▸ hid) (hqid ▸ hnot)).congr rfl rfl
      hqid.symm htime.symm

lemma Selection.of_select (h : Keyed TaskRow.id rows) (available : ℤ) :
    Selection rows ((rows.filter fun row => row.task.waiting).map TaskRow.id)
      (selectWaiting rows available) where
  known i hi := (filter_sublist.map _).subset hi
  claimed_queued r hr := mem_map_of_mem (mem_filter.2 (mem_of_mem_selectWaiting hr))
  keyed := keyed_selectWaiting h available
  sorted := (pairwise_insertionSort TaskRow.Before _).sublist (take_sublist _ _)
  row r hr q hq hid := by
    obtain ⟨hr, hwaiting⟩ := mem_of_mem_selectWaiting hr
    obtain rfl := h.eq_of_mem hq hr hid
    exact ⟨rfl, fun _ => (waiting_iff.1 hwaiting).1⟩
  before r hr q hq hwaiting _ hnot :=
    before_of_not_mem_selectWaiting hr hq hwaiting fun hmem => hnot (mem_map_of_mem hmem)

lemma mem_claimed_of_mem_reserveTasks {now : ℤ} {r : TaskRow}
    (h : r ∈ (reserveTasks now rows claimed).2) : ∃ t ∈ claimed, t.reserve now = r :=
  mem_map.1 ((reserveTasks_sublist now rows claimed).subset h)

lemma Selection.served (h : Selection rows queued claimed)
    (hkeyed : Keyed TaskRow.id rows) (now : ℤ) :
    (ClaimRecord.mk queued (reserveTasks now rows claimed).2).Served
      (reserveTasks now rows claimed).1 := by
  have hsel := h.evolves (.reserve hkeyed now claimed)
  -- the loop has reserved all that was selected and still waited
  have hgone : ∀ q ∈ (reserveTasks now rows claimed).1, q.id ∈ claimed.map TaskRow.id →
      q.task.status ≠ .notStart := by
    intro q hq hid hstatus
    rw [reserveTasks_rows] at hq
    obtain ⟨q, -, rfl⟩ := mem_map.1 hq
    split_ifs at hid hstatus with hif
    · cases hstatus
    · exact hif ⟨hid, hstatus⟩
  have hsub := reserveTasks_sublist now rows claimed
  constructor
  · exact hsel.known
  · intro r hr
    obtain ⟨t, ht, rfl⟩ := mem_claimed_of_mem_reserveTasks hr
    exact h.claimed_queued t ht
  · exact (pairwise_map.2 (h.sorted.imp fun hb => hb.congr rfl rfl rfl rfl)).sublist hsub
  · intro q hq hid
    obtain ⟨r, hr, hrid⟩ := mem_map.1 hid
    obtain ⟨t, ht, rfl⟩ := mem_claimed_of_mem_reserveTasks hr
    exact hgone q hq (mem_map.2 ⟨t, ht, hrid⟩)
  · intro r hr q hq hwaiting hid
    obtain ⟨t, ht, rfl⟩ := mem_claimed_of_mem_reserveTasks hr
    have hnot : q.id ∉ claimed.map TaskRow.id := fun hmem =>
      hgone q hq hmem (waiting_iff.1 hwaiting).2
    exact (hsel.before t ht q hq hwaiting hid hnot).congr rfl rfl rfl rfl

end Evolution

/-! ## Every run -/

/-- What holds of the table and of the claims that were made. -/
structure QueueInv (n : ℤ) (s : TaskQueue) : Prop where
  keyed : Keyed TaskRow.id s.rows
  bound : (countActive s.rows : ℤ) ≤ n
  served : ∀ record ∈ s.claims, record.Served s.rows
  once : (s.claims.flatMap fun record => record.claimed.map TaskRow.id).Nodup
  ordered : s.claims.Pairwise fun later earlier =>
    ∀ q ∈ later.claimed, q.id ∈ earlier.queued → ∀ r ∈ earlier.claimed, r.Before q

/-- What a claim relies on: it holds the lock, and the slots that it counted are still free. -/
def ClaimThread.Holds (n : ℤ) (s : TaskQueue) : ClaimThread → Prop
  | called => True
  | counted available => s.locked = true ∧ 0 ≤ available ∧ countActive s.rows + available ≤ n
  | selected queued claimed =>
    s.locked = true ∧ countActive s.rows + claimed.length ≤ n ∧ Selection s.rows queued claimed

/-- One lock: of two claims, one has not begun. -/
def ClaimThread.Excludes (t u : ClaimThread) : Prop := t.holdsLock = false ∨ u.holdsLock = false

section Steps

variable {n : ℤ} {s s' : TaskQueue}

variable {o : Option ClaimThread} {row : TaskRow} {t : ClaimThread} {rows : List TaskRow}

lemma ClaimThread.Holds.locked (h : t.Holds n s) (ht : t.holdsLock = true) : s.locked = true := by
  cases t with
  | called => cases ht
  | counted => exact h.1
  | selected => exact h.1

lemma ClaimThread.Holds.of_holdsLock_false (ht : t.holdsLock = false) : t.Holds n s := by
  cases t with
  | called => trivial
  | counted => cases ht
  | selected => cases ht

lemma QueueInv.evolves (h : QueueInv n s) (he : Evolves s.rows s'.rows)
    (hactive : countActive s'.rows ≤ countActive s.rows) (hclaims : s'.claims = s.claims) :
      QueueInv n s' where
  keyed := he.keyed
  bound := (Int.ofNat_le.2 hactive).trans h.bound
  served record hrecord := (h.served record (hclaims ▸ hrecord)).evolves he
  once := hclaims ▸ h.once
  ordered := hclaims ▸ h.ordered

lemma ClaimThread.Holds.evolves (h : t.Holds n s) (he : Evolves s.rows s'.rows)
    (hactive : countActive s'.rows ≤ countActive s.rows) (hlocked : s'.locked = s.locked) :
      t.Holds n s' := by
  cases t with
  | called => trivial
  | counted available =>
    obtain ⟨hl, hpos, hle⟩ := h
    exact ⟨hlocked ▸ hl, hpos, by omega⟩
  | selected queued claimed =>
    obtain ⟨hl, hle, hsel⟩ := h
    exact ⟨hlocked ▸ hl, by omega, hsel.evolves he⟩

lemma countActive_write_le (hkeyed : Keyed TaskRow.id rows)
    {task : Task} (hrow : row ∈ rows) (h : row.task.Advances task) :
    countActive (put TaskRow.id ⟨row.id, task⟩ rows) ≤ countActive rows := by
  have hcount := countP_put (fun row : TaskRow => row.task.active) hkeyed hrow
    (show row.id = (TaskRow.mk row.id task).id from rfl)
  have himp := h.active_of_active
  simp only [countActive]
  split_ifs at hcount with h₁ h₂ h₂
  · omega
  · omega
  · exact absurd (himp h₂) h₁
  · omega

/-- Whatever else is written keeps what is known of the queue and of every claim. -/
lemma QueueCall.keeps (h : QueueInv n s) (hcall : QueueCall n s s' o) :
    QueueInv n s' ∧ (∀ u : ClaimThread, u.Holds n s → u.Holds n s') ∧ ∀ t ∈ o, t = .called := by
  cases hcall with
  | claim =>
    refine ⟨h, fun _ hu => hu, fun t ht => ?_⟩
    split_ifs at ht
    · cases ht
    · exact (Option.mem_some_iff.1 ht).symm
  | insert row hnew hactive =>
    have he := Evolves.insert h.keyed hnew
    have hle : countActive (s.rows ++ [row]) ≤ countActive s.rows := by simp [countActive, hactive]
    exact ⟨h.evolves he hle rfl, fun _ hu => hu.evolves he hle rfl, fun _ ht => nomatch ht⟩
  | write row task hrow hadvances =>
    have he := Evolves.write h.keyed hrow hadvances
    have hle := countActive_write_le h.keyed hrow hadvances
    exact ⟨h.evolves he hle rfl, fun _ hu => hu.evolves he hle rfl, fun _ ht => nomatch ht⟩

/-- A claim commits: it takes no more than the slots that it found free, nothing that was claimed
    before, and nothing before what an earlier claim took. -/
lemma QueueInv.commit (h : QueueInv n s) {queued : List ℤ} {claimed : List TaskRow}
    (hle : countActive s.rows + claimed.length ≤ n) (hsel : Selection s.rows queued claimed)
    (now : ℤ) : QueueInv n
      { rows := (reserveTasks now s.rows claimed).1
        locked := false
        claims := ⟨queued, (reserveTasks now s.rows claimed).2⟩ :: s.claims } := by
  have he := Evolves.reserve h.keyed now claimed
  have hcount := countActive_reserveTasks_le h.keyed now claimed
  constructor
  · exact he.keyed
  · dsimp only
    omega
  · intro record hrecord
    rcases mem_cons.1 hrecord with rfl | hrecord
    · exact hsel.served h.keyed now
    · exact (h.served record hrecord).evolves he
  · rw [flatMap_cons, nodup_append]
    refine ⟨?_, h.once, ?_⟩
    · have hsub := (reserveTasks_sublist now s.rows claimed).map TaskRow.id
      rw [map_map] at hsub
      exact hsel.keyed.sublist hsub
    · -- a task that an earlier claim took does not wait, and the update would not have matched
      rintro i hi j hj rfl
      obtain ⟨r, hr, rfl⟩ := mem_map.1 hi
      obtain ⟨record, hrecord, hj⟩ := mem_flatMap.1 hj
      obtain ⟨q, hq, hqid, hstatus⟩ := exists_of_mem_reserveTasks hr
      exact (h.served record hrecord).gone q hq (hqid ▸ hj) hstatus
  · refine pairwise_cons.2 ⟨fun earlier hearlier r' hr' hid r hr => ?_, h.ordered⟩
    -- what is claimed now was left waiting by the earlier claim
    obtain ⟨q, hq, hqid, hstatus⟩ := exists_of_mem_reserveTasks hr'
    obtain ⟨t, ht, rfl⟩ := mem_claimed_of_mem_reserveTasks hr'
    obtain ⟨htime, haction⟩ := hsel.row t ht q hq hqid
    have hwaiting := waiting_iff.2 ⟨haction hstatus, hstatus⟩
    exact ((h.served earlier hearlier).before r hr q hq hwaiting (hqid ▸ hid)).congr rfl rfl
      hqid.symm htime.symm

/-- A statement of a claim keeps what is known of the queue, and of the claims that do not hold
    the lock when it does. -/
lemma ClaimMove.keeps (h : QueueInv n s) (ht : t.Holds n s) (hmove : ClaimMove n s t s' o) :
    QueueInv n s' ∧
      (∀ u, u.Holds n s → t.Excludes u → u.Holds n s' ∧ ∀ t' ∈ o, ClaimThread.Excludes t' u) ∧
      ∀ u ∈ o, u.Holds n s' := by
  cases hmove with
  | count hlocked hpos =>
    refine ⟨{ h with }, fun u hu _ => ?_, fun u hu => ?_⟩
    · -- the lock was free, so that no other claim has begun
      have hfree : u.holdsLock = false := by
        by_contra hne
        have := hu.locked (Bool.eq_true_of_not_eq_false hne)
        rw [hlocked] at this
        cases this
      exact ⟨.of_holdsLock_false hfree, fun _ _ => .inr hfree⟩
    · cases hu
      exact ⟨rfl, hpos.le, by dsimp only; omega⟩
  | full | timedOut => exact ⟨h, fun u hu _ => ⟨hu, fun _ ht => nomatch ht⟩, fun _ ht => nomatch ht⟩
  | select available =>
    obtain ⟨hlocked, hpos, hle⟩ := ht
    refine ⟨h, fun u hu hex => ⟨hu, fun t' _ => .inr (hex.resolve_left nofun)⟩, fun u hu => ?_⟩
    cases hu
    have hlength : ((selectWaiting s.rows available).length : ℤ) ≤ available := by
      rw [selectWaiting, length_take]
      omega
    exact ⟨hlocked, by omega, .of_select h.keyed available⟩
  | commit queued claimed now =>
    obtain ⟨-, hle, hsel⟩ := ht
    refine ⟨h.commit hle hsel now, fun u hu hex => ?_, fun _ ht => nomatch ht⟩
    exact ⟨.of_holdsLock_false (hex.resolve_left nofun), fun _ ht => nomatch ht⟩
  | failed t hlock =>
    refine ⟨{ h with }, fun u hu hex => ?_, fun _ ht => nomatch ht⟩
    exact ⟨.of_holdsLock_false (hex.resolve_left (by simp [hlock])), fun _ ht => nomatch ht⟩

end Steps

lemma queueInv_of_run {n : ℤ} {p q : Pool TaskQueue ClaimThread} (h : QueueRun n p q)
    (hp : QueueInv n p.shared) (hthreads : p.threads = []) : QueueInv n q.shared := by
  refine (Run.invariant_pairwise (QueueInv n) (ClaimThread.Holds n) ClaimThread.Excludes Or.symm ?_
    (fun hI hA hm => hm.keeps hI hA) h ⟨hp, by simp [hthreads], by simp [hthreads]⟩).1
  intro s s' o hI hcall
  obtain ⟨hI', hkeep, hnew⟩ := hcall.keeps hI
  refine ⟨hI', fun u hu => ⟨hkeep u hu, fun t ht => ?_⟩, fun u hu => ?_⟩
  · rw [hnew t ht]
    exact .inl rfl
  · rw [hnew u hu]
    trivial

namespace Generations

/-- A generation that was submitted, and waits. -/
def waiting (id submitTime : ℤ) : TaskRow :=
  ⟨id, { status := .notStart, quota := 500, action := taskActionMiniMaxH3Generate, submitTime :=
    submitTime }⟩

def rows : List TaskRow := [waiting 1 20, waiting 2 10, waiting 3 10]

/-- The first of two claims has taken the two oldest tasks. -/
def claimed : TaskQueue where
  rows := [waiting 1 20, (waiting 2 10).reserve 100, (waiting 3 10).reserve 100]
  claims := [⟨[1, 2, 3], [(waiting 2 10).reserve 100, (waiting 3 10).reserve 100]⟩]

def failed : Task := ((waiting 2 10).reserve 100).task.dispatchFailed "no upstream" "" 105

def freed : TaskQueue :=
  { claimed with rows := [waiting 1 20, ⟨2, failed⟩, (waiting 3 10).reserve 100] }

def served : TaskQueue where
  rows := [(waiting 1 20).reserve 110, ⟨2, failed⟩, (waiting 3 10).reserve 100]
  claims := ⟨[1], [(waiting 1 20).reserve 110]⟩ :: claimed.claims

lemma run_claimed : QueueRun 2 ⟨{ rows := rows }, []⟩ ⟨claimed, [.called]⟩ := by
  have hcalls : QueueRun 2 ⟨{ rows := rows }, []⟩ ⟨{ rows := rows }, [.called, .called]⟩ :=
    .tail (.single (call [] QueueCall.claim)) (call [.called] QueueCall.claim)
  have hcount : Step (QueueCall 2) (ClaimMove 2) ⟨{ rows := rows }, [.called, .called]⟩
      ⟨{ rows := rows, locked := true }, [.counted 2, .called]⟩ :=
    move [] [.called] (ClaimMove.count rfl (by decide))
  have hselect : Step (QueueCall 2) (ClaimMove 2) ⟨{ rows := rows, locked := true },
    [.counted 2, .called]⟩
      ⟨{ rows := rows, locked := true }, [.selected [1, 2, 3] [waiting 2 10, waiting 3 10],
          .called]⟩ :=
    move [] [.called] (ClaimMove.select 2)
  have hcommit : Step (QueueCall 2) (ClaimMove 2)
      ⟨{ rows := rows, locked := true },
        [.selected [1, 2, 3] [waiting 2 10, waiting 3 10], .called]⟩
      ⟨claimed, [.called]⟩ :=
    move [] [.called] (ClaimMove.commit [1, 2, 3] [waiting 2 10, waiting 3 10] 100)
  exact ((hcalls.tail hcount).tail hselect).tail hcommit

/-- The second claim finds no slot; one is free again after a dispatch has failed. -/
lemma run_served : QueueRun 2 ⟨claimed, [.called]⟩ ⟨served, []⟩ := by
  have hfull : Step (QueueCall 2) (ClaimMove 2) ⟨claimed, [.called]⟩ ⟨claimed, []⟩ :=
    move [] [] (ClaimMove.full rfl (by decide))
  have hfail : Step (QueueCall 2) (ClaimMove 2) ⟨claimed, []⟩ ⟨freed, []⟩ :=
    call [] (QueueCall.write ((waiting 2 10).reserve 100) failed (by decide) (.failed _ _ _ rfl))
  have hcall : Step (QueueCall 2) (ClaimMove 2) ⟨freed, []⟩ ⟨freed, [.called]⟩ :=
    call [] QueueCall.claim
  have hcount : Step (QueueCall 2) (ClaimMove 2) ⟨freed, [.called]⟩
      ⟨{ freed with locked := true }, [.counted 1]⟩ :=
    move [] [] (ClaimMove.count rfl (by decide))
  have hselect : Step (QueueCall 2) (ClaimMove 2) ⟨{ freed with locked := true }, [.counted 1]⟩
      ⟨{ freed with locked := true }, [.selected [1] [waiting 1 20]]⟩ :=
    move [] [] (ClaimMove.select 1)
  have hcommit : Step (QueueCall 2) (ClaimMove 2)
      ⟨{ freed with locked := true }, [.selected [1] [waiting 1 20]]⟩ ⟨served, []⟩ :=
    move [] [] (ClaimMove.commit [1] [waiting 1 20] 110)
  exact (((((Relation.ReflTransGen.single hfull).tail hfail).tail hcall).tail hcount).tail
    hselect).tail hcommit

end Generations

/-- Along every run no more tasks are active than the limit, none is claimed twice, and claims take
    the oldest of the tasks that wait. -/
theorem miniMaxH3_claims_in_order {n : ℤ} {rows : List TaskRow} {p : Pool TaskQueue ClaimThread}
    (hkeyed : Keyed TaskRow.id rows) (hactive : (countActive rows : ℤ) ≤ n)
    (h : QueueRun n ⟨{ rows := rows }, []⟩ p) : (countActive p.shared.rows : ℤ) ≤ n ∧
      (p.shared.claims.flatMap fun record => record.claimed.map TaskRow.id).Nodup ∧
      (∀ record ∈ p.shared.claims, record.claimed.Pairwise TaskRow.Before ∧
        ∀ r ∈ record.claimed, ∀ q ∈ p.shared.rows, q.task.waiting = true → q.id ∈ record.queued →
          r.Before q) ∧
      p.shared.claims.Pairwise fun later earlier =>
        ∀ q ∈ later.claimed, q.id ∈ earlier.queued → ∀ r ∈ earlier.claimed, r.Before q := by
  have hinv := queueInv_of_run h ⟨hkeyed, hactive, nofun, nodup_nil, .nil⟩ rfl
  exact ⟨hinv.bound, hinv.once, fun record hrecord =>
    ⟨(hinv.served record hrecord).sorted, (hinv.served record hrecord).before⟩, hinv.ordered⟩

/-- Three generations, of which two are served at once. -/
theorem miniMaxH3_claims_in_order_generations :
    QueueRun 2 ⟨{ rows := Generations.rows }, []⟩ ⟨Generations.served, []⟩ ∧
      (countActive Generations.served.rows : ℤ) ≤ 2 ∧
      (Generations.served.claims.flatMap fun record => record.claimed.map TaskRow.id).Nodup := by
  have hrun := Generations.run_claimed.trans Generations.run_served
  have hclaims := miniMaxH3_claims_in_order (by decide) (by decide) hrun
  exact ⟨hrun, hclaims.1, hclaims.2.1⟩

end Allrouter
