import Allrouter.Library.Interleaving

/-!
# Batched updates

Changes of counters may be recorded first, by type and id (`addNewRecord`), and
written together later (`batchUpdate`): for each type the map of the records is
taken away under its lock, and written entry by entry without one, while other
records come in. An update that fails is logged, and its entry is gone.

* `applied_eq_recorded_iff`: once nothing is pending, the counters have moved by what
  was recorded exactly where the updates that failed add up to nothing.
-/

namespace Allrouter

open Interleaving Function

/-- The counters that are updated in batches. -/
inductive BatchUpdateType
  | userQuota
  | tokenQuota
  | usedQuota
  | channelUsedQuota
  | requestCount
  | userTotalTokenUsed
  | tokenTotalTokenUsed
  deriving DecidableEq

def BatchUpdateType.all : List BatchUpdateType :=
  [.userQuota, .tokenQuota, .usedQuota, .channelUsedQuota, .requestCount, .userTotalTokenUsed,
    .tokenTotalTokenUsed]

/-- The value at an id, which the map may have or not, moved by `value`. -/
def addTo (id value : ℤ) : List (ℤ × ℤ) → List (ℤ × ℤ)
  | [] => [(id, value)]
  | entry :: store => if entry.1 = id then (id, entry.2 + value) :: store
    else entry :: addTo id value store

/-- What a store holds for an id. -/
def heldFor (id : ℤ) (store : List (ℤ × ℤ)) : ℤ :=
  (store.map fun entry => if entry.1 = id then entry.2 else 0).sum

/-- The records, and what was recorded, applied and lost so far. -/
structure BatchState where
  stores : BatchUpdateType → List (ℤ × ℤ) := fun _ => []
  (recorded applied failed : BatchUpdateType → ℤ → ℤ := 0)

/-- The totals after one more change. -/
def addAt (totals : BatchUpdateType → ℤ → ℤ) (type : BatchUpdateType) (entry : ℤ × ℤ) :
    BatchUpdateType → ℤ → ℤ :=
  fun t id => totals t id + if type = t ∧ entry.1 = id then entry.2 else 0

/-- Where a run of `batchUpdate` is: looking for data, about to take the records of a
    type, or writing those it has taken. -/
inductive Flush
  | check (types : List BatchUpdateType)
  | swap (types : List BatchUpdateType)
  | write (type : BatchUpdateType) (batch : List (ℤ × ℤ)) (types : List BatchUpdateType)

/-- Recording a change, and starting a flush. -/
inductive BatchCall : BatchState → BatchState → Option Flush → Prop
  | addNewRecord (s type id value) : BatchCall s
      { s with
        stores := update s.stores type (addTo id value (s.stores type))
        recorded := addAt s.recorded type (id, value) } none
  | batchUpdate (s) : BatchCall s s (some (.check BatchUpdateType.all))

/-- An update of the database, which goes through or has no effect. -/
def BatchState.update (s : BatchState) (ok : Bool) (type : BatchUpdateType) (entry : ℤ × ℤ) :
    BatchState :=
  if ok then { s with applied := addAt s.applied type entry }
    else { s with failed := addAt s.failed type entry }

/-- A lock is held for one step, and the entries of a map come in any order. -/
inductive FlushStep : BatchState → Flush → BatchState → Option Flush → Prop
  | noData (s) : FlushStep s (.check []) s none
  | empty {s type} (types) (h : s.stores type = []) : FlushStep s (.check (type :: types)) s
    (some (.check types))
  | hasData {s type} (types) (h : s.stores type ≠ []) :
      FlushStep s (.check (type :: types)) s (some (.swap BatchUpdateType.all))
  | swap (s type types) : FlushStep s (.swap (type :: types))
    { s with stores := update s.stores type [] }
      (some (.write type (s.stores type) types))
  | update (s ok type entry l r types) :
      FlushStep s (.write type (l ++ entry :: r) types) (s.update ok type entry)
        (some (.write type (l ++ r) types))
  | written (s type types) : FlushStep s (.write type [] types) s (some (.swap types))
  | finished (s) : FlushStep s (.swap []) s none

lemma heldFor_addTo (id id' value : ℤ) (store : List (ℤ × ℤ)) :
    heldFor id (addTo id' value store) = heldFor id store + if id' = id then value else 0 := by
  induction store with
  | nil => simp [addTo, heldFor]
  | cons entry store ih =>
    rw [addTo]
    split_ifs with hentry hid
    all_goals simp [heldFor] at ih ⊢
    all_goals grind

/-- What a run of `batchUpdate` has taken and not written yet. -/
def Flush.pending (type : BatchUpdateType) (id : ℤ) : Flush → ℤ
  | .write t batch _ => if t = type then heldFor id batch else 0
  | _ => 0

/-- What was recorded and is nowhere, which no step changes. -/
def BatchState.missing (type : BatchUpdateType) (id : ℤ) (s : BatchState) : ℤ :=
  s.applied type id + s.failed type id + heldFor id (s.stores type) - s.recorded type id

lemma BatchCall.missing {s s' : BatchState} {o : Option Flush} (h : BatchCall s s' o)
    (type : BatchUpdateType) (id : ℤ) :
    s'.missing type id + (o.toList.map (Flush.pending type id)).sum = s.missing type id := by
  cases h with
  | addNewRecord type' id' value =>
    by_cases htype : type' = type
    · subst htype
      simp [BatchState.missing, addAt, heldFor_addTo]
      omega
    · simp [BatchState.missing, addAt, htype, update_of_ne (Ne.symm htype)]
  | batchUpdate => simp [Flush.pending]

lemma FlushStep.missing {s s' : BatchState} {flush : Flush} {o : Option Flush}
    (h : FlushStep s flush s' o) (type : BatchUpdateType) (id : ℤ) :
    s'.missing type id + (o.toList.map (Flush.pending type id)).sum = s.missing type id +
      flush.pending type id := by
  cases h with
  | swap type' types =>
    by_cases htype : type' = type
    · subst htype
      simp [BatchState.missing, Flush.pending, heldFor]
      omega
    · simp [BatchState.missing, Flush.pending, htype, update_of_ne (Ne.symm htype)]
  | update ok type' entry l r types =>
    have hheld : heldFor id (l ++ entry :: r) = heldFor id (l ++ r) + if entry.1 = id then entry.2
        else 0 := by
      simp [heldFor]
      omega
    cases ok <;> by_cases htype : type' = type <;>
      simp [BatchState.missing, BatchState.update, addAt, Flush.pending, htype] <;> omega
  | noData | empty | hasData | written | finished => simp [Flush.pending, heldFor]

/-- Once nothing is held back and every batch is written, what was applied is what was recorded just
    where no write has failed. -/
theorem applied_eq_recorded_iff {p : Pool BatchState Flush} (h : Run BatchCall FlushStep ⟨{}, []⟩ p)
    (hstores : ∀ type, p.shared.stores type = [])
    (hthreads : ∀ flush ∈ p.threads, ∀ type batch types, flush = .write type batch types →
      batch = [])
    (type : BatchUpdateType) (id : ℤ) :
    p.shared.applied type id = p.shared.recorded type id ↔ p.shared.failed type id = 0 := by
  have hsum := h.conserved (BatchState.missing type id) (Flush.pending type id) (fun hc =>
    hc.missing type id)
    fun hm => hm.missing type id
  have hpending : (p.threads.map (Flush.pending type id)).sum = 0 := by
    refine List.sum_eq_zero fun x hx => ?_
    obtain ⟨flush, hflush, rfl⟩ := List.mem_map.1 hx
    cases flush with
    | write type' batch types => simp [Flush.pending, hthreads _ hflush _ _ _ rfl, heldFor]
    | check | swap => rfl
  simp [BatchState.missing, hstores] at hsum
  omega

/-- One record, and the run of `batchUpdate` that writes it. -/
lemma run_update (ok : Bool) : ∃ p : Pool BatchState Flush, Run BatchCall FlushStep ⟨{}, []⟩ p ∧
    (∀ type, p.shared.stores type = []) ∧
      p.threads = [.write .userQuota [] BatchUpdateType.all.tail] ∧
    p.shared.recorded .userQuota 1 = 5 ∧ p.shared.applied .userQuota 1 = if ok then 5 else 0 := by
  refine ⟨_, .tail (.tail (.tail (.tail (.tail .refl (.call [] (.addNewRecord _ .userQuota 1 5)))
    (.call [] (.batchUpdate _))) (.move [] [] (.hasData _ (List.cons_ne_nil _ _))))
      (.move [] [] (FlushStep.swap _ _ _)))
    (.move [] [] (FlushStep.update _ ok _ (1, 5) [] [] _)), fun type => ?_, rfl, ?_⟩
  · cases ok <;> cases type <;> rfl
  · cases ok <;> decide

/-- A run with one change of a quota, which is written. -/
theorem applied_eq_recorded_iff_updated :
    ∃ p : Pool BatchState Flush, p.shared.recorded .userQuota 1 = 5 ∧
    (p.shared.applied .userQuota 1 = p.shared.recorded .userQuota 1 ↔
      p.shared.failed .userQuota 1 = 0) := by
  obtain ⟨p, hrun, hstores, hthreads, hrecorded, -⟩ := run_update true
  exact ⟨p, hrecorded, applied_eq_recorded_iff hrun hstores (by simp [hthreads]) _ _⟩

/-- The update failed, and nothing is left of the record. -/
theorem applied_ne_recorded_failed :
    ∃ p : Pool BatchState Flush, Run BatchCall FlushStep ⟨{}, []⟩ p ∧
    (∀ type, p.shared.stores type = []) ∧
      p.threads = [.write .userQuota [] BatchUpdateType.all.tail] ∧
    p.shared.recorded .userQuota 1 = 5 ∧ p.shared.applied .userQuota 1 = 0 :=
  run_update false

end Allrouter
