import Allrouter.Library.Interleaving

/-!
# Performance metrics

A bucket has seven counters, each atomic by itself. `Record` adds a sample to one after the other. A
flush takes one after the other out; it drops them if there is no request among them, and writes
them to the database otherwise. Buckets of different keys have nothing in common, so there is one
key here.

* `counters_of_apart`: if a flush has a bucket to itself, nothing is lost or counted twice;
* `counters_of_flushed`: a flush between a request and its success loses the success.
-/

namespace Allrouter

open Interleaving List

/-- The counters of a bucket. -/
inductive Metric
  | requestCount
  | successCount
  | totalLatencyMs
  | ttftSumMs
  | ttftCount
  | outputTokens
  | generationMs
  deriving DecidableEq

abbrev Counters := Metric → ℤ

/-- What is measured of a request. -/
structure Sample where
  (latencyMs ttftMs outputTokens generationMs : ℤ := 0)
  (hasTtft success : Bool)

/-- What `add` adds, in its order. -/
def Sample.add (sample : Sample) : List (Metric × ℤ) :=
  [(.requestCount, 1)] ++ (if sample.success then [(.successCount, 1)] else []) ++
    (if sample.latencyMs > 0 then [(.totalLatencyMs, sample.latencyMs)] else []) ++
    (if sample.hasTtft ∧ sample.ttftMs ≥ 0 then [(.ttftSumMs, sample.ttftMs), (.ttftCount, 1)]
      else []) ++
    if sample.outputTokens > 0 ∧ sample.generationMs > 0 then
      [(.outputTokens, sample.outputTokens), (.generationMs, sample.generationMs)]
    else []

@[simp] def amount (steps : List (Metric × ℤ)) : Counters :=
  fun m => (steps.map fun step => if step.1 = m then step.2 else 0).sum

@[simp] lemma amount_nil : amount [] = 0 := rfl

/-- The counters of one key. -/
structure PerfMetrics where
  /-- The buckets of the key, of which the last one is in the map. -/
  buckets : ℕ → Counters := 0
  last : ℕ := 0
  /-- The row of the key. -/
  database : Counters := 0
  /-- The samples that were recorded. -/
  recorded : Counters := 0

/-- The calls on the counters. -/
inductive MetricsCall
  | record (sample : Sample)
  | flush

/-- What is left of a call. -/
inductive MetricsOp
  /-- `add`, or `addCounters` of a flush. -/
  | add (flush : Bool) (bucket : ℕ) (steps : List (Metric × ℤ))
  | drain (bucket : ℕ) (metrics : List Metric) (drained : List (Metric × ℤ))
  | deleteOldEmptyBucket

/-- What a flush meets: the database takes the row, and the bucket is a day old. -/
structure FlushInput where
  (upserted old : Bool)

namespace PerfMetrics

def set (s : PerfMetrics) (bucket : ℕ) (m : Metric) (value : ℤ) : PerfMetrics :=
  { s with buckets := Function.update s.buckets bucket (Function.update (s.buckets bucket) m value)
    }

def start (call : MetricsCall) (s : PerfMetrics) : PerfMetrics × Option MetricsOp :=
  match call with
  | .record sample => ({ s with recorded := s.recorded + amount sample.add },
    some (.add false s.last sample.add))
  | .flush =>
    (s, some (.drain s.last [.requestCount, .successCount, .totalLatencyMs, .ttftSumMs, .ttftCount,
      .outputTokens, .generationMs] []))

def next (input : FlushInput) (s : PerfMetrics) : MetricsOp → PerfMetrics × Option MetricsOp
  | .add _ _ [] => (s, none)
  | .add flush bucket ((m, n) :: steps) =>
    (s.set bucket m (s.buckets bucket m + n), some (.add flush bucket steps))
  | .drain bucket (m :: metrics) drained =>
    (s.set bucket m 0, some (.drain bucket metrics (drained ++ [(m, s.buckets bucket m)])))
  | .drain bucket [] drained =>
    if amount drained .requestCount = 0 then (s, some .deleteOldEmptyBucket)
    else if input.upserted then ({ s with database := s.database + amount drained },
      some .deleteOldEmptyBucket)
    -- `addCounters` skips the zeros, which would add nothing.
    else (s, some (.add true bucket drained))
  -- The next call for the key finds an empty bucket.
  | .deleteOldEmptyBucket => (if input.old then { s with last := s.last + 1 } else s, none)

/-- Any number of calls in any order, where any two that are under way satisfy `R`. -/
abbrev Run (R : MetricsOp → MetricsOp → Prop) : Pool PerfMetrics MetricsOp →
    Pool PerfMetrics MetricsOp → Prop :=
  ApartRun R (fun s s' o => ∃ call, start call s = (s', o)) (fun s op s' o => ∃ input,
    next input s op = (s', o))

end PerfMetrics

namespace MetricsOp

def records : MetricsOp → Bool
  | add flush _ _ => !flush
  | _ => false

/-- Both add a sample. -/
abbrev Apart (op op' : MetricsOp) : Prop := op.records ∧ op'.records

/-- What has been taken out, or is still to be added. -/
def pending : MetricsOp → Counters
  | add _ _ steps => amount steps
  | drain _ _ drained => amount drained
  | deleteOldEmptyBucket => 0

def Holds (s : PerfMetrics) : MetricsOp → Prop
  | add _ bucket _ => bucket = s.last
  | drain bucket metrics _ => bucket = s.last ∧ ∀ m ∉ metrics, s.buckets bucket m = 0
  | deleteOldEmptyBucket => s.buckets s.last = 0

variable {s s' : PerfMetrics} {op : MetricsOp}

lemma Holds.of_records (h : op.Holds s) (hrecords : op.records) (hlast : s'.last = s.last) :
    op.Holds s' := by
  cases op with
  | add flush bucket steps => exact h.trans hlast.symm
  | drain bucket metrics drained => cases hrecords
  | deleteOldEmptyBucket => cases hrecords

end MetricsOp

namespace PerfMetrics

/-- What the bucket holds when the operations are through. -/
def held (s : PerfMetrics) (ops : List MetricsOp) : Counters :=
  s.buckets s.last + (ops.map (·.pending)).sum

/-- Where there is no request, there is nothing. -/
structure Conserved (s : PerfMetrics) (ops : List MetricsOp) : Prop where
  total : s.held ops + s.database = s.recorded
  requests : 0 ≤ s.held ops .requestCount ∧ (s.held ops .requestCount = 0 → s.held ops = 0)
  fresh : ∀ bucket > s.last, s.buckets bucket = 0
  holds : ∀ op ∈ ops, op.Holds s

open MetricsOp

namespace Conserved

variable {s s' : PerfMetrics} {op op' : MetricsOp} {ops ops' : List MetricsOp}
    {o : Option MetricsOp}

lemma of_held (h : s.Conserved ops) (hheld : s'.held ops' = s.held ops)
    (hdatabase : s'.database = s.database) (hrecorded : s'.recorded = s.recorded)
    (hfresh : ∀ bucket > s'.last, s'.buckets bucket = 0) (hholds : ∀ op ∈ ops', op.Holds s') :
      s'.Conserved ops' :=
  ⟨by rw [hheld, hdatabase, hrecorded, h.total], hheld ▸ h.requests, hfresh, hholds⟩

lemma perm (h : s.Conserved ops) (hops : ops.Perm ops') : s.Conserved ops' :=
  h.of_held (by rw [held, held, (hops.map _).sum_eq]) rfl rfl h.fresh
    fun op hop => h.holds op (hops.mem_iff.2 hop)

/-- One counter is set, and the difference goes to the operation. -/
lemma set {m : Metric} {n : ℤ} (h : s.Conserved (op :: ops)) (hapart : ∀ u ∈ ops, Apart op u)
    (hpending : ∀ m', op'.pending m' = op.pending m' + if m' = m then s.buckets s.last m - n else 0)
    (hop' : op'.Holds (s.set s.last m n)) : (s.set s.last m n).Conserved (op' :: ops) := by
  refine h.of_held (funext fun m' => ?_) rfl rfl (fun bucket hbucket => ?_)
    (forall_mem_cons.2 ⟨hop', fun u hu => ?_⟩)
  · by_cases hm : m' = m <;> simp [held, PerfMetrics.set, hpending, hm]
    omega
  · exact (Function.update_of_ne (Nat.ne_of_gt hbucket) _ _).trans (h.fresh bucket hbucket)
  · exact (h.holds u (mem_cons_of_mem _ hu)).of_records (hapart u hu).2 rfl

lemma next {input : FlushInput} (h : s.Conserved (op :: ops)) (hapart : ∀ u ∈ ops, Apart op u)
    (hnext : next input s op = (s', o)) : s'.Conserved (o.toList ++ ops) := by
  obtain ⟨hop, hops⟩ := forall_mem_cons.1 h.holds
  match op with
  | .add flush bucket [] =>
    cases hnext
    exact h.of_held (by simp [held, pending]) rfl rfl h.fresh hops
  | .add flush bucket ((m, n) :: steps) =>
    cases hnext
    cases hop
    refine h.set hapart (fun m' => ?_) rfl
    by_cases hm : m' = m <;> simp [pending, hm, Ne.symm]
  | .drain bucket (m :: metrics) drained =>
    cases hnext
    obtain ⟨rfl, hzero⟩ := hop
    refine h.set hapart (fun m' => ?_) ⟨rfl, fun m' hm' => ?_⟩
    · by_cases hm : m' = m <;> simp [pending, hm, Ne.symm]
    · by_cases hm : m' = m
      · simp [PerfMetrics.set, hm]
      · simpa [PerfMetrics.set, hm] using hzero m' (by simp [hm, hm'])
  | .drain bucket [] drained =>
    obtain ⟨rfl, hzero⟩ := hop
    obtain rfl : ops = [] := eq_nil_iff_forall_not_mem.2 fun u hu =>
      Bool.false_ne_true (hapart u hu).1
    have hempty : s.buckets s.last = 0 := funext fun m => hzero m not_mem_nil
    have hheld : s.held [.drain s.last [] drained] = amount drained := by simp [held,
      pending, hempty]
    rw [PerfMetrics.next] at hnext
    split_ifs at hnext with hnone <;> cases hnext
    · have hdrained := h.requests.2 (hheld ▸ hnone)
      exact h.of_held (by rw [hdrained]; simp [held, pending, hempty]) rfl rfl h.fresh
        (forall_mem_singleton.2 hempty)
    · have hheld' : held { s with database := s.database + amount drained }
        [.deleteOldEmptyBucket] = 0 := by
        simp [held, pending, hempty]
      change Conserved _ [.deleteOldEmptyBucket]
      refine ⟨?_, by simp [hheld'], h.fresh, forall_mem_singleton.2 hempty⟩
      rw [hheld', zero_add, ← h.total, hheld, add_comm]
    · exact h.of_held (by simp [held, pending]) rfl rfl h.fresh (forall_mem_singleton.2 rfl)
  | .deleteOldEmptyBucket =>
    obtain rfl : ops = [] := eq_nil_iff_forall_not_mem.2 fun u hu =>
      Bool.false_ne_true (hapart u hu).1
    have hempty : s.buckets s.last = 0 := hop
    have hfresh := h.fresh (s.last + 1) s.last.lt_succ_self
    rw [PerfMetrics.next] at hnext
    split_ifs at hnext <;> cases hnext
    · exact h.of_held (by simp [held, pending, hempty, hfresh]) rfl rfl
        (fun bucket hbucket => h.fresh bucket (Nat.lt_of_succ_lt hbucket)) (by simp)
    · exact h.of_held (by simp [held, pending]) rfl rfl h.fresh (by simp)

lemma start {call : MetricsCall} (h : s.Conserved ops) (hstart : start call s = (s', o)) :
    s'.Conserved (o.toList ++ ops) := by
  cases call with
  | record sample =>
    cases hstart
    have hrequest : amount sample.add .requestCount = 1 := by
      unfold Sample.add
      split_ifs <;> simp
    have hheld : held { s with recorded := s.recorded + amount sample.add }
      (.add false s.last sample.add :: ops) =
        amount sample.add + s.held ops := by simp [held, pending, add_left_comm]
    change Conserved _ (.add false s.last sample.add :: ops)
    refine ⟨?_, ?_, h.fresh, forall_mem_cons.2 ⟨rfl, h.holds⟩⟩
    · rw [hheld, add_assoc, h.total, add_comm]
    · have := h.requests.1
      rw [hheld, Pi.add_apply, hrequest]
      exact ⟨by omega, fun hzero => by omega⟩
  | flush =>
    cases hstart
    refine h.of_held (by simp [held, pending]) rfl rfl h.fresh
      (forall_mem_cons.2 ⟨⟨rfl, ?_⟩, h.holds⟩)
    intro m hm
    cases m <;> simp at hm

end Conserved

/-- If no bucket is replaced while it is flushed, what is in the database and in the bucket is what
    was recorded. -/
theorem counters_of_apart {s : PerfMetrics} (h : Run Apart ⟨{}, []⟩ ⟨s, []⟩) :
    s.database + s.buckets s.last = s.recorded := by
  have hconserved : ∀ p, Run Apart ⟨{}, []⟩ p → p.shared.Conserved p.threads ∧
      p.threads.Pairwise Apart := by
    intro p h
    induction h with
    | refl => exact ⟨⟨rfl, ⟨Int.le_refl 0, fun _ => rfl⟩, fun _ _ => rfl, by simp⟩, .nil⟩
    | tail _ hstep ih =>
      refine ⟨?_, hstep.2⟩
      cases hstep.1 with
      | call ts hcall =>
        obtain ⟨call, hstart⟩ := hcall
        exact ih.1.start hstart
      | @move _ _ _ o l r hmove =>
        obtain ⟨input, hnext⟩ := hmove
        have hapart := (perm_middle.pairwise_iff And.symm).1 ih.2
        have := ((ih.1.perm perm_middle).next (pairwise_cons.1 hapart).1 hnext).perm
          (perm_append_comm_assoc o.toList l r)
        rwa [← append_assoc] at this
  simpa [held, add_comm] using (hconserved _ h).1.total

/-- A sample is recorded, and written to the database. -/
theorem counters_of_apart_one : ∃ s, Run Apart ⟨{}, []⟩ ⟨s, []⟩ ∧ s.database .successCount = 1 ∧
    s.database + s.buckets s.last = s.recorded := by
  have hplay : playApart Apart start next ⟨{}, []⟩
    ([.call (.record { success := true, hasTtft := false })] ++
    replicate 3 (.move 0 ⟨true, false⟩) ++ [.call .flush] ++ replicate 9 (.move 0 ⟨true, false⟩)) =
      some ⟨_, []⟩ := rfl
  exact ⟨_, apartRun_of_play hplay, rfl, counters_of_apart (apartRun_of_play hplay)⟩

/-- The first flush finds the request only, the second one the success only. -/
theorem counters_of_flushed : ∃ s, Run (fun _ _ => True) ⟨{}, []⟩ ⟨s, []⟩ ∧
    s.recorded .successCount = 1 ∧
    s.database .successCount + s.buckets s.last .successCount = 0 := by
  have hplay : playApart (fun _ _ => True) start next ⟨{}, []⟩
    ([.call (.record { success := true, hasTtft := false }), .move 0 ⟨true, false⟩, .call .flush] ++
      replicate 11 (.move 0 ⟨true, false⟩) ++ [.call .flush] ++
    replicate 9 (.move 0 ⟨true, false⟩)) = some ⟨_, []⟩ := rfl
  exact ⟨_, apartRun_of_play hplay, rfl, rfl⟩

end PerfMetrics

end Allrouter
