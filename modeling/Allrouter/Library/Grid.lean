import Allrouter.Library.Civil

/-!
# Grids of buckets

A *grid* cuts the time line into consecutive buckets: the `k`-th one goes from
`bound k` up to, not including, `bound (k + 1)`, and every instant `t` lies in
the bucket `index t`. Two instants of one bucket have the same bucket
(`index_eq_of_mem`), which is what makes a quota per bucket well defined.

* `Grid.every`: buckets of a fixed length, from an anchor on;
* `Grid.months`, `Grid.years`: the months and the years of universal time;
* `Grid.coarsen`: `c` consecutive buckets taken as one;
* `Grid.shift`: the buckets of a clock with a fixed offset.
-/

/-- Consecutive buckets covering the time line. -/
structure Grid where
  /-- The first instant of each bucket. -/
  bound : ℤ → ℤ
  /-- The bucket an instant lies in. -/
  index : ℤ → ℤ
  bound_lt_succ : ∀ k, bound k < bound (k + 1)
  bound_index_le : ∀ t, bound (index t) ≤ t
  lt_bound_index_succ : ∀ t, t < bound (index t + 1)

namespace Grid

variable (g : Grid) {t u k : ℤ}

lemma bound_strictMono : StrictMono g.bound :=
  strictMono_int_of_lt_succ g.bound_lt_succ

/-- The bucket of an instant is the only one it lies in. -/
lemma index_eq_iff : g.index t = k ↔ g.bound k ≤ t ∧ t < g.bound (k + 1) := by
  refine ⟨fun h => h ▸ ⟨g.bound_index_le t, g.lt_bound_index_succ t⟩, fun ⟨h₁, h₂⟩ => ?_⟩
  have h₃ := g.bound_strictMono.lt_iff_lt.1 (h₁.trans_lt (g.lt_bound_index_succ t))
  have h₄ := g.bound_strictMono.lt_iff_lt.1 ((g.bound_index_le t).trans_lt h₂)
  omega

/-- The first instant of the bucket of `t`. -/
def start (t : ℤ) : ℤ := g.bound (g.index t)

/-- The first instant after the bucket of `t`. -/
def stop (t : ℤ) : ℤ := g.bound (g.index t + 1)

lemma start_le : g.start t ≤ t := g.bound_index_le t

lemma lt_stop : t < g.stop t := g.lt_bound_index_succ t

section

variable (h₁ : g.start t ≤ u) (h₂ : u < g.stop t)
include h₁ h₂

lemma index_eq_of_mem : g.index u = g.index t :=
  g.index_eq_iff.2 ⟨h₁, h₂⟩

lemma start_eq_of_mem : g.start u = g.start t := by
  rw [start, start, g.index_eq_of_mem h₁ h₂]

lemma stop_eq_of_mem : g.stop u = g.stop t := by
  rw [stop, stop, g.index_eq_of_mem h₁ h₂]

end

lemma start_mono (h : t ≤ u) : g.start t ≤ g.start u := by
  refine g.bound_strictMono.monotone (Int.lt_add_one_iff.1 ?_)
  exact g.bound_strictMono.lt_iff_lt.1 (g.start_le.trans_lt (h.trans_lt g.lt_stop))

lemma start_stop : g.start (g.stop t) = g.stop t :=
  congrArg g.bound (g.index_eq_iff.2 ⟨le_rfl, g.bound_lt_succ _⟩)

/-- The grid of a clock that is `s` seconds ahead. -/
def shift (s : ℤ) : Grid where
  bound k := g.bound k - s
  index t := g.index (t + s)
  bound_lt_succ k := by linarith [g.bound_lt_succ k]
  bound_index_le t := by linarith [g.bound_index_le (t + s)]
  lt_bound_index_succ t := by linarith [g.lt_bound_index_succ (t + s)]

/-- Buckets of `p` seconds, one of which starts at `a`. -/
def every (p a : ℤ) (hp : 0 < p) : Grid where
  bound k := a + k * p
  index t := (t - a) / p
  bound_lt_succ k := by linarith
  bound_index_le t := by linarith [Int.ediv_mul_le (t - a) hp.ne']
  lt_bound_index_succ t := by linarith [Int.lt_ediv_add_one_mul_self (t - a) hp]

lemma start_every_anchor (p a : ℤ) (hp : 0 < p) : (every p a hp).start a = a := by
  simp [start, every]

lemma stop_every (p a : ℤ) (hp : 0 < p) : (every p a hp).stop t = (every p a hp).start t + p := by
  simp only [stop, start, every]
  ring

open Civil

private lemma day_bounds (t : ℤ) : dayOf t * 86400 ≤ t ∧ t < (dayOf t + 1) * 86400 := by
  unfold dayOf
  omega

/-- The months of universal time, numbered from January of year 0. -/
def months : Grid where
  bound m := monthStart m * 86400
  index t := monthOf (dayOf t)
  bound_lt_succ m := by linarith [monthStart_strictMono (lt_add_one m)]
  bound_index_le t := by
    have h := (monthOf_eq_iff.1 (rfl : monthOf (dayOf t) = _)).1
    linarith [(day_bounds t).1]
  lt_bound_index_succ t := by
    have h := (monthOf_eq_iff.1 (rfl : monthOf (dayOf t) = _)).2
    linarith [(day_bounds t).2]

def years : Grid where
  bound y := yearStart y * 86400
  index t := yearOf (dayOf t)
  bound_lt_succ y := by linarith [yearStart_strictMono (lt_add_one y)]
  bound_index_le t := by linarith [(day_bounds t).1, yearStart_yearOf_le (dayOf t)]
  lt_bound_index_succ t := by linarith [(day_bounds t).2, lt_yearStart_yearOf_succ (dayOf t)]

/-- The grid in which `c` consecutive buckets of `g` are one. -/
def coarsen (c : ℤ) (hc : 0 < c) : Grid where
  bound k := g.bound (k * c)
  index t := g.index t / c
  bound_lt_succ k := g.bound_strictMono (by linarith)
  bound_index_le t :=
    (g.bound_strictMono.monotone (Int.ediv_mul_le _ hc.ne')).trans (g.bound_index_le t)
  lt_bound_index_succ t := by
    refine (g.lt_bound_index_succ t).trans_le (g.bound_strictMono.monotone ?_)
    have := Int.lt_ediv_add_one_mul_self (g.index t) hc
    omega

lemma stop_coarsen_le (c : ℤ) (hc : 0 < c) : (g.coarsen c hc).stop t ≤ g.bound (g.index t + c) := by
  refine g.bound_strictMono.monotone ?_
  have := Int.ediv_mul_le (g.index t) hc.ne'
  simp only [coarsen]
  linarith

end Grid
