import Allrouter.Library.Table

/-!
# Limits that rows share

Each row of a table uses a number of slots and may set a limit to them, which holds for all the rows
of its scope; a row may also be in no scope. A limit that is not positive is none, and the
least positive one counts (`leastPositive`). The slots of a scope are added up to a cap
(`saturatedSum`).

* `Within.put` and `Within.append`: a row that is replaced or added only matters to the
  scope it comes into;
* `Within.put_of_used`: one more slot is used while the scope has some left.
-/

namespace Allotment

open List Table

/-! ## The least positive limit -/

def minPositive (current candidate : ℤ) : ℤ :=
  if candidate ≤ 0 then current
  else if current ≤ 0 ∨ candidate < current then candidate
  else current

/-- The least positive one of the limits, if there is one. -/
def leastPositive (l : List ℤ) : ℤ := l.foldl minPositive 0

variable {l : List ℤ} {cap right left c : ℤ}

lemma foldl_minPositive_le {x : ℤ} (hx : x ∈ c :: l) (hpos : 0 < x) :
    0 < l.foldl minPositive c ∧ l.foldl minPositive c ≤ x := by
  induction l generalizing c x with
  | nil =>
    obtain rfl := mem_singleton.1 hx
    exact ⟨hpos, le_rfl⟩
  | cons y l ih =>
    have hstep : 0 < minPositive c y ∧ minPositive c y ≤ x ∨ x ∈ l := by
      rw [minPositive]
      rcases mem_cons.1 hx with rfl | hx
      · left
        split_ifs <;> omega
      · rcases mem_cons.1 hx with rfl | hx
        · left
          split_ifs <;> omega
        · exact .inr hx
    obtain ⟨hmin, hle⟩ | hx := hstep
    · obtain ⟨h₁, h₂⟩ := ih mem_cons_self hmin
      exact ⟨h₁, h₂.trans hle⟩
    · exact ih (mem_cons_of_mem _ hx) hpos

lemma leastPositive_le {x : ℤ} (hx : x ∈ l) (hpos : 0 < x) : 0 < leastPositive l ∧
    leastPositive l ≤ x :=
  foldl_minPositive_le (mem_cons_of_mem _ hx) hpos

/-! ## Sums up to a cap -/

/-- The sum of two numbers, taken for zero if they are negative, up to the cap. -/
def addSaturated (cap left right : ℤ) : ℤ :=
  let left := if left < 0 then 0 else left
  if right ≤ 0 then left else if left > cap - right then cap else left + right

lemma addSaturated_eq (hl : 0 ≤ left) (hle : left ≤ cap) (hr : 0 ≤ right) :
    addSaturated cap left right = min (left + right) cap := by
  rw [addSaturated]
  split_ifs <;> omega

lemma min_le_addSaturated (hl : 0 ≤ left) (hr : 0 ≤ right) :
    min (left + right) cap ≤ addSaturated cap left right := by
  rw [addSaturated]
  split_ifs <;> omega

lemma addSaturated_min (hcap : 0 ≤ cap) (hl : 0 ≤ left) (hr : 0 ≤ right) :
    addSaturated cap (min left cap) (min right cap) = min (left + right) cap := by
  rw [addSaturated_eq (le_min hl hcap) (min_le_right _ _) (le_min hr hcap)]
  omega

/-- The sum of the numbers, up to the cap. -/
def saturatedSum (cap : ℤ) (l : List ℤ) : ℤ := l.foldl (addSaturated cap) 0

lemma foldl_addSaturated (hl : ∀ x ∈ l, 0 ≤ x) (hc : 0 ≤ c) (hle : c ≤ cap) :
    l.foldl (addSaturated cap) c = min (c + l.sum) cap := by
  induction l generalizing c with
  | nil => simp [hle]
  | cons x l ih =>
    have hx := hl x mem_cons_self
    have hsum := sum_nonneg fun y hy => hl y (mem_cons_of_mem _ hy)
    rw [foldl_cons, addSaturated_eq hc hle hx, sum_cons,
      ih (fun y hy => hl y (mem_cons_of_mem _ hy)) (by omega) (min_le_right _ _)]
    omega

lemma saturatedSum_eq (hcap : 0 ≤ cap) (hl : ∀ x ∈ l, 0 ≤ x) :
    saturatedSum cap l = min l.sum cap := by
  rw [saturatedSum, foldl_addSaturated hl le_rfl hcap, zero_add]

/-! ## Tables within their limits -/

variable {α κ ι : Type*} [DecidableEq κ] [DecidableEq ι] (scope : α → Option κ) (limit used : α → ℤ)

/-- The slots that the rows of a scope use. -/
def total (rows : List α) (k : κ) : ℤ := ((rows.filter (scope · = some k)).map used).sum

/-- The slots that a scope uses, up to the cap, are within every limit of the scope. -/
def Within (cap : ℤ) (rows : List α) : Prop :=
  ∀ k, ∀ x ∈ rows, scope x = some k → 0 < limit x → min (total scope used rows k) cap ≤ limit x

variable {scope limit used} {cap : ℤ} {rows : List α} {key : α → ι} {x x' : α} {k : κ}

omit [DecidableEq ι] in
lemma total_eq_sum (rows : List α) (k : κ) :
    total scope used rows k = (rows.map fun y => if scope y = some k then used y else 0).sum := by
  induction rows with
  | nil => rfl
  | cons y rows ih =>
    rw [map_cons, sum_cons, ← ih, total, total]
    by_cases h : scope y = some k <;> simp [h]

omit [DecidableEq ι] in
lemma total_append_singleton (rows : List α) (x : α) (k : κ) : total scope used (rows ++ [x]) k =
    total scope used rows k + if scope x = some k then used x else 0 := by
  simp [total_eq_sum]

variable (h : Within scope limit used cap rows)

include h in
omit [DecidableEq ι] in
lemma Within.append
    (hnew : ∀ k, scope x' = some k → ∀ y ∈ rows ++ [x'], scope y = some k → 0 < limit y →
      min (total scope used (rows ++ [x']) k) cap ≤ limit y) : Within scope limit used cap
        (rows ++ [x']) := by
  intro k y hy hk hpos
  by_cases hk' : scope x' = some k
  · exact hnew k hk' y hy hk hpos
  · rw [total_append_singleton, if_neg hk', add_zero]
    rcases mem_append.1 hy with hy | hy
    · exact h k y hy hk hpos
    · rw [mem_singleton.1 hy] at hk
      exact absurd hk hk'

variable (hrows : Table.Keyed key rows) (hx : x ∈ rows) (hkey : key x = key x')
include hrows hx hkey

variable (scope used) in
lemma total_put_eq_others (k : κ) :
    total scope used (put key x' rows) k =
      total scope used (others key (key x') rows) k + if scope x' = some k then used x' else 0 := by
  rw [total_eq_sum, total_eq_sum, sum_put _ hrows hx hkey]

variable (scope used) in
lemma total_put (k : κ) :
    total scope used (put key x' rows) k + (if scope x = some k then used x else 0) =
      total scope used rows k + if scope x' = some k then used x' else 0 := by
  rw [total_put_eq_others scope used hrows hx hkey, total_eq_sum, total_eq_sum rows,
    sum_eq_others_add _ hrows hx, hkey]
  omega

include h

lemma Within.put (hused : 0 ≤ used x)
    (hnew : ∀ k, scope x' = some k → ∀ y ∈ put key x' rows, scope y = some k → 0 < limit y →
      min (total scope used (put key x' rows) k) cap ≤ limit y) : Within scope limit used cap
        (put key x' rows) := by
  intro k y hy hk hpos
  by_cases hk' : scope x' = some k
  · exact hnew k hk' y hy hk hpos
  · have htotal : total scope used (Table.put key x' rows) k ≤ total scope used rows k := by
      have := total_put scope used hrows hx hkey k
      rw [if_neg hk'] at this
      split_ifs at this <;> omega
    obtain rfl | ⟨hy, -⟩ := mem_put hy
    · exact absurd hk hk'
    · exact (min_le_min_right cap htotal).trans (h k y hy hk hpos)

lemma Within.put_of_used (hnonneg : 0 ≤ used x) (hscope : scope x' = scope x)
    (hlimit : limit x' = limit x)
    (hused : used x' ≤ used x ∨ used x' = used x + 1 ∧
      ∀ k, scope x = some k → ∀ y ∈ rows, scope y = some k →
      0 < limit y → min (total scope used rows k) cap < limit y) :
    Within scope limit used cap (Table.put key x' rows) := by
  refine h.put hrows hx hkey hnonneg fun k hk y hy hyk hpos => ?_
  rw [hscope] at hk
  have htotal := total_put scope used hrows hx hkey k
  rw [hscope, if_pos hk] at htotal
  -- The limits of the scope are those of before.
  obtain ⟨z, hz, hzk, hzlimit⟩ : ∃ z ∈ rows, scope z = some k ∧ limit z = limit y := by
    obtain rfl | ⟨hy, -⟩ := mem_put hy
    · exact ⟨x, hx, hk, hlimit.symm⟩
    · exact ⟨y, hy, hyk, rfl⟩
  rw [← hzlimit] at hpos ⊢
  obtain hle | ⟨hsucc, hroom⟩ := hused
  · exact (min_le_min_right cap (by omega)).trans (h k z hz hzk hpos)
  · have := hroom k hk z hz hzk hpos
    omega

end Allotment
