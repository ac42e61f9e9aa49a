import Mathlib.Tactic

/-!
# Sums of timed amounts

Events carry a time and an amount; `total p l` is the sum of the amounts of the
events of `l` whose time satisfies `p`. The sum over the half-open interval
`(t - w, t]` is a *trailing* sum; as `t` moves, it only grows at the time of an
event. A bound on all trailing sums that an instant `r` contributes to is
therefore one on those at `r` and at the later events it still contributes to
(`trailing_le_iff`).
-/

namespace TimedSum

open List

variable {α : Type*} (time amount : α → ℤ)

/-- The sum of the amounts of the events at a time satisfying `p`. -/
def total (p : ℤ → Prop) [DecidablePred p] (l : List α) : ℤ :=
  (l.map fun x => if p (time x) then amount x else 0).sum

/-- The sum of the amounts of the events in `(t - w, t]`. -/
def trailing (w t : ℤ) (l : List α) : ℤ :=
  total time amount (fun u => t - w < u ∧ u ≤ t) l

variable {time amount} {p q : ℤ → Prop} [DecidablePred p] [DecidablePred q] {l m : List α} {x : α}

@[simp]
lemma total_nil : total time amount p [] = 0 := rfl

lemma total_cons : total time amount p (x :: l) = (if p (time x) then amount x else 0) +
    total time amount p l := by
  simp [total]

lemma total_append :
    total time amount p (l ++ m) = total time amount p l + total time amount p m := by
  simp [total]

lemma total_perm (h : l.Perm m) : total time amount p l = total time amount p m :=
  (h.map _).sum_eq

lemma total_eq_zero (h : ∀ x ∈ l, ¬ p (time x)) : total time amount p l = 0 :=
  sum_eq_zero fun _ hy => by
    obtain ⟨x, hx, rfl⟩ := mem_map.1 hy
    exact if_neg (h x hx)

/-- Widening the times widens the sum, as long as no amount is negative. -/
lemma total_mono (hl : ∀ x ∈ l, 0 ≤ amount x) (h : ∀ x ∈ l, p (time x) → q (time x)) :
    total time amount p l ≤ total time amount q l := by
  refine sum_le_sum fun x hx => ?_
  have := hl x hx
  by_cases hp : p (time x)
  · rw [if_pos hp, if_pos (h x hx hp)]
  · rw [if_neg hp]
    split_ifs <;> omega

lemma total_congr (h : ∀ x ∈ l, p (time x) ↔ q (time x)) :
    total time amount p l = total time amount q l := by
  refine congrArg sum (map_congr_left fun x hx => ?_)
  by_cases hq : q (time x)
  · rw [if_pos hq, if_pos ((h x hx).2 hq)]
  · rw [if_neg hq, if_neg fun hp => hq ((h x hx).1 hp)]

lemma total_nonneg (hl : ∀ x ∈ l, 0 ≤ amount x) : 0 ≤ total time amount p l := by
  refine sum_nonneg fun _ hy => ?_
  obtain ⟨x, hx, rfl⟩ := mem_map.1 hy
  have := hl x hx
  split_ifs <;> omega

/-- Restricting the events to those counted does not change the sum. -/
lemma total_filter_of_imp {f : α → Bool} (h : ∀ x ∈ l, p (time x) → f x) :
    total time amount p (l.filter f) = total time amount p l := by
  induction l with
  | nil => rfl
  | cons x l ih =>
    have ih := ih fun y hy => h y (mem_cons_of_mem _ hy)
    cases hf : f x
    · have hx : ¬ p (time x) := fun hp => by simp [h x mem_cons_self hp] at hf
      rw [filter_cons_of_neg (by simp [hf]), total_cons, if_neg hx, ih, zero_add]
    · rw [filter_cons_of_pos hf, total_cons, total_cons, ih]

lemma total_filter (f : α → Bool) (l : List α) : total time amount p (l.filter f) =
    (l.map fun x => if f x ∧ p (time x) then amount x else 0).sum := by
  induction l with
  | nil => rfl
  | cons x l ih =>
    cases hf : f x
    · rw [filter_cons_of_neg (by simp [hf]), ih, map_cons, sum_cons,
        if_neg (by simp [hf]), zero_add]
    · rw [filter_cons_of_pos hf, total_cons, ih, map_cons]
      simp [hf]

lemma total_eq_sum (h : ∀ x ∈ l, p (time x)) : total time amount p l = (l.map amount).sum :=
  congrArg sum (map_congr_left fun x hx => if_pos (h x hx))

lemma sum_filter (l : List α) : ((l.filter fun x => p (time x)).map amount).sum =
    total time amount p l := by
  induction l with
  | nil => rfl
  | cons x l ih =>
    by_cases hx : p (time x)
    · rw [filter_cons_of_pos (by simpa using hx), map_cons, sum_cons, ih, total_cons, if_pos hx]
    · rw [filter_cons_of_neg (by simpa using hx), ih, total_cons, if_neg hx, zero_add]

/-- In the order of time, the events up to `t` come first. -/
lemma mem_takeWhile_of_sorted {t : ℤ} (hl : l.Pairwise fun x y => time x ≤ time y) (x : α) :
    (x ∈ l.takeWhile (time · ≤ t) → time x ≤ t) ∧ (x ∈ l.dropWhile (time · ≤ t) → t < time x) := by
  induction l with
  | nil => simp
  | cons y l ih =>
    rw [pairwise_cons] at hl
    by_cases hy : time y ≤ t
    · rw [takeWhile_cons_of_pos (by simpa using hy), dropWhile_cons_of_pos (by simpa using hy)]
      refine ⟨fun hx => ?_, (ih hl.2).2⟩
      rcases mem_cons.1 hx with rfl | hx
      · exact hy
      · exact (ih hl.2).1 hx
    · rw [takeWhile_cons_of_neg (by simpa using hy), dropWhile_cons_of_neg (by simpa using hy)]
      refine ⟨fun hx => absurd hx not_mem_nil, fun hx => ?_⟩
      rcases mem_cons.1 hx with rfl | hx
      · exact not_le.1 hy
      · exact (not_le.1 hy).trans_le (hl.1 x hx)

/-- In the order of time, the events split into those up to `t` and those after it. -/
lemma exists_split {t : ℤ} (hl : l.Pairwise fun x y => time x ≤ time y) :
    ∃ B A, l.takeWhile (time · ≤ t) = B ∧ l.dropWhile (time · ≤ t) = A ∧ B ++ A = l ∧
      (∀ x ∈ B, time x ≤ t) ∧ ∀ x ∈ A, t < time x :=
  ⟨_, _, rfl, rfl, takeWhile_append_dropWhile, fun x => (mem_takeWhile_of_sorted hl x).1,
    fun x => (mem_takeWhile_of_sorted hl x).2⟩

variable (time) in
lemma exists_latest (a b : ℤ) (l : List α) : (∀ x ∈ l, ¬ (a < time x ∧ time x ≤ b)) ∨
      ∃ y ∈ l, (a < time y ∧ time y ≤ b) ∧ ∀ x ∈ l, time x ≤ b → time x ≤ time y := by
  induction l with
  | nil => exact .inl fun _ h => absurd h not_mem_nil
  | cons z l ih =>
    simp only [forall_mem_cons, exists_mem_cons_iff]
    by_cases hz : a < time z ∧ time z ≤ b
    · rcases ih with h | ⟨y, hy, hab, hmax⟩
      · refine .inr (.inl ⟨hz, fun _ => le_rfl, fun x hx hb => ?_⟩)
        have := h x hx
        omega
      · by_cases hyz : time y ≤ time z
        · exact .inr (.inl ⟨hz, fun _ => le_rfl, fun x hx hb => (hmax x hx hb).trans hyz⟩)
        · exact .inr (.inr ⟨y, hy, hab, fun _ => by omega, hmax⟩)
    · rcases ih with h | ⟨y, hy, hab, hmax⟩
      · exact .inl ⟨hz, h⟩
      · exact .inr (.inr ⟨y, hy, hab, fun _ => by omega, hmax⟩)

lemma trailing_le_iff {w r B : ℤ} (hw : 0 < w) (hl : ∀ x ∈ l, 0 ≤ amount x) :
    (∀ t, r ≤ t → t < r + w → trailing time amount w t l ≤ B) ↔ trailing time amount w r l ≤ B ∧
        ∀ x ∈ l, r < time x → time x < r + w → trailing time amount w (time x) l ≤ B := by
  constructor
  · exact fun h => ⟨h r le_rfl (by omega), fun x _ h₁ h₂ => h _ h₁.le h₂⟩
  · rintro ⟨hr, he⟩ t ht₁ ht₂
    -- Between the latest event up to `t` and `t` itself, events only expire.
    rcases exists_latest time r t l with h | ⟨y, hy, hry, hmax⟩
    · refine (total_mono hl fun x hx hp => ?_).trans hr
      have := h x hx
      omega
    · refine (total_mono hl fun x hx hp => ?_).trans (he y hy hry.1 (by omega))
      have := hmax x hx hp.2
      omega

end TimedSum
