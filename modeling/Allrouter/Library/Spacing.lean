import Mathlib.Tactic

/-!
# Times that are spaced

In a list of times, latest first, every time may be at least `w` later than the one `m` places
before it (`Spaced`). Then no more than `m` of them lie in an interval of length `w`
(`Spaced.count_le`).
-/

namespace Spacing

open List

/-- Latest first, every time is at least `w` later than the one `m` places before it. -/
def Spaced (m : ℕ) (w : ℤ) : List ℤ → Prop
  | [] => True
  | x :: l => (∀ y ∈ l, y ≤ x) ∧ (∀ y ∈ l[m - 1]?, w ≤ x - y) ∧ Spaced m w l

variable {m : ℕ} {w : ℤ} {l : List ℤ}

lemma Spaced.pairwise (h : Spaced m w l) : l.Pairwise (· ≥ ·) := by
  induction l with
  | nil => exact List.Pairwise.nil
  | cons x l ih => exact pairwise_cons.2 ⟨h.1, ih h.2.2⟩

/-- A list of at most `m` times has none that is `m` places before another one. -/
lemma spaced_of_length_le (hm : 1 ≤ m) (hlength : l.length ≤ m) (hsorted : l.Pairwise (· ≥ ·)) :
    Spaced m w l := by
  induction l with
  | nil => trivial
  | cons x l ih =>
    rw [length_cons] at hlength
    obtain ⟨hx, hl⟩ := pairwise_cons.1 hsorted
    refine ⟨hx, ?_, ih (by omega) hl⟩
    rw [getElem?_eq_none (by omega)]
    exact fun _ hy => absurd hy (Option.not_mem_none _)

/-- In a sorted list, what comes at or after the place `n` is not later than the time there. -/
lemma le_of_mem_drop {n : ℕ} (hsorted : l.Pairwise (· ≥ ·)) {y : ℤ} (hy : y ∈ l.drop n) :
    ∃ z ∈ l[n]?, y ≤ z := by
  have hdrop := hsorted.drop (i := n)
  have hhead : l[n]? = (l.drop n).head? := by rw [head?_drop]
  rw [hhead]
  cases hl : l.drop n with
  | nil =>
    rw [hl] at hy
    cases hy
  | cons z rest =>
    rw [hl] at hy hdrop
    refine ⟨z, rfl, ?_⟩
    rcases mem_cons.1 hy with rfl | hy
    · exact le_rfl
    · exact (pairwise_cons.1 hdrop).1 y hy

lemma Spaced.count_le (hm : 1 ≤ m) (h : Spaced m w l) (t : ℤ) :
    l.countP (fun y => t ≤ y ∧ y < t + w) ≤ m := by
  induction l with
  | nil => exact Nat.zero_le m
  | cons x l ih =>
    obtain ⟨-, hspace, hl⟩ := h
    rw [countP_cons]
    split_ifs with hx
    · -- the times from the place `m - 1` on are too early
      have hdrop : (l.drop (m - 1)).countP (fun y => t ≤ y ∧ y < t + w) = 0 := by
        refine countP_eq_zero.2 fun y hy hwindow => ?_
        obtain ⟨z, hz, hyz⟩ := le_of_mem_drop hl.pairwise hy
        have hxz := hspace z hz
        simp only [decide_eq_true_eq] at hwindow hx
        omega
      have htake : (l.take (m - 1)).countP (fun y => t ≤ y ∧ y < t + w) ≤ m - 1 :=
        countP_le_length.trans (length_take_le _ _)
      rw [← take_append_drop (m - 1) l, countP_append]
      omega
    · exact ih hl

end Spacing
