import Mathlib.Algebra.BigOperators.Group.List.Basic
import Mathlib.Data.Int.Cast.Lemmas
import Mathlib.Data.List.Perm.Subperm

/-!
# Products rounded factor by factor

A loop that multiplies a whole number by one factor after the other, and rounds
to a whole number after each of them, depends on the order of the factors. It
does not where no rounding but the last one loses anything: where the number
times *some* of the factors, but not all of them, is whole (`WholeParts`).

* `roundedProd_eq`: the loop then gives the product, rounded once;
* `roundedProd_perm`: so every order of the factors gives the same.
-/

variable {K : Type*} [CommRing K] {round : K → ℤ} {q x : K} {l l' : List K}

/-- The product of `n` with the factors `l`, rounded after each of them. -/
def roundedProd (round : K → ℤ) (n : ℤ) (l : List K) : ℤ :=
  l.foldl (fun n x => round (n * x)) n

/-- The product of `q` with some of the factors `l`, but not with all of them,
    is a whole number. -/
def WholeParts (q : K) (l : List K) : Prop :=
  ∀ l' : List K, l'.Sublist l → l' ≠ l → ∃ n : ℤ, q * l'.prod = n

namespace WholeParts

lemma perm (h : WholeParts q l) (hp : l.Perm l') : WholeParts q l' := by
  intro s hs hne
  obtain ⟨t, hts, ht⟩ := hs.subperm.trans hp.symm.subperm
  -- As many factors as there are would be all of them.
  have hne' : t ≠ l := fun htl => hne (hs.eq_of_length ((hts.symm.trans (htl ▸ hp)).length_eq))
  rw [← hts.prod_eq]
  exact h t ht hne'

lemma head {y : K} (h : WholeParts q (x :: y :: l)) : ∃ n : ℤ, q * x = n := by
  simpa using h [x] (List.singleton_sublist.2 List.mem_cons_self) (by simp)

lemma tail (h : WholeParts q (x :: l)) : WholeParts (q * x) l := by
  intro s hs hne
  simpa [mul_assoc] using h (x :: s) (hs.cons_cons x) (by simpa using hne)

end WholeParts

lemma roundedProd_eq (hround : ∀ n : ℤ, round n = n) {n : ℤ} (h : WholeParts (n : K) l) :
    roundedProd round n l = round (n * l.prod) := by
  induction l generalizing n with
  | nil => simp [roundedProd, hround]
  | cons x l ih =>
    show roundedProd round (round (n * x)) l = _
    cases l with
    | nil => simp [roundedProd]
    | cons y l =>
      obtain ⟨m, hm⟩ := h.head
      have htail := hm ▸ h.tail
      rw [hm, hround, ih htail, List.prod_cons (a := x), ← mul_assoc, hm]

lemma roundedProd_perm (hround : ∀ n : ℤ, round n = n) {n : ℤ} (hp : l.Perm l')
    (h : WholeParts (n : K) l) : roundedProd round n l = roundedProd round n l' := by
  rw [roundedProd_eq hround h, roundedProd_eq hround (h.perm hp), hp.prod_eq]
