import Mathlib.Tactic

/-!
# Checked 64-bit arithmetic

The quota code computes on `int64` values and guards every sum and product that
could overflow. Values are integers here, and the guards are kept as the source
has them, with the quotients of Go, which truncate towards zero.

* `safeAdd_eq`, `safeSub_eq` and
  `safeMul_eq`: on `int64` values the guards are exact, that is
  they refuse precisely the results that do not fit;
* `floorDivInt64_eq`: the quotient rounds down.
-/

namespace Allrouter

def maxInt64 : ℤ := 2 ^ 63 - 1

def minInt64 : ℤ := -2 ^ 63

/-- The integers an `int64` can hold. -/
abbrev IsInt64 (n : ℤ) : Prop := minInt64 ≤ n ∧ n ≤ maxInt64

lemma maxInt64_nonneg : 0 ≤ maxInt64 := by decide

lemma isInt64_of_lt {n : ℤ} (h : -2 ^ 63 ≤ n ∧ n < 2 ^ 63) : IsInt64 n :=
  ⟨h.1, Int.le_sub_one_of_lt h.2⟩

def subscriptionSafeAddInt64 (a b : ℤ) : Option ℤ :=
  if b > 0 ∧ a > maxInt64 - b then none
  else if b < 0 ∧ a < minInt64 - b then none
  else some (a + b)

def subscriptionSafeSubInt64 (a b : ℤ) : Option ℤ :=
  if b = minInt64 then none else subscriptionSafeAddInt64 a (-b)

def subscriptionSafeMulInt64 (a b : ℤ) : Option ℤ :=
  if a = 0 ∨ b = 0 then some 0
  else if a = -1 then if b = minInt64 then none else some (-b)
  else if b = -1 then if a = minInt64 then none else some (-a)
  else if a > 0 then
    if b > 0 then if a > maxInt64.tdiv b then none else some (a * b)
    else if b < minInt64.tdiv a then none else some (a * b)
  else
    if b > 0 then if a < minInt64.tdiv b then none else some (a * b)
    else if a < maxInt64.tdiv b then none else some (a * b)

/-- The quotient rounded down, `0` when the divisor is not positive. -/
def floorDivInt64 (value divisor : ℤ) : ℤ :=
  if divisor ≤ 0 then 0
  else if value.tmod divisor < 0 then value.tdiv divisor - 1 else value.tdiv divisor

/-- The end of a window, at the last `int64` when it would lie beyond. -/
def subscriptionSafeWindowEnd (start duration : ℤ) : ℤ :=
  match subscriptionSafeAddInt64 start duration with
  | some e => e
  | none => if duration ≥ 0 then maxInt64 else minInt64

/-! ## The guards are exact -/

variable {a b : ℤ}

lemma safeAdd_eq (ha : IsInt64 a) :
    subscriptionSafeAddInt64 a b = if IsInt64 (a + b) then some (a + b) else none := by
  rw [subscriptionSafeAddInt64]
  split_ifs <;> first | rfl | omega

lemma safeAdd_of_fits (ha : IsInt64 a) (h : IsInt64 (a + b)) :
    subscriptionSafeAddInt64 a b = some (a + b) := by
  rw [safeAdd_eq ha, if_pos h]

lemma eq_add_of_safeAdd {c : ℤ} (h : subscriptionSafeAddInt64 a b = some c) : c = a + b := by
  rw [subscriptionSafeAddInt64] at h
  split_ifs at h
  simpa using h.symm

lemma safeSub_eq (ha : IsInt64 a) (hb : b ≠ minInt64) :
    subscriptionSafeSubInt64 a b = if IsInt64 (a - b) then some (a - b) else none := by
  rw [subscriptionSafeSubInt64, if_neg hb, safeAdd_eq ha, ← sub_eq_add_neg]

private lemma le_tdiv_iff {m : ℤ} (hm : 0 ≤ m) (hb : 0 < b) : a ≤ m.tdiv b ↔ a * b ≤ m := by
  rw [Int.tdiv_eq_ediv_of_nonneg hm, Int.le_ediv_iff_mul_le hb]

private lemma tdiv_le_iff {m : ℤ} (hm : m ≤ 0) (hb : 0 < b) : m.tdiv b ≤ a ↔ m ≤ a * b := by
  have h := le_tdiv_iff (a := -a) (m := -m) (by omega) hb
  rwa [Int.neg_tdiv, neg_mul, neg_le_neg_iff, neg_le_neg_iff] at h

lemma safeMul_eq (ha : IsInt64 a) (hb : IsInt64 b) :
    subscriptionSafeMulInt64 a b = if IsInt64 (a * b) then some (a * b) else none := by
  have hmax : (0 : ℤ) ≤ maxInt64 := by decide
  have hmin : minInt64 = -maxInt64 - 1 := by decide
  rw [subscriptionSafeMulInt64]
  by_cases h₀ : a = 0 ∨ b = 0
  · have : a * b = 0 := by simpa using h₀
    rw [if_pos h₀, this, if_pos ⟨by omega, by omega⟩]
  rw [if_neg h₀]
  by_cases ha₁ : a = -1
  · subst ha₁
    rw [if_pos rfl]
    split_ifs <;> first | simp | omega
  by_cases hb₁ : b = -1
  · subst hb₁
    split_ifs <;> first | simp | omega
  -- The quotient a factor is compared with bounds the product from one side;
  -- the sign of the product bounds it from the other.
  rcases lt_or_gt_of_ne fun h => h₀ (.inl h) with h₁ | h₁ <;>
    rcases lt_or_gt_of_ne fun h => h₀ (.inr h) with h₂ | h₂
  · have h := le_tdiv_iff (a := -a) hmax (neg_pos.2 h₂)
    rw [Int.tdiv_neg, neg_mul_neg] at h
    have := mul_pos_of_neg_of_neg h₁ h₂
    split_ifs <;> first | rfl | omega
  · have := tdiv_le_iff (a := a) (by omega : minInt64 ≤ 0) h₂
    have := mul_neg_of_neg_of_pos h₁ h₂
    split_ifs <;> first | rfl | omega
  · have h := tdiv_le_iff (a := b) (by omega : minInt64 ≤ 0) h₁
    rw [mul_comm b a] at h
    have := mul_neg_of_pos_of_neg h₁ h₂
    split_ifs <;> first | rfl | omega
  · have := le_tdiv_iff (a := a) hmax h₂
    have := mul_pos h₁ h₂
    split_ifs <;> first | rfl | omega

lemma safeMul_of_fits (ha : IsInt64 a) (hb : IsInt64 b) (h : IsInt64 (a * b)) :
    subscriptionSafeMulInt64 a b = some (a * b) := by
  rw [safeMul_eq ha hb, if_pos h]

lemma floorDivInt64_eq {v d : ℤ} (hd : 0 < d) : floorDivInt64 v d = v / d := by
  rw [floorDivInt64, if_neg (not_le.2 hd)]
  have h₁ := Int.mul_tdiv_add_tmod v d
  have h₂ := Int.tmod_lt_of_pos v hd
  have h₃ := Int.lt_tmod_of_pos v hd
  split_ifs with h
  · exact ((Int.ediv_eq_iff_of_pos hd).2 ⟨by linarith, by linarith⟩).symm
  · exact ((Int.ediv_eq_iff_of_pos hd).2 ⟨by linarith, by linarith⟩).symm

end Allrouter
