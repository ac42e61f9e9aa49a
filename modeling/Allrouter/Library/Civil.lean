import Mathlib.Tactic

/-!
# The civil calendar

The proleptic Gregorian calendar, on day numbers counted from 1970-01-01. A
year begins on the day `yearStart y`, and the month `i` (counted from January
of the year `0`, so that `i / 12` is its year and `i % 12` its place in it) on
the day `monthStart i`. Conversely `yearOf d` and `monthOf d` are the year and
the month of the day `d`, found by peeling off cycles of 400, 100, 4 and 1
years.

* `monthOf_eq_iff`: a day belongs to exactly the month whose first day is not
  after it and whose successor begins after it;
* `yearStart_strictMono`, `monthStart_strictMono`: years and months follow each
  other.

A *location* gives the offset of the local clock from universal time at every
instant; `Location.instant` reads a wall clock back into an instant.
-/

namespace Civil

/-! ## Years -/

/-- Leap years: every fourth, but of the centuries only every fourth. -/
def isLeap (y : ℤ) : Bool := y % 4 = 0 && (y % 100 ≠ 0 || y % 400 = 0)

/-- The first day of the year `y`, as a number of days from 1970-01-01. -/
def yearStart (y : ℤ) : ℤ :=
  365 * (y - 1) + (y - 1) / 4 - (y - 1) / 100 + (y - 1) / 400 - 719162

/-- The length of the year `y`, in days. -/
def yearLength (y : ℤ) : ℤ := if isLeap y then 366 else 365

lemma yearStart_succ (y : ℤ) : yearStart (y + 1) = yearStart y + yearLength y := by
  unfold yearStart yearLength isLeap
  split_ifs with h <;> simp at h <;> omega

lemma yearLength_pos (y : ℤ) : 0 < yearLength y := by
  unfold yearLength
  split_ifs <;> norm_num

lemma yearStart_strictMono : StrictMono yearStart := by
  refine strictMono_int_of_lt_succ fun y => ?_
  have := yearLength_pos y
  rw [yearStart_succ]
  omega

/-- The year of the day `d`: the cycles of 400, 100 and 4 years before it, then
    the single years. The last century of a cycle, and the last year of four,
    are one day longer than the others, hence the two `min`s. -/
def yearOf (d : ℤ) : ℤ :=
  let d₀ := d + 719162
  let n₄₀₀ := d₀ / 146097
  let d₁ := d₀ % 146097
  let n₁₀₀ := min 3 (d₁ / 36524)
  let d₂ := d₁ - 36524 * n₁₀₀
  let n₄ := d₂ / 1461
  let d₃ := d₂ % 1461
  let n₁ := min 3 (d₃ / 365)
  400 * n₄₀₀ + 100 * n₁₀₀ + 4 * n₄ + n₁ + 1

/-- The first day of a year, from the cycles of years before it. -/
lemma yearStart_cycles {a b c e : ℤ} (hb : 0 ≤ b ∧ b ≤ 3) (hc : 0 ≤ c ∧ c ≤ 24)
    (he : 0 ≤ e ∧ e ≤ 3) :
    yearStart (400 * a + 100 * b + 4 * c + e + 1) = 146097 * a + 36524 * b + 1461 * c + 365 *
      e - 719162 := by
  unfold yearStart
  omega

/-- The decomposition of a day into cycles of years and a day of the year. -/
lemma yearOf_cycles (d : ℤ) : ∃ a b c e r : ℤ, (0 ≤ b ∧ b ≤ 3) ∧ (0 ≤ c ∧ c ≤ 24) ∧
    (0 ≤ e ∧ e ≤ 3) ∧ yearOf d = 400 * a + 100 * b + 4 * c + e + 1 ∧
    d = 146097 * a + 36524 * b + 1461 * c + 365 * e + r - 719162 ∧ 0 ≤ r ∧
    (r < 365 ∨ r = 365 ∧ e = 3 ∧ (c < 24 ∨ b = 3)) := by
  obtain ⟨a, ha⟩ : ∃ a, a = (d + 719162) / 146097 := ⟨_, rfl⟩
  obtain ⟨d₁, hd₁⟩ : ∃ d₁, d₁ = (d + 719162) % 146097 := ⟨_, rfl⟩
  obtain ⟨b, hb⟩ : ∃ b, b = min 3 (d₁ / 36524) := ⟨_, rfl⟩
  obtain ⟨d₂, hd₂⟩ : ∃ d₂, d₂ = d₁ - 36524 * b := ⟨_, rfl⟩
  obtain ⟨c, hc⟩ : ∃ c, c = d₂ / 1461 := ⟨_, rfl⟩
  obtain ⟨d₃, hd₃⟩ : ∃ d₃, d₃ = d₂ % 1461 := ⟨_, rfl⟩
  obtain ⟨e, he⟩ : ∃ e, e = min 3 (d₃ / 365) := ⟨_, rfl⟩
  refine ⟨a, b, c, e, d₃ - 365 * e, by omega, by omega, by omega, ?_, by omega, by omega, by omega⟩
  subst ha hb hc he hd₁ hd₂ hd₃
  rfl

lemma yearStart_yearOf_le (d : ℤ) : yearStart (yearOf d) ≤ d := by
  obtain ⟨a, b, c, e, r, hb, hc, he, hy, hd, hr, _⟩ := yearOf_cycles d
  rw [hy, yearStart_cycles hb hc he]
  omega

lemma lt_yearStart_yearOf_succ (d : ℤ) : d < yearStart (yearOf d + 1) := by
  obtain ⟨a, b, c, e, r, hb, hc, he, hy, hd, _, hr⟩ := yearOf_cycles d
  have hs := yearStart_cycles (a := a) hb hc he
  rw [yearStart_succ, hy]
  -- The day after the 365th is only reached in the last year of four, which is
  -- a leap year unless it also ends a century that does not end a cycle.
  rcases hr with hr | ⟨hr, rfl, hl⟩
  · have : 365 ≤ yearLength (400 * a + 100 * b + 4 * c + e + 1) := by
      unfold yearLength; split_ifs <;> norm_num
    omega
  · have : isLeap (400 * a + 100 * b + 4 * c + 3 + 1) = true := by
      simp only [isLeap, Bool.and_eq_true, Bool.or_eq_true, decide_eq_true_eq]
      omega
    rw [yearLength, if_pos this]
    omega

/-- From 1970 on, a year has at least a day for each year since. -/
lemma yearOf_bounds {d : ℤ} (hd : 0 ≤ d) : 1970 ≤ yearOf d ∧ yearOf d ≤ d + 1970 := by
  have h₁ := yearStart_yearOf_le d
  have h₂ := lt_yearStart_yearOf_succ d
  unfold yearStart at h₁ h₂
  omega

/-! ## Months -/

/-- The days of a common year before its month `k`, counted from `0`. -/
def commonDaysBefore (k : ℤ) : ℤ :=
  if k ≤ 0 then 0 else if k = 1 then 31 else if k = 2 then 59 else if k = 3 then 90
  else if k = 4 then 120 else if k = 5 then 151 else if k = 6 then 181 else if k = 7 then 212
  else if k = 8 then 243 else if k = 9 then 273 else if k = 10 then 304 else if k = 11 then 334
  else 365

/-- The days of a year before its month `k`: from March on, a leap year has one more. -/
def daysBefore (leap : Bool) (k : ℤ) : ℤ :=
  commonDaysBefore k + if leap ∧ 2 ≤ k then 1 else 0

/-- The last of the months up to `k` that has begun on the day `n` of a year. -/
def monthUpTo (leap : Bool) (n : ℤ) : ℕ → ℤ
  | 0 => 0
  | k + 1 => if daysBefore leap (k + 1) ≤ n then k + 1 else monthUpTo leap n k

/-- The month, counted from `0`, of the day `n` of a year, counted from `0`. -/
def monthInYear (leap : Bool) (n : ℤ) : ℤ := monthUpTo leap n 11

lemma daysBefore_twelve (y : ℤ) : daysBefore (isLeap y) 12 = yearLength y := by
  unfold daysBefore yearLength
  cases isLeap y <;> simp [commonDaysBefore]

lemma daysBefore_lt_succ (leap : Bool) {k : ℤ} (h₀ : 0 ≤ k) (h : k < 12) :
    daysBefore leap k < daysBefore leap (k + 1) := by
  unfold daysBefore commonDaysBefore
  interval_cases k <;> cases leap <;> simp

lemma monthUpTo_bounds (leap : Bool) (n : ℤ) (k : ℕ) : 0 ≤ monthUpTo leap n k ∧
    monthUpTo leap n k ≤ k := by
  induction k with
  | zero => exact ⟨le_rfl, le_rfl⟩
  | succ k ih =>
    rw [monthUpTo]
    split_ifs <;> push_cast <;> omega

lemma daysBefore_monthUpTo (leap : Bool) {n : ℤ} (h₀ : 0 ≤ n) {k : ℕ}
    (h : n < daysBefore leap (k + 1)) :
    daysBefore leap (monthUpTo leap n k) ≤ n ∧ n < daysBefore leap (monthUpTo leap n k + 1) := by
  induction k with
  | zero =>
    have hz : daysBefore leap 0 = 0 := by cases leap <;> rfl
    exact ⟨by rw [monthUpTo, hz]; exact h₀, by simpa [monthUpTo] using h⟩
  | succ k ih =>
    rw [monthUpTo]
    split_ifs with hk
    · exact ⟨hk, by simpa using h⟩
    · exact ih (not_le.1 hk)

lemma monthInYear_bounds (leap : Bool) (n : ℤ) : 0 ≤ monthInYear leap n ∧
    monthInYear leap n < 12 := by
  have := monthUpTo_bounds leap n 11
  rw [monthInYear]
  omega

/-- The first day of the month `i`, counted from January of the year `0`. -/
def monthStart (i : ℤ) : ℤ := yearStart (i / 12) + daysBefore (isLeap (i / 12)) (i % 12)

/-- The month of the day `d`, counted from January of the year `0`. -/
def monthOf (d : ℤ) : ℤ :=
  12 * yearOf d + monthInYear (isLeap (yearOf d)) (d - yearStart (yearOf d))

lemma monthStart_strictMono : StrictMono monthStart := by
  refine strictMono_int_of_lt_succ fun i => ?_
  have hk : 0 ≤ i % 12 ∧ i % 12 < 12 := by omega
  have hlt := daysBefore_lt_succ (isLeap (i / 12)) hk.1 hk.2
  by_cases h : i % 12 = 11
  · -- December is followed by January of the next year.
    have h₁ : (i + 1) / 12 = i / 12 + 1 := by omega
    have h₂ : (i + 1) % 12 = 0 := by omega
    rw [h, show (11 : ℤ) + 1 = 12 from rfl, daysBefore_twelve] at hlt
    have h₀ : daysBefore (isLeap (i / 12 + 1)) 0 = 0 := by cases isLeap (i / 12 + 1) <;> rfl
    rw [monthStart, monthStart, h₁, h₂, h, yearStart_succ]
    omega
  · have h₁ : (i + 1) / 12 = i / 12 := by omega
    have h₂ : (i + 1) % 12 = i % 12 + 1 := by omega
    rw [monthStart, monthStart, h₁, h₂]
    omega

lemma monthOf_div (d : ℤ) : monthOf d / 12 = yearOf d := by
  have := monthInYear_bounds (isLeap (yearOf d)) (d - yearStart (yearOf d))
  unfold monthOf
  omega

lemma monthOf_mod (d : ℤ) :
    monthOf d % 12 = monthInYear (isLeap (yearOf d)) (d - yearStart (yearOf d)) := by
  have := monthInYear_bounds (isLeap (yearOf d)) (d - yearStart (yearOf d))
  unfold monthOf
  omega

lemma monthStart_monthOf (d : ℤ) : monthStart (monthOf d) ≤ d ∧ d < monthStart (monthOf d + 1) := by
  have hlen : d - yearStart (yearOf d) < daysBefore (isLeap (yearOf d)) 12 := by
    have := lt_yearStart_yearOf_succ d
    rw [yearStart_succ] at this
    rw [daysBefore_twelve]
    omega
  have h := daysBefore_monthUpTo _ (sub_nonneg.2 (yearStart_yearOf_le d)) (k := 11)
    (by simpa using hlen)
  have hb := monthInYear_bounds (isLeap (yearOf d)) (d - yearStart (yearOf d))
  rw [← monthInYear, ← monthOf_mod] at h
  constructor
  · rw [monthStart, monthOf_div]
    omega
  · by_cases hm : monthOf d % 12 = 11
    · have h₁ : (monthOf d + 1) / 12 = yearOf d + 1 := by rw [← monthOf_div]; omega
      have h₂ : (monthOf d + 1) % 12 = 0 := by omega
      have h₀ : daysBefore (isLeap (yearOf d + 1)) 0 = 0 := by cases isLeap (yearOf d + 1) <;> rfl
      rw [monthStart, h₁, h₂, h₀, add_zero]
      exact lt_yearStart_yearOf_succ d
    · have h₁ : (monthOf d + 1) / 12 = yearOf d := by rw [← monthOf_div]; omega
      have h₂ : (monthOf d + 1) % 12 = monthOf d % 12 + 1 := by omega
      rw [monthStart, h₁, h₂]
      omega

lemma monthOf_eq_iff {d i : ℤ} : monthOf d = i ↔ monthStart i ≤ d ∧ d < monthStart (i + 1) := by
  constructor
  · rintro rfl
    exact monthStart_monthOf d
  · rintro ⟨h₁, h₂⟩
    have h₃ := monthStart_strictMono.lt_iff_lt.1 ((monthStart_monthOf d).1.trans_lt h₂)
    have h₄ := monthStart_strictMono.lt_iff_lt.1 (h₁.trans_lt (monthStart_monthOf d).2)
    omega

/-! ## Days and clocks -/

/-- The day of the second `t`, both counted from 1970-01-01. -/
def dayOf (t : ℤ) : ℤ := t / 86400

/-- The weekday of the day `d`, Sunday being `0`: 1970-01-01 was a Thursday. -/
def weekday (d : ℤ) : ℤ := (d + 4) % 7

/-- A location: how many seconds its wall clock is ahead of universal time, at
    every instant. -/
structure Location where
  offset : ℤ → ℤ

namespace Location

variable (loc : Location)

/-- The reading of the wall clock at the instant `t`. -/
def wall (t : ℤ) : ℤ := t + loc.offset t

/-- The instant at which the wall clock reads `w`. The offset is looked up at
    `w` first, and once more at the instant this gives: where the clock is
    turned forward or back, one of the two offsets around the change is used. -/
def instant (w : ℤ) : ℤ := w - loc.offset (w - loc.offset w)

/-- A location that does not change its offset, such as universal time. -/
def fixed (s : ℤ) : Location := ⟨fun _ => s⟩

end Location

end Civil
