import Allrouter.Library.Grid
import Allrouter.Library.Text
import Allrouter.Subscription.Arith

/-!
# Quota windows

A quota window limits what a subscription may use in some interval of time. It
is written down with a number of aliases (`SubscriptionQuotaWindow`), which
`SubscriptionQuotaWindow.canonical` folds into a unit, a count of units, a
length in seconds and a reset mode. The windows this gives are `Canonical`, and
carry that fact with them (`CanonicalWindow`).

A rolling window is the interval `(t - windowSeconds, t]` ending now. A calendar
window is a bucket of the calendar, or of a grid anchored at the issuance of the
subscription (`quotaWindowBounds`).

* `canonical_toWindow`: folding the aliases of a canonical window changes nothing;
* `quotaWindowBounds_rolling`, `quotaWindowBounds_calendar`: the bounds the code
  computes, with all its guards, are those of the interval and of a grid of
  buckets (`CanonicalWindow.grid`).
-/

namespace Allrouter

open Civil Text Grid Option List

/-- The units of a window. -/
inductive QuotaWindowUnit
  | hour
  | day
  | week
  | month
  | year
  | custom
  deriving DecidableEq

/-- Whether a window slides, or starts anew. -/
inductive QuotaWindowResetMode
  | rolling
  | calendar
  deriving DecidableEq

def QuotaWindowUnit.text : QuotaWindowUnit → String
  | hour => "hour"
  | day => "day"
  | week => "week"
  | month => "month"
  | year => "year"
  | custom => "custom"

def QuotaWindowResetMode.text : QuotaWindowResetMode → String
  | rolling => "rolling"
  | calendar => "calendar"

/-- The longest window: exact-second arithmetic stays below the overflow limits. -/
def maxSubscriptionQuotaWindowSeconds : ℤ := 100 * 366 * 24 * 60 * 60

/-- A quota window as persisted: `type`, `period` and `unit` are aliases, and so
    are `amount`, `limit` and `quota`, the two counts of units, and the three
    lengths in seconds. -/
structure SubscriptionQuotaWindow where
  (type period unit : String := "")
  (amount limit quota duration durationValue windowSeconds customSeconds durationSeconds : ℤ := 0)
  resetMode : String := ""
  (calendar rolling : Bool := false)
  name : String := ""
  deriving DecidableEq

/-- The limit of a window. -/
structure SubscriptionQuotaWindowPolicy where
  unit : QuotaWindowUnit
  amount : ℤ
  /-- The count of units. -/
  duration : ℤ
  windowSeconds : ℤ
  resetMode : QuotaWindowResetMode
  name : String := ""
  deriving DecidableEq

/-! ## Folding the aliases -/

/-- The unit a text names: `none` for an unknown one, `some none` for no unit. -/
@[irreducible]
def normalizeSubscriptionQuotaWindowUnit (raw : String) : Option (Option QuotaWindowUnit) :=
  match toLower (trimSpace raw) with
  | "" => some none
  | "5h" | "5hour" | "5_hours" | "five_hour" | "five-hours" | "hour" | "hourly" | "hours" =>
    some (some .hour)
  | "day" | "daily" | "days" => some (some .day)
  | "week" | "weekly" | "weeks" => some (some .week)
  | "month" | "monthly" | "months" => some (some .month)
  | "year" | "yearly" | "years" | "annual" | "annually" => some (some .year)
  | "custom" | "seconds" | "second" | "duration" => some (some .custom)
  | _ => none

/-- The length of a unit in seconds; months and years have a nominal one. -/
def quotaWindowNominalUnitSeconds : QuotaWindowUnit → ℤ
  | .hour => 60 * 60
  | .day => 24 * 60 * 60
  | .week => 7 * 24 * 60 * 60
  | .month => 30 * 24 * 60 * 60
  | .year => 365 * 24 * 60 * 60
  | .custom => 0

/-- The value that the aliases agree on, `selected` being the one found so far:
    none of them may be negative, and zero stands for an omitted one. -/
def pickPositiveQuotaWindowAlias (selected : ℤ) : List ℤ → Option ℤ
  | [] => some selected
  | value :: rest =>
    if value < 0 then none
    else if value = 0 then pickPositiveQuotaWindowAlias selected rest
    else if selected ≠ 0 ∧ selected ≠ value then none
    else pickPositiveQuotaWindowAlias value rest

/-- The unit that the texts agree on, `unit` being the one found so far. -/
def pickQuotaWindowUnit (unit : Option QuotaWindowUnit) :
    List String → Option (Option QuotaWindowUnit)
  | [] => some unit
  | raw :: rest =>
    match normalizeSubscriptionQuotaWindowUnit raw with
    | none => none
    | some none => pickQuotaWindowUnit unit rest
    | some (some normalized) =>
      if unit ≠ none ∧ unit ≠ some normalized then none
      else pickQuotaWindowUnit (some normalized) rest

/-- The reset mode of a window: the text and the two flags must not disagree, and
    the calendar units default to the calendar. -/
@[irreducible]
def pickQuotaWindowResetMode (raw : String) (calendar rolling : Bool) (unit : QuotaWindowUnit) :
    Option QuotaWindowResetMode :=
  if calendar ∧ rolling then none
  else match toLower (trimSpace raw) with
    | "" =>
      if calendar then some .calendar
      else if rolling then some .rolling
      else match unit with
        | .day | .week | .month | .year => some .calendar
        | .hour | .custom => some .rolling
    | "calendar" => if rolling then none else some .calendar
    | "rolling" => if calendar then none else some .rolling
    | _ => none

@[irreducible]
def isFiveHourAlias (raw : String) : Bool :=
  match toLower (trimSpace raw) with
  | "5h" | "5hour" | "5_hours" | "five_hour" | "five-hours" => true
  | _ => false

/-- The count of units of a window that is `seconds` long, or has `count` units;
    one unit by default, or the five hours that a text spelled out. -/
def quotaWindowCount (baseSeconds count seconds : ℤ) (fiveHour : Bool) : ℤ :=
  if count > 0 then count
  else if seconds > 0 then seconds.tdiv baseSeconds
  else if fiveHour then 5
  else 1

/-- The count of units of a window and its length in seconds, from those given. -/
def quotaWindowSpan (unit : QuotaWindowUnit) (count seconds : ℤ) (fiveHour : Bool) :
    Option (ℤ × ℤ) :=
  let baseSeconds := quotaWindowNominalUnitSeconds unit
  let unitCount := quotaWindowCount baseSeconds count seconds fiveHour
  if unit = .custom then
    if seconds ≤ 0 ∨ count > 1 ∨ seconds > maxSubscriptionQuotaWindowSeconds then none
    else some (1, seconds)
  else if count ≤ 0 ∧ seconds > 0 ∧ seconds.tmod baseSeconds ≠ 0 then none
  else if unitCount > maxSubscriptionQuotaWindowSeconds.tdiv baseSeconds then none
  else if seconds > 0 ∧ seconds ≠ unitCount * baseSeconds then none
  else some (unitCount, unitCount * baseSeconds)

namespace SubscriptionQuotaWindowPolicy

/-- The windows that folding the aliases gives. -/
structure Canonical (w : SubscriptionQuotaWindowPolicy) : Prop where
  amount_pos : 0 < w.amount
  duration_pos : 0 < w.duration
  windowSeconds_pos : 0 < w.windowSeconds
  windowSeconds_le : w.windowSeconds ≤ maxSubscriptionQuotaWindowSeconds
  duration_of_custom : w.unit = .custom → w.duration = 1
  windowSeconds_of_unit : w.unit ≠ .custom →
    w.windowSeconds = w.duration * quotaWindowNominalUnitSeconds w.unit
  name_trimmed : trimSpace w.name = w.name

end SubscriptionQuotaWindowPolicy

/-- A window together with the fact that it is canonical. -/
abbrev CanonicalWindow := {w : SubscriptionQuotaWindowPolicy // w.Canonical}

variable {count : ℤ}

lemma quotaWindowSpan_eq_some {unit : QuotaWindowUnit} {seconds c s : ℤ} {fiveHour : Bool}
    (h : quotaWindowSpan unit count seconds fiveHour = some (c, s)) :
    (unit = .custom → c = 1) ∧ (unit ≠ .custom → s = c * quotaWindowNominalUnitSeconds unit) := by
  simp only [quotaWindowSpan] at h
  split_ifs at h with hu <;> simp only [some.injEq, Prod.mk.injEq] at h
  · exact ⟨fun _ => h.1.symm, fun h' => absurd hu h'⟩
  · exact ⟨fun h' => absurd h' hu, fun _ => by rw [← h.1, ← h.2]⟩

namespace SubscriptionQuotaWindow

/-- The window with its aliases folded, `none` when they do not describe a
    positive window. -/
@[irreducible]
def canonical (w : SubscriptionQuotaWindow) : Option CanonicalWindow :=
  match pickQuotaWindowUnit none [w.type, w.period, w.unit] with
  | none | some none => none
  | some (some unit) =>
    match pickPositiveQuotaWindowAlias 0 [w.amount, w.limit, w.quota],
      pickPositiveQuotaWindowAlias 0 [w.duration, w.durationValue],
      pickPositiveQuotaWindowAlias 0 [w.windowSeconds, w.customSeconds, w.durationSeconds],
      pickQuotaWindowResetMode w.resetMode w.calendar w.rolling unit with
    | some amount, some count, some seconds, some resetMode =>
      if hamount : amount ≤ 0 then none
      else
        match hspan : quotaWindowSpan unit count seconds
          ([w.type, w.period, w.unit].any isFiveHourAlias) with
        | none => none
        | some (count, seconds) =>
          if hc : count ≤ 0 ∨ seconds ≤ 0 ∨ seconds > maxSubscriptionQuotaWindowSeconds then none
          else some ⟨⟨unit, amount, count, seconds, resetMode, trimSpace w.name⟩,
            { amount_pos := not_le.1 hamount
              duration_pos := not_le.1 fun h => hc (.inl h)
              windowSeconds_pos := not_le.1 fun h => hc (.inr (.inl h))
              windowSeconds_le := not_lt.1 fun h => hc (.inr (.inr h))
              duration_of_custom := (quotaWindowSpan_eq_some hspan).1
              windowSeconds_of_unit := (quotaWindowSpan_eq_some hspan).2
              name_trimmed := trimSpace_trimSpace w.name }⟩
    | _, _, _, _ => none

end SubscriptionQuotaWindow

/-- The window with all its aliases filled in. -/
def SubscriptionQuotaWindowPolicy.toWindow (w : SubscriptionQuotaWindowPolicy) :
    SubscriptionQuotaWindow where
  type := w.unit.text
  period := w.unit.text
  unit := w.unit.text
  amount := w.amount
  limit := w.amount
  quota := w.amount
  duration := w.duration
  durationValue := w.duration
  windowSeconds := w.windowSeconds
  customSeconds := w.windowSeconds
  durationSeconds := w.windowSeconds
  resetMode := w.resetMode.text
  calendar := w.resetMode = .calendar
  rolling := w.resetMode = .rolling
  name := w.name

/-- The window in canonical values, if its aliases describe a positive window. -/
def SubscriptionQuotaWindow.normalize (w : SubscriptionQuotaWindow) :
    Option SubscriptionQuotaWindow :=
  w.canonical.map fun c => c.1.toWindow

/-! ### Canonical windows are fixed -/

lemma normalizeUnit_text (u : QuotaWindowUnit) :
    normalizeSubscriptionQuotaWindowUnit u.text = some (some u) := by
  cases u <;> decide +kernel

lemma isFiveHourAlias_text (u : QuotaWindowUnit) : isFiveHourAlias u.text = false := by
  cases u <;> decide +kernel

lemma pickQuotaWindowUnit_text (u : QuotaWindowUnit) :
    pickQuotaWindowUnit none [u.text, u.text, u.text] = some (some u) := by
  simp [pickQuotaWindowUnit, normalizeUnit_text]

lemma pickQuotaWindowResetMode_text (m : QuotaWindowResetMode) (u : QuotaWindowUnit) :
    pickQuotaWindowResetMode m.text (m = .calendar) (m = .rolling) u = some m := by
  cases m <;> cases u <;> decide +kernel

lemma pickPositive_replicate {v : ℤ} (hv : 0 < v) (n : ℕ) :
    pickPositiveQuotaWindowAlias 0 (replicate (n + 1) v) = some v := by
  have h (n : ℕ) : pickPositiveQuotaWindowAlias v (replicate n v) = some v := by
    induction n with
    | zero => rfl
    | succ n ih => simp [replicate_succ, pickPositiveQuotaWindowAlias, ih, hv.le]
  rw [replicate_succ, pickPositiveQuotaWindowAlias, if_neg (by omega), if_neg (by omega),
    if_neg (by simp), h n]

lemma quotaWindowNominalUnitSeconds_pos {u : QuotaWindowUnit} (hu : u ≠ .custom) :
    0 < quotaWindowNominalUnitSeconds u := by
  cases u <;> first | decide | exact absurd rfl hu

lemma not_gt_of_mul_le {count unitSeconds : ℤ} (hu : 0 < unitSeconds)
    (hle : count * unitSeconds ≤ maxSubscriptionQuotaWindowSeconds) :
    ¬ count > maxSubscriptionQuotaWindowSeconds.tdiv unitSeconds := by
  rw [not_lt, Int.tdiv_eq_ediv_of_nonneg (by decide), Int.le_ediv_iff_mul_le hu]
  exact hle

lemma quotaWindowSpan_canonical (w : CanonicalWindow) :
    quotaWindowSpan w.1.unit w.1.duration w.1.windowSeconds false =
      some (w.1.duration, w.1.windowSeconds) := by
  obtain ⟨w, hw⟩ := w
  have hd := hw.duration_pos
  have hs := hw.windowSeconds_pos
  have hm := hw.windowSeconds_le
  by_cases hu : w.unit = .custom
  · have hd₁ := hw.duration_of_custom hu
    simp only [quotaWindowSpan, if_pos hu, hd₁]
    rw [if_neg (by omega)]
  · have hb := quotaWindowNominalUnitSeconds_pos hu
    have heq := hw.windowSeconds_of_unit hu
    simp only [quotaWindowSpan, quotaWindowCount, if_pos hd, if_neg hu, ← heq]
    rw [if_neg (by omega), if_neg (not_gt_of_mul_le hb (heq ▸ hm)), if_neg (by simp)]

lemma canonical_toWindow (w : CanonicalWindow) : w.1.toWindow.canonical = some w := by
  have ha := pickPositive_replicate w.2.amount_pos 2
  have hd := pickPositive_replicate w.2.duration_pos 1
  have hs := pickPositive_replicate w.2.windowSeconds_pos 2
  simp only [replicate_succ, replicate_zero] at ha hd hs
  have hspan := quotaWindowSpan_canonical w
  have hany : [w.1.unit.text, w.1.unit.text, w.1.unit.text].any isFiveHourAlias = false := by
    simp [isFiveHourAlias_text]
  rw [← hany] at hspan
  simp only [SubscriptionQuotaWindow.canonical, SubscriptionQuotaWindowPolicy.toWindow,
    pickQuotaWindowUnit_text, ha, hd, hs, pickQuotaWindowResetMode_text]
  rw [dif_neg (not_le.2 w.2.amount_pos)]
  split
  case h_1 h => exact absurd (hspan.symm.trans h) (by simp)
  case h_2 c s h =>
    obtain ⟨rfl, rfl⟩ : w.1.duration = c ∧ w.1.windowSeconds = s := by
      simpa using hspan.symm.trans h
    have := w.2.duration_pos
    have := w.2.windowSeconds_pos
    have := w.2.windowSeconds_le
    rw [dif_neg (by omega)]
    simp only [w.2.name_trimmed]

/-! ## Lists of windows -/

/-- What two windows of a list must differ in, not to be duplicates. The source
    prints the five values into one text, separated by colons; only the last one,
    the name, can hold a colon itself. -/
def SubscriptionQuotaWindowPolicy.key (w : SubscriptionQuotaWindowPolicy) :
    QuotaWindowUnit × ℤ × ℤ × QuotaWindowResetMode × String :=
  (w.unit, w.windowSeconds, w.amount, w.resetMode, w.name)

/-- The windows of a list in canonical values, the `seen` ones and those that are
    no positive window left out. -/
def normalizeQuotaWindowListFrom
    (seen : List (QuotaWindowUnit × ℤ × ℤ × QuotaWindowResetMode × String)) :
    List SubscriptionQuotaWindow → List SubscriptionQuotaWindow
  | [] => []
  | item :: rest =>
    match item.canonical with
    | none => normalizeQuotaWindowListFrom seen rest
    | some c =>
      if c.1.key ∈ seen then normalizeQuotaWindowListFrom seen rest
      else c.1.toWindow :: normalizeQuotaWindowListFrom (c.1.key :: seen) rest

/-- The windows of a list in canonical values, without duplicates. -/
def normalizeQuotaWindowList (list : List SubscriptionQuotaWindow) : List SubscriptionQuotaWindow :=
  normalizeQuotaWindowListFrom [] list

def normalizedQuotaWindowPolicies (list : List SubscriptionQuotaWindow) : List CanonicalWindow :=
  (normalizeQuotaWindowList list).filterMap fun item => item.canonical

def quotaWindowListHasInvalidEntry (list : List SubscriptionQuotaWindow) : Bool :=
  list.any fun item => item.canonical.isNone

variable {list : List SubscriptionQuotaWindow}

lemma exists_eq_toWindow_of_mem {item : SubscriptionQuotaWindow}
    {seen : List (QuotaWindowUnit × ℤ × ℤ × QuotaWindowResetMode × String)}
    (h : item ∈ normalizeQuotaWindowListFrom seen list) :
      ∃ c : CanonicalWindow, item = c.1.toWindow := by
  induction list generalizing seen with
  | nil => exact absurd h not_mem_nil
  | cons x list ih =>
    rw [normalizeQuotaWindowListFrom] at h
    split at h
    · exact ih h
    · split_ifs at h
      · exact ih h
      · rcases mem_cons.1 h with rfl | h
        · exact ⟨_, rfl⟩
        · exact ih h

lemma quotaWindowListHasInvalidEntry_normalized (list : List SubscriptionQuotaWindow) :
    quotaWindowListHasInvalidEntry (normalizeQuotaWindowList list) = false := by
  rw [quotaWindowListHasInvalidEntry, List.any_eq_false]
  intro item hitem
  obtain ⟨c, rfl⟩ := exists_eq_toWindow_of_mem hitem
  simp [canonical_toWindow]

/-- No window is lost on the way to those enforced. -/
lemma normalizedQuotaWindowPolicies_eq_nil :
    normalizedQuotaWindowPolicies list = [] ↔ normalizeQuotaWindowList list = [] := by
  rw [normalizedQuotaWindowPolicies, filterMap_eq_nil_iff]
  refine ⟨fun h => eq_nil_iff_forall_not_mem.2 fun item hitem => ?_, fun h => by simp [h]⟩
  obtain ⟨c, rfl⟩ := exists_eq_toWindow_of_mem hitem
  simpa [canonical_toWindow] using h _ hitem

/-! ## Bounds -/

/-- The first Monday of the epoch, 1970-01-05. -/
def mondayAnchor : ℤ := 4 * 24 * 60 * 60

/-- The bucket of `now`, of `period` seconds, counted from `anchor`; `none` when
    some step of the computation overflows. -/
def bucketBounds (period anchor now : ℤ) : Option (ℤ × ℤ) := do
  let elapsed ← subscriptionSafeAddInt64 now (-anchor)
  let aligned ← subscriptionSafeMulInt64 (floorDivInt64 elapsed period) period
  let startUnix ← subscriptionSafeAddInt64 anchor aligned
  some (startUnix, subscriptionSafeWindowEnd startUnix period)

/-- The bucket of `now`, of `count` units of `unitSeconds`. -/
def alignedBounds (unitSeconds count anchor now : ℤ) : Option (ℤ × ℤ) :=
  if count > maxSubscriptionQuotaWindowSeconds.tdiv unitSeconds then none
  else do
    let period ← subscriptionSafeMulInt64 count unitSeconds
    if period ≤ 0 then none else bucketBounds period anchor now

/-- The `count` months from the first of a month that `now` lies in, in universal
    time. Months are counted from January of year 0. -/
def monthBounds (count now : ℤ) : Option (ℤ × ℤ) :=
  if count > maxSubscriptionQuotaWindowSeconds.tdiv (quotaWindowNominalUnitSeconds .month) then none
  else do
    let yearPart ← subscriptionSafeMulInt64 (yearOf (dayOf now)) 12
    let monthIndex ← subscriptionSafeAddInt64 yearPart (monthOf (dayOf now) % 12)
    let startIndex ← subscriptionSafeMulInt64 (floorDivInt64 monthIndex count) count
    let startMonthIndex := startIndex.tmod 12
    let (startYear, startMonth) ←
      if startMonthIndex < 0 then
        (subscriptionSafeAddInt64 (startIndex.tdiv 12) (-1)).map fun y => (y, startMonthIndex + 12)
      else some (startIndex.tdiv 12, startMonthIndex)
    let index := 12 * startYear + startMonth
    some (monthStart index * 86400, monthStart (index + count) * 86400)

/-- The `count` years that `now` lies in, in universal time. -/
def yearBounds (count now : ℤ) : Option (ℤ × ℤ) :=
  if count > maxSubscriptionQuotaWindowSeconds.tdiv (quotaWindowNominalUnitSeconds .year) then none
  else do
    let startYear ← subscriptionSafeMulInt64 (floorDivInt64 (yearOf (dayOf now)) count) count
    some (yearStart startYear * 86400, yearStart (startYear + count) * 86400)

/-- The bucket of `now`, of `windowSeconds`, counted from the issuance at `anchor`. -/
def customBounds (windowSeconds anchor now : ℤ) : Option (ℤ × ℤ) :=
  if anchor ≤ 0 ∨ anchor > now then none else bucketBounds windowSeconds anchor now

/-- The calendar interval of a window that `now` lies in. -/
def calendarBounds (window : SubscriptionQuotaWindowPolicy) (now anchor : ℤ) : Option (ℤ × ℤ) :=
  let count := if window.duration ≤ 0 then 1 else window.duration
  match window.unit with
  | .hour => alignedBounds (60 * 60) count 0 now
  | .day => alignedBounds (24 * 60 * 60) count 0 now
  | .week => alignedBounds (7 * 24 * 60 * 60) count mondayAnchor now
  | .month => monthBounds count now
  | .year => yearBounds count now
  | .custom => customBounds window.windowSeconds anchor now

/-- The rolling boundary `(start, now)` of a window, whose members are those of
    `(start, now]`, or the calendar interval `[start, end)`. Whatever cannot be
    computed is the empty interval at `now`. -/
def quotaWindowBounds (window : SubscriptionQuotaWindowPolicy) (now anchor : ℤ) : ℤ × ℤ :=
  if window.windowSeconds ≤ 0 ∨ window.windowSeconds > maxSubscriptionQuotaWindowSeconds then
    (now, now)
  else match window.resetMode with
    | .rolling => ((subscriptionSafeAddInt64 now (-window.windowSeconds)).getD minInt64, now)
    | .calendar =>
      match calendarBounds window now anchor with
      | none => (now, now)
      | some (startUnix, endUnix) => if endUnix ≤ startUnix then (now, now)
        else (startUnix, endUnix)

/-! ### The bounds are those of an interval or of a grid -/

/-- The seconds of a database clock: positive, and far from the last `int64`, so
    that a window that contains one ends before it. -/
def IsTimestamp (t : ℤ) : Prop := 0 < t ∧ t < 2 ^ 62

instance (t : ℤ) : Decidable (IsTimestamp t) := inferInstanceAs (Decidable (_ ∧ _))

lemma IsTimestamp.isInt64_add {t d : ℤ} (ht : IsTimestamp t) (h₁ : -2 ^ 62 ≤ d) (h₂ : d ≤ 2 ^ 62) :
    IsInt64 (t + d) :=
  isInt64_of_lt ⟨by linarith [ht.1], by linarith [ht.2]⟩

lemma IsTimestamp.isInt64 {t : ℤ} (ht : IsTimestamp t) : IsInt64 t := by
  simpa using ht.isInt64_add (d := 0) (by norm_num) (by norm_num)

/-- The longest window, doubled, is within the time left to a timestamp. -/
lemma two_mul_maxWindow_lt : 2 * maxSubscriptionQuotaWindowSeconds < 2 ^ 61 := by
  decide

variable {now anchor : ℤ} {w : SubscriptionQuotaWindowPolicy}

lemma quotaWindowBounds_rolling (hmode : w.resetMode = .rolling)
    (hpos : 0 < w.windowSeconds) (hle : w.windowSeconds ≤ maxSubscriptionQuotaWindowSeconds)
    (hnow : IsTimestamp now) : quotaWindowBounds w now anchor = (now - w.windowSeconds, now) := by
  have hmax := two_mul_maxWindow_lt
  have hfit : IsInt64 (now + -w.windowSeconds) := hnow.isInt64_add (by omega) (by omega)
  rw [quotaWindowBounds, if_neg (by omega), hmode]
  simp only [safeAdd_of_fits hnow.isInt64 hfit, getD_some, sub_eq_add_neg]

lemma bucketBounds_eq {period : ℤ} (hp : 0 < period)
    (hle : period ≤ maxSubscriptionQuotaWindowSeconds) (ha : 0 ≤ anchor ∧ anchor < 2 ^ 62)
    (hnow : IsTimestamp now) : bucketBounds period anchor now =
      some ((every period anchor hp).start now, (every period anchor hp).stop now) := by
  have hmax := two_mul_maxWindow_lt
  have hn₁ := hnow.1
  have hn₂ := hnow.2
  obtain ⟨k, hk⟩ : ∃ k, (now - anchor) / period = k := ⟨_, rfl⟩
  -- The bucket starts at most one period before `now`.
  have h₁ := hk ▸ Int.ediv_mul_le _ hp.ne'
  have h₂ : now - anchor < k * period + period := by
    have := Int.lt_ediv_add_one_mul_self (now - anchor) hp
    rw [hk, add_mul, one_mul] at this
    exact this
  have hk₁ : -2 ^ 62 ≤ k := by nlinarith
  have hk₂ : k < 2 ^ 62 := by nlinarith
  have hp' : IsInt64 period := isInt64_of_lt (by omega)
  have helapsed : subscriptionSafeAddInt64 now (-anchor) = some (now - anchor) :=
    safeAdd_of_fits hnow.isInt64 (isInt64_of_lt (by omega))
  have haligned : subscriptionSafeMulInt64 k period = some (k * period) :=
    safeMul_of_fits (isInt64_of_lt (by omega)) hp' (isInt64_of_lt (by omega))
  have hstart : subscriptionSafeAddInt64 anchor (k * period) = some (anchor + k * period) :=
    safeAdd_of_fits (isInt64_of_lt (by omega)) (isInt64_of_lt (by omega))
  have hend : subscriptionSafeWindowEnd (anchor + k * period) period = anchor + (k + 1) *
      period := by
    rw [subscriptionSafeWindowEnd, safeAdd_of_fits (isInt64_of_lt (by omega))
      (isInt64_of_lt (by omega)), add_mul, one_mul, add_assoc]
  simp only [bucketBounds, helapsed, floorDivInt64_eq hp, hk, haligned, hstart, hend,
    bind_eq_bind, bind_some, start, stop, every]

lemma alignedBounds_eq {unitSeconds : ℤ} (hu : 0 < unitSeconds) (hc : 0 < count)
    (hle : count * unitSeconds ≤ maxSubscriptionQuotaWindowSeconds)
    (ha : 0 ≤ anchor ∧ anchor < 2 ^ 62) (hnow : IsTimestamp now) :
      alignedBounds unitSeconds count anchor now =
      some ((every (count * unitSeconds) anchor (mul_pos hc hu)).start now,
        (every (count * unitSeconds) anchor (mul_pos hc hu)).stop now) := by
  have hmax := two_mul_maxWindow_lt
  have hp := mul_pos hc hu
  have hperiod : subscriptionSafeMulInt64 count unitSeconds = some (count * unitSeconds) :=
    safeMul_of_fits (isInt64_of_lt ⟨by omega, by nlinarith⟩)
      (isInt64_of_lt ⟨by omega, by nlinarith⟩) (isInt64_of_lt (by omega))
  rw [alignedBounds, if_neg (not_gt_of_mul_le hu hle), hperiod, bind_eq_bind, bind_some,
    if_neg (not_le.2 hp), bucketBounds_eq hp hle ha hnow]

/-- The years and months of a timestamp are those of an `int64`. -/
lemma yearOf_dayOf_bounds (hnow : IsTimestamp now) : 1970 ≤ yearOf (dayOf now) ∧
    yearOf (dayOf now) < 2 ^ 48 := by
  have hd : 0 ≤ dayOf now ∧ dayOf now < 2 ^ 47 := by
    have := hnow.1
    have := hnow.2
    unfold dayOf
    omega
  have := yearOf_bounds hd.1
  omega

/-- The bucket that a year or a month is in is that of an `int64`. -/
lemma safeMul_bucket {n : ℤ} (hn : 0 ≤ n ∧ n < 2 ^ 52) (hc : 0 < count) (hc' : count ≤ 2 ^ 48) :
    0 ≤ n / count * count ∧ subscriptionSafeMulInt64 (n / count) count =
      some (n / count * count) := by
  have h₀ := Int.ediv_nonneg hn.1 hc.le
  have h₁ := Int.ediv_le_self count hn.1
  have hmul₀ := mul_nonneg h₀ hc.le
  have hmul₁ := Int.ediv_mul_le n hc.ne'
  exact ⟨hmul₀, safeMul_of_fits (isInt64_of_lt (by omega))
    (isInt64_of_lt (by omega)) (isInt64_of_lt (by omega))⟩

lemma yearBounds_eq (hc : 0 < count)
    (hle : count * quotaWindowNominalUnitSeconds .year ≤ maxSubscriptionQuotaWindowSeconds)
    (hnow : IsTimestamp now) :
    yearBounds count now = some ((years.coarsen count hc).start now,
      (years.coarsen count hc).stop now) := by
  have hy := yearOf_dayOf_bounds hnow
  have hc' : count * 31536000 ≤ 3162240000 := hle
  obtain ⟨-, hstart⟩ := safeMul_bucket (n := yearOf (dayOf now)) (by omega) hc (by omega)
  rw [yearBounds, if_neg (not_gt_of_mul_le (by decide) hle), floorDivInt64_eq hc, hstart]
  simp only [bind_eq_bind, bind_some, start, stop, coarsen, years, add_mul, one_mul]

lemma monthBounds_eq (hc : 0 < count)
    (hle : count * quotaWindowNominalUnitSeconds .month ≤ maxSubscriptionQuotaWindowSeconds)
    (hnow : IsTimestamp now) :
    monthBounds count now = some ((months.coarsen count hc).start now,
      (months.coarsen count hc).stop now) := by
  have hy := yearOf_dayOf_bounds hnow
  have hc' : count * 2592000 ≤ 3162240000 := hle
  obtain ⟨m, hm⟩ : ∃ m, monthOf (dayOf now) = m := ⟨_, rfl⟩
  have hdiv : yearOf (dayOf now) = m / 12 := by rw [← hm, monthOf_div]
  obtain ⟨-, hyear⟩ := safeMul_bucket (n := m) (by omega) (by decide : (0 : ℤ) < 12) (by decide)
  have hmonth : subscriptionSafeAddInt64 (m / 12 * 12) (m % 12) = some m := by
    rw [safeAdd_of_fits (isInt64_of_lt (by omega))
      (isInt64_of_lt (by omega)), Int.ediv_mul_add_emod]
  obtain ⟨hpos, hstart⟩ := safeMul_bucket (n := m) (by omega) hc (by omega)
  -- The month the bucket starts in is not before year 0, so nothing is carried.
  have hmod : ¬ (m / count * count).tmod 12 < 0 := by
    rw [Int.tmod_eq_emod_of_nonneg hpos]
    omega
  have hindex : 12 * (m / count * count).tdiv 12 + (m / count * count).tmod 12 =
      m / count * count :=
    Int.mul_tdiv_add_tmod _ _
  rw [monthBounds, if_neg (not_gt_of_mul_le (by decide) hle), hdiv, hyear]
  simp only [bind_eq_bind, bind_some, hmonth, floorDivInt64_eq hc, hstart, if_neg hmod,
    hindex, start, stop, coarsen, months, hm, add_mul, one_mul]

/-- The grid of buckets that a calendar window cuts the time line into; the
    buckets of a custom window are counted from the issuance at `anchor`. -/
def CanonicalWindow.grid (w : CanonicalWindow) (anchor : ℤ) : Grid :=
  match w.1.unit with
  | .hour => .every (w.1.duration * (60 * 60)) 0 (mul_pos w.2.duration_pos (by norm_num))
  | .day => .every (w.1.duration * (24 * 60 * 60)) 0 (mul_pos w.2.duration_pos (by norm_num))
  | .week =>
    .every (w.1.duration * (7 * 24 * 60 * 60)) mondayAnchor (mul_pos w.2.duration_pos (by norm_num))
  | .month => months.coarsen w.1.duration w.2.duration_pos
  | .year => years.coarsen w.1.duration w.2.duration_pos
  | .custom => .every w.1.windowSeconds anchor w.2.windowSeconds_pos

lemma CanonicalWindow.start_anchor (w : CanonicalWindow) (hunit : w.1.unit = .custom) :
    (w.grid anchor).start anchor = anchor := by
  simp only [CanonicalWindow.grid, hunit]
  exact start_every_anchor _ _ w.2.windowSeconds_pos

lemma calendarBounds_eq (w : CanonicalWindow) (hnow : IsTimestamp now)
    (hcustom : w.1.unit = .custom → 0 < anchor ∧ anchor ≤ now) :
    calendarBounds w.1 now anchor = some ((w.grid anchor).start now, (w.grid anchor).stop now) := by
  obtain ⟨⟨unit, amount, duration, seconds, mode, name⟩, hw⟩ := w
  have hd := not_le.2 hw.duration_pos
  have hle (h : unit ≠ .custom) : duration * quotaWindowNominalUnitSeconds unit ≤
      maxSubscriptionQuotaWindowSeconds :=
    hw.windowSeconds_of_unit h ▸ hw.windowSeconds_le
  simp only [calendarBounds, if_neg hd]
  cases unit with
  | hour | day | week =>
    exact alignedBounds_eq (by norm_num) hw.duration_pos (hle (by decide)) (by decide) hnow
  | month => exact monthBounds_eq hw.duration_pos (hle (by decide)) hnow
  | year => exact yearBounds_eq hw.duration_pos (hle (by decide)) hnow
  | custom =>
    obtain ⟨h₁, h₂⟩ := hcustom rfl
    rw [customBounds, if_neg (by omega)]
    exact bucketBounds_eq hw.windowSeconds_pos hw.windowSeconds_le ⟨h₁.le, h₂.trans_lt hnow.2⟩ hnow

lemma quotaWindowBounds_calendar (w : CanonicalWindow) (hmode : w.1.resetMode = .calendar)
    (hnow : IsTimestamp now) (hcustom : w.1.unit = .custom → 0 < anchor ∧ anchor ≤ now) :
    quotaWindowBounds w.1 now anchor = ((w.grid anchor).start now, (w.grid anchor).stop now) := by
  have hpos := w.2.windowSeconds_pos
  have hle := w.2.windowSeconds_le
  have hlt := (w.grid anchor).start_le.trans_lt ((w.grid anchor).lt_stop (t := now))
  rw [quotaWindowBounds, if_neg (by omega), hmode]
  simp only [calendarBounds_eq w hnow hcustom]
  rw [if_neg (not_le.2 hlt)]

/-- A custom window that is not anchored up to `now` is empty. -/
lemma quotaWindowBounds_of_unanchored (hmode : w.resetMode = .calendar)
    (hunit : w.unit = .custom) (hanchor : ¬(0 < anchor ∧ anchor ≤ now)) :
    quotaWindowBounds w now anchor = (now, now) := by
  have hnone : calendarBounds w now anchor = none := by
    simp only [calendarBounds, hunit, customBounds]
    rw [if_pos (by omega)]
  simp only [quotaWindowBounds, hmode, hnone]
  split_ifs <;> rfl

/-- The interval of a window moves forward with time. -/
lemma quotaWindowBounds_calendar_mono (w : CanonicalWindow)
    (hmode : w.1.resetMode = .calendar) {later : ℤ} (hnow : IsTimestamp now)
    (hlater : IsTimestamp later) (hle : now ≤ later) :
    (quotaWindowBounds w.1 now anchor).1 ≤ (quotaWindowBounds w.1 later anchor).1 := by
  by_cases hanchor : w.1.unit = .custom → 0 < anchor ∧ anchor ≤ now
  · rw [quotaWindowBounds_calendar w hmode hnow hanchor,
      quotaWindowBounds_calendar w hmode hlater fun h => ⟨(hanchor h).1, (hanchor h).2.trans hle⟩]
    exact (w.grid anchor).start_mono hle
  · obtain ⟨hunit, hanchor⟩ := Classical.not_imp.1 hanchor
    rw [quotaWindowBounds_of_unanchored hmode hunit hanchor]
    by_cases hanchor' : 0 < anchor ∧ anchor ≤ later
    · -- The first bucket starts at the anchor, after `now`.
      rw [quotaWindowBounds_calendar w hmode hlater fun _ => hanchor']
      have hstart := (w.grid anchor).start_mono hanchor'.2
      rw [w.start_anchor hunit] at hstart
      omega
    · rw [quotaWindowBounds_of_unanchored hmode hunit hanchor']
      exact hle

/-! ### The buckets of a calendar window -/

/-- Up to the year 9999, no bucket comes near the end of the `int64` range. -/
lemma CanonicalWindow.stop_lt (w : CanonicalWindow) (hnow : now < 2 ^ 40)
    (hyear : yearOf (dayOf now) ≤ 9999) : (w.grid anchor).stop now < 2 ^ 62 := by
  obtain ⟨⟨unit, amount, duration, seconds, mode, name⟩, hw⟩ := w
  have hmax := two_mul_maxWindow_lt
  have hle (h : unit ≠ .custom) : duration * quotaWindowNominalUnitSeconds unit ≤
      maxSubscriptionQuotaWindowSeconds :=
    hw.windowSeconds_of_unit h ▸ hw.windowSeconds_le
  have hevery (p a : ℤ) (hp : 0 < p) (hpmax : p ≤ maxSubscriptionQuotaWindowSeconds) :
      (every p a hp).stop now < 2 ^ 62 := by
    have := (every p a hp).start_le (t := now)
    rw [stop_every]
    linarith
  have hcoarsen (g : Grid) (k : ℤ) (hk : g.index now + duration ≤ k) (hlast : g.bound k < 2 ^ 62) :
      (g.coarsen duration hw.duration_pos).stop now < 2 ^ 62 :=
    ((g.stop_coarsen_le _ _).trans (g.bound_strictMono.monotone hk)).trans_lt hlast
  cases unit with
  | hour | day | week => exact hevery _ _ (mul_pos hw.duration_pos (by norm_num)) (hle (by decide))
  | month =>
    have hduration := hle (by decide)
    have hindex := monthOf_div (dayOf now)
    simp only [quotaWindowNominalUnitSeconds, maxSubscriptionQuotaWindowSeconds] at hduration
    exact hcoarsen months 200000 (by simp only [months]; omega) (by decide)
  | year =>
    have hduration := hle (by decide)
    simp only [quotaWindowNominalUnitSeconds, maxSubscriptionQuotaWindowSeconds] at hduration
    exact hcoarsen years 20000 (by simp only [years]; omega) (by decide)
  | custom => exact hevery _ _ hw.windowSeconds_pos hw.windowSeconds_le

/-- The buckets of a normalized calendar window, custom ones from their anchor on,
    partition the time after the epoch: an instant lies in its bucket, and all
    instants of the bucket have the same one. -/
theorem quotaWindowBounds_partition {item : SubscriptionQuotaWindow}
    {w : SubscriptionQuotaWindowPolicy} (hitem : item.canonical.map (·.1) = some w)
    (hmode : w.resetMode = .calendar) (hpos : 0 < now) (hyear : yearOf (dayOf now) ≤ 9999)
    (hcustom : w.unit = .custom → 0 < anchor ∧ anchor ≤ now) :
    (quotaWindowBounds w now anchor).1 ≤ now ∧ now < (quotaWindowBounds w now anchor).2 ∧
      ∀ now', 0 < now' → (quotaWindowBounds w now anchor).1 ≤ now' →
        now' < (quotaWindowBounds w now anchor).2 →
        quotaWindowBounds w now' anchor = quotaWindowBounds w now anchor := by
  obtain ⟨w, -, rfl⟩ := map_eq_some_iff.1 hitem
  have hday : dayOf now < yearStart 10000 :=
    (lt_yearStart_yearOf_succ _).trans_le (yearStart_strictMono.monotone (by omega))
  have hlast : now < 2 ^ 40 := by
    rw [show yearStart 10000 = 2932897 by decide] at hday
    unfold dayOf at hday
    omega
  have hnow : IsTimestamp now := ⟨hpos, hlast.trans (by norm_num)⟩
  have hstop : (w.grid anchor).stop now < 2 ^ 62 := w.stop_lt hlast hyear
  rw [quotaWindowBounds_calendar w hmode hnow hcustom]
  refine ⟨start_le _, lt_stop _, fun now' hpos' h₁ h₂ => ?_⟩
  -- A custom bucket does not start before its anchor.
  have hcustom' : w.1.unit = .custom → 0 < anchor ∧ anchor ≤ now' := by
    intro hunit
    have := (w.grid anchor).start_mono (hcustom hunit).2
    rw [w.start_anchor hunit] at this
    exact ⟨(hcustom hunit).1, by omega⟩
  rw [quotaWindowBounds_calendar w hmode ⟨hpos', h₂.trans hstop⟩ hcustom',
    start_eq_of_mem _ h₁ h₂, stop_eq_of_mem _ h₁ h₂]

def quarter : CanonicalWindow :=
  ⟨⟨.month, 5, 3, 3 * (30 * 24 * 60 * 60), .calendar, ""⟩, by constructor <;> decide +kernel⟩

/-- A window of three months. -/
theorem quotaWindowBounds_partition_quarter : (quotaWindowBounds quarter.1 1000 0).1 ≤ 1000 ∧
    1000 < (quotaWindowBounds quarter.1 1000 0).2 ∧ ∀ now', 0 < now' →
      (quotaWindowBounds quarter.1 1000 0).1 ≤ now' →
        now' < (quotaWindowBounds quarter.1 1000 0).2 →
      quotaWindowBounds quarter.1 now' 0 = quotaWindowBounds quarter.1 1000 0 :=
  quotaWindowBounds_partition (by rw [canonical_toWindow]; rfl) rfl
    (by decide) (by decide) (by decide)

/-- A custom window that was never anchored has no bucket, so `now` lies in none. -/
theorem quotaWindowBounds_unanchored_minute :
    ∃ w : CanonicalWindow, w.1.toWindow.canonical = some w ∧ w.1.resetMode = .calendar ∧
      w.1.unit = .custom ∧ (0 : ℤ) ≤ 100 ∧ ¬ 100 < (quotaWindowBounds w.1 100 0).2 :=
  ⟨⟨⟨.custom, 5, 1, 60, .calendar, ""⟩, by constructor <;> decide +kernel⟩,
    canonical_toWindow _, rfl, rfl, by decide, by decide⟩

end Allrouter
