import Allrouter.Subscription.Issue

/-!
# Normalizing a plan again

A plan is normalized wherever it is read, so often more than once, which
`NormalizeQuotaWindows` is meant to allow. It does, but for one kind of plan: a
custom mode whose length is missing names no window, so the first time only its
mode becomes generic; the second time, a generic mode without windows is taken
for an old row and gets a window of a week, or of its reset period
(`normalize_twice_iff`).
-/

namespace Allrouter

open Text Option QuotaWindowMode

lemma normalizeQuotaWindowListFrom_twice (list : List SubscriptionQuotaWindow)
    (seen : List (QuotaWindowUnit × ℤ × ℤ × QuotaWindowResetMode × String)) :
    normalizeQuotaWindowListFrom seen (normalizeQuotaWindowListFrom seen list) =
      normalizeQuotaWindowListFrom seen list := by
  induction list generalizing seen with
  | nil => rfl
  | cons item rest ih =>
    rw [normalizeQuotaWindowListFrom]
    split
    · exact ih seen
    · split_ifs with hseen
      · exact ih seen
      · rw [normalizeQuotaWindowListFrom, canonical_toWindow]
        simp only [if_neg hseen, ih]

/-- A length that makes a window of the unit, where `0` stands for one unit. -/
def FitsUnit (unit : QuotaWindowUnit) (seconds : ℤ) : Prop :=
  (unit = .custom → 0 < seconds ∧ seconds ≤ maxSubscriptionQuotaWindowSeconds) ∧
    (unit ≠ .custom → seconds = 0 ∨ seconds % quotaWindowNominalUnitSeconds unit = 0 ∧
      seconds ≤ maxSubscriptionQuotaWindowSeconds)

variable {unit : QuotaWindowUnit}

lemma quotaWindowSpan_scalar {seconds : ℤ} (hseconds : 0 ≤ seconds) :
    (∃ c s, quotaWindowSpan unit 0 seconds false = some (c, s) ∧
      ¬ (c ≤ 0 ∨ s ≤ 0 ∨ s > maxSubscriptionQuotaWindowSeconds)) ↔ FitsUnit unit seconds := by
  rw [FitsUnit]
  by_cases hunit : unit = .custom
  · simp only [quotaWindowSpan, hunit]
    split_ifs <;> simp <;> omega
  · have hb := quotaWindowNominalUnitSeconds_pos hunit
    have hbmax : quotaWindowNominalUnitSeconds unit ≤ maxSubscriptionQuotaWindowSeconds := by
      cases unit <;> decide
    simp only [quotaWindowSpan, quotaWindowCount]
    generalize quotaWindowNominalUnitSeconds unit = base at hb hbmax ⊢
    have hcount (k : ℤ) : k > maxSubscriptionQuotaWindowSeconds.tdiv base ↔
        k * base > maxSubscriptionQuotaWindowSeconds := by
      rw [gt_iff_lt, gt_iff_lt, ← not_le, ← not_le, Int.tdiv_eq_ediv_of_nonneg (by decide),
        Int.le_ediv_iff_mul_le hb]
    simp only [hcount, Int.tmod_eq_emod_of_nonneg hseconds, Int.tdiv_eq_ediv_of_nonneg hseconds]
    rcases hseconds.eq_or_lt with rfl | hpos
    · simp [hb, hbmax]
    · by_cases hmod : seconds % base = 0
      · have hk := Int.ediv_mul_cancel (Int.dvd_of_emod_eq_zero hmod)
        have hkpos := Int.ediv_pos_of_pos_of_dvd hpos hb.le (Int.dvd_of_emod_eq_zero hmod)
        split_ifs <;> simp [hunit] <;> omega
      · simp [hpos, hmod, hpos.ne', hunit]

/-- When the window that stands for a scalar mode is a proper one. -/
lemma normalize_scalar_isSome {amount seconds : ℤ} {mode : String}
    (hmode : mode = "" ∨ mode = "rolling") : (SubscriptionQuotaWindow.normalize
      { type := unit.text, amount := amount, windowSeconds := seconds, resetMode := mode }).isSome ↔
      0 < amount ∧ 0 ≤ seconds ∧ FitsUnit unit seconds := by
  have hunit : pickQuotaWindowUnit none [unit.text, "", ""] = some (some unit) := by
    cases unit <;> decide +kernel
  have hfive : [unit.text, "", ""].any isFiveHourAlias = false := by cases unit <;> decide +kernel
  obtain ⟨m, hm⟩ : ∃ m, pickQuotaWindowResetMode mode false false unit = some m := by
    rw [← isSome_iff_exists]
    rcases hmode with rfl | rfl <;> cases unit <;> decide +kernel
  have hpick (v : ℤ) : pickPositiveQuotaWindowAlias 0 [v, 0, 0] = if v < 0 then none
      else some v := by
    simp only [pickPositiveQuotaWindowAlias]
    split_ifs <;> simp_all
  simp only [SubscriptionQuotaWindow.normalize, isSome_map,
    SubscriptionQuotaWindow.canonical, hunit, hpick, hm,
      show pickPositiveQuotaWindowAlias 0 [0, 0] = some 0 from rfl]
  by_cases hpos : 0 < amount ∧ 0 ≤ seconds
  · rw [if_neg (by omega), if_neg (by omega)]
    simp only [dif_neg (not_le.2 hpos.1), hpos.1, hpos.2]
    split
    case h_1 h =>
      rw [hfive] at h
      simpa [h] using @quotaWindowSpan_scalar unit _ hpos.2
    case h_2 c s h =>
      rw [hfive] at h
      rw [← quotaWindowSpan_scalar hpos.2, h]
      split_ifs <;> simp <;> omega
  · refine iff_of_false ?_ fun h => hpos ⟨h.1, h.2.1⟩
    split_ifs <;> simp
    omega

namespace SubscriptionPlan

variable {p q : SubscriptionPlan} {unit : QuotaWindowUnit} {fiveHour : Bool}

/-- No amount is omitted where an alias gives it. -/
def Folded (q : SubscriptionPlan) : Prop :=
  (q.fiveHourAmount ≤ 0 → q.fiveHourQuota ≤ 0 ∧ q.fiveHourLimit ≤ 0) ∧
    (q.weeklyAmount ≤ 0 → q.weeklyQuota ≤ 0 ∧ q.weeklyLimit ≤ 0)

lemma folded_foldAmountAliases (p : SubscriptionPlan) : p.foldAmountAliases.Folded := by
  simp only [Folded, foldAmountAliases]
  constructor <;> split_ifs <;> omega

lemma Folded.fold_eq (hq : q.Folded) : q.foldAmountAliases = q := by
  have h₅ : q.foldAmountAliases.fiveHourAmount = q.fiveHourAmount := by
    have := hq.1
    simp only [foldAmountAliases]
    split_ifs <;> omega
  have hw : q.foldAmountAliases.weeklyAmount = q.weeklyAmount := by
    have := hq.2
    simp only [foldAmountAliases]
    split_ifs <;> omega
  calc q.foldAmountAliases
      = { q with fiveHourAmount := q.foldAmountAliases.fiveHourAmount
                 weeklyAmount := q.foldAmountAliases.weeklyAmount } := rfl
    _ = q := by rw [h₅, hw]

lemma normalize_of_windows (hmarker : q.quotaWindowsInvalid = false) (hne : q.quotaWindows ≠ [])
    (hlist : normalizeQuotaWindowList q.quotaWindows = q.quotaWindows)
    (hmode : q.quotaWindowMode = generic.text) (hq : q.Folded) : q.normalizeQuotaWindows = q := by
  have hentries := hlist ▸ quotaWindowListHasInvalidEntry_normalized _
  have hempty : q.quotaWindows.isEmpty = false := by simpa using hne
  simp only [normalizeQuotaWindows, hentries, hmarker, Bool.or_self]
  rw [← hmarker, hq.fold_eq]
  simp [hlist, hempty, ← hmode]

lemma normalize_of_no_windows (hmarker : q.quotaWindowsInvalid = false)
    (hnil : q.quotaWindows = []) :
    q.normalizeQuotaWindows = q.foldAmountAliases.normalizeMode := by
  have hq : { q.foldAmountAliases with quotaWindows := [], quotaWindowsInvalid := false } =
      q.foldAmountAliases := by
    conv_rhs => rw [foldAmountAliases]
    rw [← hnil, ← hmarker]
    rfl
  simp [normalizeQuotaWindows, hmarker, hnil, quotaWindowListHasInvalidEntry,
    normalizeQuotaWindowList, normalizeQuotaWindowListFrom, foldAmountAliases]

def scalarMode (q : SubscriptionPlan) : QuotaWindowMode :=
  if normalizeQuotaWindowMode q.quotaWindowMode = .legacy then
    if q.fiveHourAmount > 0 ∧ q.weeklyAmount > 0 then .dual
    else if q.fiveHourAmount > 0 then .fiveHour
    else if q.weeklyAmount > 0 then .weekly
    else normalizeQuotaWindowMode q.quotaWindowMode
  else normalizeQuotaWindowMode q.quotaWindowMode

lemma normalizeScalars_mode (q : SubscriptionPlan) :
    q.normalizeScalars.quotaWindowMode = q.scalarMode.text := rfl

/-- Only a plan without limits stays legacy. -/
lemma scalarMode_normalizeScalars (q : SubscriptionPlan) :
    q.normalizeScalars.scalarMode = q.scalarMode := by
  have h₅ : q.normalizeScalars.fiveHourAmount = q.fiveHourAmount := rfl
  have hw : q.normalizeScalars.weeklyAmount = q.weeklyAmount := rfl
  rw [scalarMode, normalizeScalars_mode, normalizeQuotaWindowMode_text, h₅, hw, scalarMode]
  split_ifs <;> simp_all

lemma normalizeScalars_twice (q : SubscriptionPlan) :
    q.normalizeScalars.normalizeScalars = q.normalizeScalars := by
  have hmode := scalarMode_normalizeScalars q
  have hseconds : q.normalizeScalars.normalizeScalars.fiveHourWindowSeconds =
      q.normalizeScalars.fiveHourWindowSeconds := by
    simp only [normalizeScalars]
    split_ifs <;> omega
  have hperiod : q.normalizeScalars.normalizeScalars.quotaResetPeriod =
      q.normalizeScalars.quotaResetPeriod := by
    have hreset (p : SubscriptionPlan) : p.normalizeScalars.quotaResetPeriod =
      if (p.scalarMode = .weekly ∨ p.scalarMode = .dual) ∧
        normalizeResetPeriod p.quotaResetPeriod = .never then
        ResetPeriod.weekly.text
      else p.quotaResetPeriod := rfl
    rw [hreset, hmode, hreset]
    split_ifs <;> rfl
  calc q.normalizeScalars.normalizeScalars
      = { q.normalizeScalars with
          quotaWindowMode := q.normalizeScalars.scalarMode.text
          fiveHourWindowSeconds := q.normalizeScalars.normalizeScalars.fiveHourWindowSeconds
          quotaResetPeriod := q.normalizeScalars.normalizeScalars.quotaResetPeriod } := rfl
    _ = q.normalizeScalars := by rw [hmode, hseconds, hperiod, ← normalizeScalars_mode]

/-- A plan with windows, or marked as malformed, stays as it is. -/
lemma normalize_twice_of_windows (h : p.quotaWindowsInvalid = true ∨ p.quotaWindows ≠ []) :
    p.normalizeQuotaWindows.normalizeQuotaWindows = p.normalizeQuotaWindows := by
  have hgeneric : ¬ (trimSpace generic.text = "" ∨
      normalizeQuotaWindowMode generic.text = .legacy) := by
    decide +kernel
  cases hentries : quotaWindowListHasInvalidEntry p.quotaWindows with
  | true =>
    by_cases hmode : trimSpace p.quotaWindowMode = "" ∨
      normalizeQuotaWindowMode p.quotaWindowMode = .legacy
    · simp [normalizeQuotaWindows, hentries, hmode]
    · simp [normalizeQuotaWindows, hentries, hmode]
  | false =>
    cases hmarker : p.quotaWindowsInvalid with
    | true =>
      simp [normalizeQuotaWindows, hentries, hmarker]
    | false =>
      have hne : normalizeQuotaWindowList p.quotaWindows ≠ [] := by
        cases hlist : p.quotaWindows with
        | nil => simp [hmarker, hlist] at h
        | cons item rest =>
          obtain ⟨c, hc⟩ : ∃ c, item.canonical = some c := by
            rw [← isSome_iff_exists, ← isNone_eq_false_iff]
            simp only [hlist, quotaWindowListHasInvalidEntry, List.any_cons,
              Bool.or_eq_false_iff] at hentries
            exact hentries.1
          simp [normalizeQuotaWindowList, normalizeQuotaWindowListFrom, hc]
      have hempty : (normalizeQuotaWindowList p.quotaWindows).isEmpty = false := by simpa using hne
      have hN : p.normalizeQuotaWindows = { p.foldAmountAliases with
          quotaWindows := normalizeQuotaWindowList p.quotaWindows
          quotaWindowMode := generic.text
          quotaWindowsInvalid := false } := by
        simp [normalizeQuotaWindows, hentries, hmarker, hempty, foldAmountAliases]
      rw [hN]
      exact normalize_of_windows rfl hne (normalizeQuotaWindowListFrom_twice _ _) rfl
        (folded_foldAmountAliases p)

/-- A window found for a mode makes the plan one that stays as it is. -/
lemma normalize_withWindow {w : SubscriptionQuotaWindow} (hmarker : q.quotaWindowsInvalid = false)
    (hq : q.Folded) (hw : ∃ item : SubscriptionQuotaWindow, item.normalize = some w) :
    (q.withWindow w).normalizeQuotaWindows = q.withWindow w := by
  obtain ⟨item, hw⟩ := hw
  obtain ⟨c, -, rfl⟩ := map_eq_some_iff.1 hw
  have hlist : normalizeQuotaWindowList [c.1.toWindow] = [c.1.toWindow] := by
    simp [normalizeQuotaWindowList, normalizeQuotaWindowListFrom, canonical_toWindow]
  exact normalize_of_windows hmarker (by simp [withWindow]) hlist rfl hq

/-- A normalized mode names no period; only the generic one may still stand for a
    window. -/
lemma normalizeMode_of_text {mode : QuotaWindowMode} (hmode : q.quotaWindowMode = mode.text) :
    q.normalizeMode =
      match if mode = .generic then q.genericModeWindow else none with
      | some window => q.withWindow window | none => q.normalizeScalars := by
  have hraw : toLower (trimSpace mode.text) = mode.text := by cases mode <;> decide +kernel
  have hperiod : periodModeUnit mode.text = none := by cases mode <;> decide +kernel
  have hgeneric : mode.text = "generic" ↔ mode = .generic := by cases mode <;> decide +kernel
  simp only [normalizeMode, hmode, hraw, hperiod, hgeneric]
  rfl

/-- A custom mode without a length, on a plan that has an amount and another reset
    period. -/
def CustomWithoutLength (p : SubscriptionPlan) : Prop :=
  p.quotaWindowsInvalid = false ∧ p.quotaWindows = [] ∧
    periodModeUnit (toLower (trimSpace p.quotaWindowMode)) = some (.custom, false) ∧
    0 < p.foldAmountAliases.windowAmount ∧ p.windowCustomSeconds = 0 ∧
    normalizeResetPeriod p.quotaResetPeriod ≠ .custom

/-- Where a mode names a period but gives no window, the generic mode gives one only
    for a custom period without a length. -/
lemma genericModeWindow_of_period
    (hfive : fiveHour = true → unit = .hour) (h : q.periodModeWindow unit fiveHour = none) :
    q.genericModeWindow.isSome ↔ unit = .custom ∧ 0 < q.windowAmount ∧ q.windowCustomSeconds = 0 ∧
      normalizeResetPeriod q.quotaResetPeriod ≠ .custom := by
  have hunit : resetPeriodUnit (normalizeResetPeriod q.quotaResetPeriod) = .custom ↔
      normalizeResetPeriod q.quotaResetPeriod = .custom := by
    cases normalizeResetPeriod q.quotaResetPeriod <;> simp [resetPeriodUnit]
  have hnone {amount seconds : ℤ} {mode : String} (hmode : mode = "" ∨ mode = "rolling")
      (h : (if amount > 0 then SubscriptionQuotaWindow.normalize
        { type := unit.text, amount := amount, windowSeconds := seconds, resetMode := mode }
          else none) = none) :
      ¬ (0 < amount ∧ 0 ≤ seconds ∧ FitsUnit unit seconds) := by
    intro hall
    rw [if_pos hall.1] at h
    rw [← normalize_scalar_isSome hmode, h] at hall
    exact Bool.noConfusion hall
  rw [genericModeWindow, normalize_scalar_isSome (.inl rfl), FitsUnit]
  by_cases hcustom : unit = .custom
  · obtain rfl : fiveHour = false := by
      cases fiveHour
      · rfl
      · simp [hcustom] at hfive
    have h := hnone (by simp [hcustom]) h
    simp only [FitsUnit, hcustom, reduceCtorEq, false_and, if_false, if_true, Bool.false_eq_true,
      ne_eq, not_true_eq_false, false_implies, true_implies, and_true, true_and] at h ⊢
    grind
  · have h := hnone (by simp [hcustom]) h
    have hseconds : 0 ≤ (if fiveHour = true then defaultFiveHourWindowSeconds else 0) ∧
        FitsUnit unit (if fiveHour = true then defaultFiveHourWindowSeconds else 0) := by
      cases fiveHour with
      | false => simp [FitsUnit, hcustom]
      | true =>
        rw [FitsUnit, hfive rfl]
        decide
    simp only [hcustom, if_false, hseconds, and_true] at h
    refine iff_of_false (fun hall => h ?_) fun hall => absurd hall.1 hcustom
    split_ifs <;> omega

/-- The modes that are generic: those that name a period, and the one that says so. -/
lemma normalizeQuotaWindowMode_eq_generic {mode : String} :
    normalizeQuotaWindowMode mode = .generic ↔
    toLower (trimSpace mode) = "generic" ∨ (periodModeUnit (toLower (trimSpace mode))).isSome := by
  unfold normalizeQuotaWindowMode periodModeUnit
  split <;> simp_all

lemma hour_of_fiveHour {raw : String}
    (h : periodModeUnit raw = some (unit, fiveHour)) (hfive : fiveHour = true) : unit = .hour := by
  unfold periodModeUnit at h
  split at h <;> simp_all

/-- The scalar fields that a generic mode is read from are not touched. -/
lemma genericModeWindow_normalizeScalars (h : q.scalarMode = .generic) :
    q.normalizeScalars.genericModeWindow = q.genericModeWindow := by
  have hreset : q.normalizeScalars.quotaResetPeriod = q.quotaResetPeriod := by
    show (if (q.scalarMode = .weekly ∨ q.scalarMode = .dual) ∧ _ then _ else _) = _
    simp [h]
  rw [genericModeWindow, hreset]
  rfl

variable (hmarker : q.quotaWindowsInvalid = false) (hnil : q.quotaWindows = []) (hq : q.Folded)
include hmarker hnil hq

/-- A plan in a scalar mode stays as it is, unless its mode now stands for a window. -/
lemma normalize_normalizeScalars : q.normalizeScalars.normalizeQuotaWindows = q.normalizeScalars ↔
      ¬ (q.scalarMode = .generic ∧ q.genericModeWindow.isSome) := by
  have hfold : q.normalizeScalars.Folded := hq
  rw [normalize_of_no_windows (q := q.normalizeScalars) hmarker hnil, hfold.fold_eq,
    normalizeMode_of_text (normalizeScalars_mode q)]
  by_cases hmode : q.scalarMode = .generic
  · rw [if_pos hmode, genericModeWindow_normalizeScalars hmode]
    cases hwindow : q.genericModeWindow with
    | none => simp [normalizeScalars_twice]
    | some w =>
      refine iff_of_false (fun h => ?_) (by simp [hmode])
      have := congrArg quotaWindows h
      rw [show q.normalizeScalars.quotaWindows = q.quotaWindows from rfl, hnil] at this
      exact absurd this (by simp [withWindow])
  · simp [hmode, normalizeScalars_twice]

lemma normalize_normalizeMode : q.normalizeMode.normalizeQuotaWindows = q.normalizeMode ↔
      ¬ (periodModeUnit (toLower (trimSpace q.quotaWindowMode)) = some (.custom, false) ∧
        0 < q.windowAmount ∧ q.windowCustomSeconds = 0 ∧ normalizeResetPeriod q.quotaResetPeriod ≠
          .custom) := by
  have hmode (q : SubscriptionPlan) : q.scalarMode = .generic ↔
      normalizeQuotaWindowMode q.quotaWindowMode = .generic := by
    rw [scalarMode]
    split_ifs <;> simp_all
  simp only [normalizeQuotaWindowMode_eq_generic] at hmode
  simp only [normalizeMode]
  cases hperiod : periodModeUnit (toLower (trimSpace q.quotaWindowMode)) with
  | none =>
    simp only [reduceCtorEq, if_false, false_and, not_false_eq_true, iff_true]
    cases hwindow : (if toLower (trimSpace q.quotaWindowMode) = "generic" then q.genericModeWindow
        else none) with
    | some w =>
      have hw : q.genericModeWindow = some w := by
        split_ifs at hwindow
        exact hwindow
      exact normalize_withWindow hmarker hq ⟨_, hw⟩
    | none =>
      refine (normalize_normalizeScalars hmarker hnil hq).2 fun ⟨hgeneric, hsome⟩ => ?_
      -- The same window was looked for the first time.
      rw [hmode, hperiod, isSome_none, or_iff_left Bool.false_ne_true] at hgeneric
      rw [if_pos hgeneric] at hwindow
      simp [hwindow] at hsome
  | some period =>
    obtain ⟨unit, fiveHour⟩ := period
    have hraw : toLower (trimSpace q.quotaWindowMode) ≠ "generic" := by
      intro h
      rw [h, show periodModeUnit "generic" = none by decide +kernel] at hperiod
      cases hperiod
    obtain ⟨q', hq'⟩ : ∃ q', (if some (unit, fiveHour) = some (QuotaWindowUnit.hour, true) then
      { q with fiveHourAmount := max q.fiveHourAmount q.totalAmount } else q) = q' := ⟨_, rfl⟩
    have hfields : q'.quotaWindowsInvalid = false ∧ q'.quotaWindows = [] ∧ q'.Folded ∧
        q'.quotaWindowMode = q.quotaWindowMode := by
      rw [← hq']
      split_ifs
      · exact ⟨hmarker, hnil, ⟨fun h => hq.1 (by dsimp only at h; omega), hq.2⟩, rfl⟩
      · exact ⟨hmarker, hnil, hq, rfl⟩
    obtain ⟨hmarker', hnil', hfold', hmode'⟩ := hfields
    have hsame : unit = .custom → q' = q := by
      rintro rfl
      simpa using hq'.symm
    simp only [hq', bind_some, if_neg hraw]
    cases hwindow : q'.periodModeWindow unit fiveHour with
    | some w =>
      simp only [periodModeWindow, ite_none_right_eq_some] at hwindow
      refine iff_of_true (normalize_withWindow hmarker' hfold' ⟨_, hwindow.2⟩) ?_
      rintro ⟨hunit, -, hzero, -⟩
      obtain ⟨rfl, rfl⟩ : unit = .custom ∧ fiveHour = false := by simpa using hunit
      -- A custom window has a length.
      have hsome := isSome_of_eq_some hwindow.2
      rw [normalize_scalar_isSome (by simp), FitsUnit, hsame rfl] at hsome
      simp only [Bool.false_eq_true, if_false, if_true, hzero, true_implies, lt_irrefl, false_and,
        and_false] at hsome
    | none =>
      rw [normalize_normalizeScalars hmarker' hnil' hfold', hmode, hmode', hperiod,
        genericModeWindow_of_period (hour_of_fiveHour hperiod) hwindow, isSome_some,
          or_iff_right hraw,
        and_iff_right rfl, some.injEq, Prod.mk.injEq]
      refine not_congr ⟨fun h => ?_, fun h => ?_⟩
      · obtain ⟨rfl, h⟩ := h
        rw [hsame rfl] at h
        refine ⟨⟨rfl, ?_⟩, h⟩
        cases fiveHour
        · rfl
        · exact absurd (hour_of_fiveHour hperiod rfl) (by decide)
      · obtain ⟨⟨rfl, -⟩, h⟩ := h
        rw [hsame rfl]
        exact ⟨rfl, h⟩

end SubscriptionPlan

open SubscriptionPlan

/-- A plan is the same after a second normalization just where it has no custom window without a
    length. -/
theorem normalize_twice_iff (p : SubscriptionPlan) :
    (p.normalizeQuotaWindows.normalizeQuotaWindows = p.normalizeQuotaWindows ∧
      quotaPolicyFromPlan (some p.normalizeQuotaWindows) =
        quotaPolicyFromPlan (some p.normalizeQuotaWindows.normalizeQuotaWindows)) ↔
          ¬ p.CustomWithoutLength := by
  rw [and_iff_left_of_imp fun h => by rw [h]]
  by_cases hkept : p.quotaWindowsInvalid = true ∨ p.quotaWindows ≠ []
  · refine iff_of_true (normalize_twice_of_windows hkept) fun h => ?_
    rcases hkept with hmarker | hne
    · simp [h.1] at hmarker
    · exact hne h.2.1
  · simp only [not_or, Bool.not_eq_true, not_not] at hkept
    obtain ⟨hmarker, hnil⟩ := hkept
    rw [normalize_of_no_windows hmarker hnil,
      normalize_normalizeMode (q := p.foldAmountAliases) hmarker hnil
        (folded_foldAmountAliases p),
      SubscriptionPlan.CustomWithoutLength, and_iff_right hmarker, and_iff_right hnil]
    rfl

/-- A custom mode with a total, but without a length. -/
theorem normalize_twice_custom :
    ¬ (normalizeQuotaWindows { quotaWindowMode := "custom", totalAmount := 100 }
      |>.normalizeQuotaWindows) =
          normalizeQuotaWindows { quotaWindowMode := "custom", totalAmount := 100 } := by
  decide +kernel

end Allrouter
