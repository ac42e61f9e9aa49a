import Allrouter.Subscription.Window

/-!
# Quota policies

A plan of the catalog and an issued subscription both describe a quota policy:
an aggregate limit that may reset (the `legacy`, `weekly` and `dual` modes), a
five-hour rolling window (`fiveHour`, `dual`), or a list of windows (`generic`).
The descriptions are persisted data, written by several versions of the program,
so a policy is resolved defensively: whatever is unknown, negative or incomplete
makes it `invalid`, never unlimited.

* `quotaPolicyFromPlan`: the policy of a plan;
* `quotaPolicyForSubscription`: that of an issued subscription, whose snapshot
  takes precedence over the plan;
* `policy_withCounters`: it depends on the snapshot
  only, so that counting usage does not change it.
-/

namespace Allrouter

open Text SubscriptionQuotaWindow List

/-- The kinds of limits that a plan may have. -/
inductive QuotaWindowMode
  | legacy
  | fiveHour
  | weekly
  | dual
  | generic
  deriving DecidableEq

/-- When the aggregate counter of a policy resets; `unset` is the omitted period. -/
inductive ResetPeriod
  | unset
  | never
  | daily
  | weekly
  | monthly
  | yearly
  | custom
  deriving DecidableEq

def QuotaWindowMode.text : QuotaWindowMode → String
  | legacy => "legacy"
  | fiveHour => "five_hour"
  | weekly => "weekly"
  | dual => "dual"
  | generic => "generic"

def ResetPeriod.text : ResetPeriod → String
  | unset => ""
  | never => "never"
  | daily => "daily"
  | weekly => "weekly"
  | monthly => "monthly"
  | yearly => "yearly"
  | custom => "custom"

def defaultFiveHourWindowSeconds : ℤ := 5 * 60 * 60

/-- A plan of the catalog: the fields that decide what it grants. -/
structure SubscriptionPlan where
  id : ℤ := 0
  /-- The provider that owns the plan, `0` for the main site. -/
  providerId : ℤ := 0
  durationUnit : String := "month"
  durationValue : ℤ := 1
  customSeconds : ℤ := 0
  /-- The models the plan is restricted to, separated by commas. -/
  modelLimits : String := ""
  totalAmount : ℤ := 0
  quotaResetPeriod : String := ""
  quotaResetCustomSeconds : ℤ := 0
  quotaWindowMode : String := ""
  (fiveHourAmount fiveHourWindowSeconds weeklyAmount : ℤ := 0)
  quotaWindows : List SubscriptionQuotaWindow := []
  /-- Set, in memory, once a malformed window was seen. -/
  quotaWindowsInvalid : Bool := false
  /-- Input aliases of the two amounts, not persisted. -/
  fiveHourQuota : ℤ := 0
  (weeklyQuota fiveHourLimit weeklyLimit : ℤ := 0)
  deriving DecidableEq

/-- The status of a subscription. -/
inductive SubscriptionStatus
  | active
  | expired
  | cancelled
  deriving DecidableEq

/-- The row of a subscription. -/
structure UserSubscription where
  (id userId planId : ℤ)
  (providerId amountTotal amountUsed : ℤ := 0)
  (startTime endTime : ℤ)
  status : SubscriptionStatus := .active
  (lastResetTime nextResetTime : ℤ := 0)
  /-- The quota policy at the time of issuance. -/
  quotaWindowMode : String := ""
  quotaWindowModeSnapshot : String := ""
  (fiveHourAmount fiveHourWindowSeconds weeklyAmount : ℤ := 0)
  quotaResetPeriodSnapshot : String := ""
  quotaResetCustomSecondsSnapshot : ℤ := 0
  quotaWindowsSnapshot : List SubscriptionQuotaWindow := []
  planPolicySnapshotVersion : ℤ := 0
  modelLimitsSnapshot : String := ""
  deriving DecidableEq

/-- The limits of a subscription. -/
structure SubscriptionQuotaPolicy where
  mode : QuotaWindowMode
  (fiveHourAmount fiveHourWindowSeconds weeklyAmount : ℤ := 0)
  resetPeriod : ResetPeriod := .unset
  resetCustomSeconds : ℤ := 0
  windows : List CanonicalWindow := []
  /-- The policy could not be resolved, and must fail closed. -/
  invalid : Bool := false
  deriving DecidableEq

/-! ## Modes and periods -/

/-- The mode a text names; omitted and unknown ones are legacy. -/
@[irreducible]
def normalizeQuotaWindowMode (mode : String) : QuotaWindowMode :=
  match toLower (trimSpace mode) with
  | "five_hour" => .fiveHour
  | "weekly" => .weekly
  | "dual" => .dual
  | "generic" => .generic
  | "hour" | "hourly" | "hours" | "5h" | "5hour" | "5_hours" | "five-hours"
  | "day" | "daily" | "days" | "week" | "month" | "monthly" | "months"
  | "year" | "yearly" | "years" | "annual" | "annually"
  | "custom" | "seconds" | "second" | "duration" => .generic
  | _ => .legacy

@[irreducible]
def subscriptionQuotaWindowModeIsKnown (raw : String) : Bool :=
  let raw := toLower (trimSpace raw)
  raw = "" || raw = "legacy" || normalizeQuotaWindowMode raw ≠ .legacy

@[irreducible]
def subscriptionResetPeriodIsKnown (raw : String) : Bool :=
  match toLower (trimSpace raw) with
  | "" | "never" | "daily" | "weekly" | "monthly" | "yearly" | "annual" | "annually"
  | "custom" => true
  | _ => false

/-- The reset period a text names; omitted and unknown ones never reset. -/
@[irreducible]
def normalizeResetPeriod (period : String) : ResetPeriod :=
  match toLower (trimSpace period) with
  | "daily" => .daily
  | "weekly" => .weekly
  | "monthly" => .monthly
  | "yearly" | "annual" | "annually" => .yearly
  | "custom" => .custom
  | _ => .never

/-- The unit of a mode that names a period directly, and whether it spells out
    the five-hour window. -/
@[irreducible]
def periodModeUnit (rawMode : String) : Option (QuotaWindowUnit × Bool) :=
  match rawMode with
  | "5h" | "5hour" | "5_hours" | "five-hours" => some (.hour, true)
  | "hour" | "hourly" | "hours" => some (.hour, false)
  | "day" | "daily" | "days" => some (.day, false)
  | "week" => some (.week, false)
  | "month" | "monthly" | "months" => some (.month, false)
  | "year" | "yearly" | "years" | "annual" | "annually" => some (.year, false)
  | "custom" | "seconds" | "second" | "duration" => some (.custom, false)
  | _ => none

/-- The unit of a window that stands for a reset period, a week by default. -/
def resetPeriodUnit : ResetPeriod → QuotaWindowUnit
  | .daily => .day
  | .monthly => .month
  | .yearly => .year
  | .custom => .custom
  | .unset | .never | .weekly => .week

/-! ## The policy of a plan -/

namespace SubscriptionPlan

variable (p : SubscriptionPlan)

/-- The amounts, from their aliases where they are omitted. -/
def foldAmountAliases : SubscriptionPlan :=
  { p with
    fiveHourAmount :=
      if p.fiveHourAmount ≤ 0 then
        if p.fiveHourQuota > 0 then p.fiveHourQuota
        else if p.fiveHourLimit > 0 then p.fiveHourLimit
        else p.fiveHourAmount
      else p.fiveHourAmount
    weeklyAmount :=
      if p.weeklyAmount ≤ 0 then
        if p.weeklyQuota > 0 then p.weeklyQuota
        else if p.weeklyLimit > 0 then p.weeklyLimit
        else p.weeklyAmount
      else p.weeklyAmount }

/-- The weekly amount, or the total one where it is omitted. -/
def windowAmount : ℤ :=
  if p.weeklyAmount ≤ 0 then p.totalAmount else p.weeklyAmount

/-- The length of a custom window: that of the reset, or that of the plan. -/
def windowCustomSeconds : ℤ :=
  if p.quotaResetCustomSeconds ≤ 0 then p.customSeconds else p.quotaResetCustomSeconds

def periodModeWindow (unit : QuotaWindowUnit) (fiveHour : Bool) : Option SubscriptionQuotaWindow :=
  let amount := if unit = .hour ∧ p.fiveHourAmount > 0 then p.fiveHourAmount else p.windowAmount
  let duration :=
    if fiveHour then defaultFiveHourWindowSeconds
    else if unit = .custom then p.windowCustomSeconds
    else 0
  if amount > 0 then
    normalize
      { type := unit.text, amount := amount, windowSeconds := duration
        resetMode := if unit = .custom then "rolling" else "" }
  else none

/-- The window of a generic mode stored without windows, by an early migration. -/
def genericModeWindow : Option SubscriptionQuotaWindow :=
  normalize
    { type := (resetPeriodUnit (normalizeResetPeriod p.quotaResetPeriod)).text
      amount := p.windowAmount, windowSeconds := p.windowCustomSeconds }

/-- The plan in one of the scalar modes, inferred when only the limits are
    given, with the default window and reset. -/
def normalizeScalars : SubscriptionPlan :=
  let named := normalizeQuotaWindowMode p.quotaWindowMode
  let mode :=
    if named = .legacy then
      if p.fiveHourAmount > 0 ∧ p.weeklyAmount > 0 then .dual
      else if p.fiveHourAmount > 0 then .fiveHour
      else if p.weeklyAmount > 0 then .weekly
      else named
    else named
  { p with
    quotaWindowMode := mode.text
    fiveHourWindowSeconds :=
      if p.fiveHourAmount > 0 ∧ p.fiveHourWindowSeconds ≤ 0 then defaultFiveHourWindowSeconds
      else p.fiveHourWindowSeconds
    quotaResetPeriod :=
      if (mode = .weekly ∨ mode = .dual) ∧ normalizeResetPeriod p.quotaResetPeriod = .never then
        ResetPeriod.weekly.text
      else p.quotaResetPeriod }

/-- The plan with one window, which makes it generic. -/
def withWindow (window : SubscriptionQuotaWindow) : SubscriptionPlan :=
  { p with quotaWindows := [window], quotaWindowMode := QuotaWindowMode.generic.text }

/-- The plan without windows: the period its mode names directly becomes a
    window, and so does a generic mode; otherwise it is one of the scalar modes. -/
def normalizeMode : SubscriptionPlan :=
  let rawMode := toLower (trimSpace p.quotaWindowMode)
  let period := periodModeUnit rawMode
  let p :=
    if period = some (.hour, true) then
      { p with fiveHourAmount := max p.fiveHourAmount p.totalAmount }
    else p
  match period.bind fun (unit, fiveHour) => p.periodModeWindow unit fiveHour with
  | some window => p.withWindow window
  | none =>
    match if rawMode = "generic" then p.genericModeWindow else none with
    | some window => p.withWindow window
    | none => p.normalizeScalars

/-- The plan with its aliases folded, its mode inferred, and its defaults filled
    in. Malformed windows are kept, so that they are seen again, and make the plan
    generic. -/
def normalizeQuotaWindows (plan : SubscriptionPlan) : SubscriptionPlan :=
  let rawWindowsInvalid := quotaWindowListHasInvalidEntry plan.quotaWindows
  let p := { plan with quotaWindowsInvalid := plan.quotaWindowsInvalid || rawWindowsInvalid }
  if rawWindowsInvalid then
    if trimSpace p.quotaWindowMode = "" ∨ normalizeQuotaWindowMode p.quotaWindowMode = .legacy then
      { p with quotaWindowMode := QuotaWindowMode.generic.text }
    else p
  else if p.quotaWindowsInvalid then { p with quotaWindowMode := QuotaWindowMode.generic.text }
  else
    let p := { p.foldAmountAliases with quotaWindows := normalizeQuotaWindowList p.quotaWindows }
    if !p.quotaWindows.isEmpty then { p with quotaWindowMode := QuotaWindowMode.generic.text }
    else p.normalizeMode

end SubscriptionPlan

/-! ## What a policy enforces -/

variable (policy : SubscriptionQuotaPolicy)

def policyHasFiveHour : Bool :=
  (policy.mode = .fiveHour || policy.mode = .dual) &&
    policy.fiveHourAmount > 0 && policy.fiveHourWindowSeconds > 0

def policyHasWeekly : Bool :=
  policy.mode = .weekly || policy.mode = .dual

def policyHasGenericWindows : Bool :=
  !policy.windows.isEmpty

/-- The aggregate counter of the subscription is the one the policy limits. -/
def policyTracksAggregate : Bool :=
  policy.mode = .legacy || policyHasWeekly policy

/-- The limit on the aggregate counter, `0` for none. -/
def policyWeeklyLimit (sub : UserSubscription) : ℤ :=
  if policy.mode = .legacy then sub.amountTotal
  else if policyHasWeekly policy then policy.weeklyAmount
  else 0

def fiveHourWindow (amount windowSeconds : ℤ) : SubscriptionQuotaWindowPolicy where
  unit := .hour
  amount := amount
  duration := 5
  windowSeconds := windowSeconds
  resetMode := .rolling

/-- The windows whose usage is counted on the request records. -/
def quotaRecordBackedWindows : List SubscriptionQuotaWindowPolicy :=
  if policyHasGenericWindows policy then policy.windows.map Subtype.val
  else if policyHasFiveHour policy then
    [fiveHourWindow policy.fiveHourAmount policy.fiveHourWindowSeconds]
  else []

def subscriptionQuotaPolicyScalarsValid : Bool :=
  let fiveHourValid := 0 < policy.fiveHourAmount && 0 < policy.fiveHourWindowSeconds &&
    policy.fiveHourWindowSeconds ≤ maxSubscriptionQuotaWindowSeconds
  !policy.invalid &&
    (match policy.mode with
      | .legacy => true
      | .fiveHour => fiveHourValid
      | .weekly => 0 < policy.weeklyAmount
      | .dual => fiveHourValid && 0 < policy.weeklyAmount
      | .generic => !policy.windows.isEmpty) &&
    !(policyTracksAggregate policy && policy.resetPeriod = .custom &&
      (policy.resetCustomSeconds ≤ 0 ||
        policy.resetCustomSeconds > maxSubscriptionQuotaWindowSeconds))

/-- The policy with the default length of the five-hour window. -/
def SubscriptionQuotaPolicy.withFiveHourDefault : SubscriptionQuotaPolicy :=
  { policy with
    fiveHourWindowSeconds :=
      if policy.fiveHourAmount > 0 ∧ policy.fiveHourWindowSeconds ≤ 0 then
        defaultFiveHourWindowSeconds
      else policy.fiveHourWindowSeconds }

/-- The policy, marked invalid when its scalars are. -/
def SubscriptionQuotaPolicy.checked : SubscriptionQuotaPolicy :=
  { policy with invalid := policy.invalid || !subscriptionQuotaPolicyScalarsValid policy }

/-- What a normalized plan says of its policy. The mode is the normalized text,
    except where malformed windows kept the stored one, and the policy is invalid. -/
def SubscriptionPlan.describedPolicy (plan : SubscriptionPlan) : SubscriptionQuotaPolicy where
  mode := normalizeQuotaWindowMode plan.quotaWindowMode
  fiveHourAmount := plan.fiveHourAmount
  fiveHourWindowSeconds := plan.fiveHourWindowSeconds
  weeklyAmount := plan.weeklyAmount
  resetPeriod := normalizeResetPeriod plan.quotaResetPeriod
  resetCustomSeconds := plan.quotaResetCustomSeconds
  windows := normalizedQuotaWindowPolicies plan.quotaWindows

/-- The policy of a normalized plan in one of the scalar modes. -/
def SubscriptionPlan.scalarPolicy (plan : SubscriptionPlan) : SubscriptionQuotaPolicy :=
  let policy := plan.describedPolicy.withFiveHourDefault
  SubscriptionQuotaPolicy.checked
    { policy with
      weeklyAmount :=
        if (policy.mode = .weekly ∨ policy.mode = .dual) ∧ policy.weeklyAmount ≤ 0 then
          plan.totalAmount
        else policy.weeklyAmount }

/-- The policy of a plan; no plan is the legacy policy. -/
def quotaPolicyFromPlan : Option SubscriptionPlan → SubscriptionQuotaPolicy
  | none => { mode := .legacy }
  | some plan =>
    if plan.totalAmount < 0 ∨ plan.fiveHourAmount < 0 ∨ plan.fiveHourWindowSeconds < 0 ∨
        plan.weeklyAmount < 0 ∨ plan.quotaResetCustomSeconds < 0 then
      { mode := normalizeQuotaWindowMode plan.quotaWindowMode, invalid := true }
    else if !subscriptionQuotaWindowModeIsKnown (toLower (trimSpace plan.quotaWindowMode)) then
      { mode := .generic, invalid := true }
    else if !subscriptionResetPeriodIsKnown plan.quotaResetPeriod then
      { mode := normalizeQuotaWindowMode plan.quotaWindowMode, invalid := true }
    else
      let copyPlan := plan.normalizeQuotaWindows
      let policy := copyPlan.describedPolicy
      if plan.quotaWindowsInvalid || quotaWindowListHasInvalidEntry plan.quotaWindows then
        { policy with invalid := true }
      else if !policy.windows.isEmpty then { policy with mode := .generic }
      else if normalizeQuotaWindowMode (toLower (trimSpace plan.quotaWindowMode)) = .generic ∨
          policy.mode = .generic then
        { policy with mode := .generic, invalid := true }
      else copyPlan.scalarPolicy

/-! ## The policy of a subscription -/

namespace UserSubscription

variable (sub : UserSubscription)

/-- The mode, or that of the snapshot. -/
def snapshotMode : String :=
  if trimSpace sub.quotaWindowMode = "" then trimSpace sub.quotaWindowModeSnapshot
  else trimSpace sub.quotaWindowMode

def hasNegativeScalar : Bool :=
  sub.amountTotal < 0 || sub.amountUsed < 0 || sub.fiveHourAmount < 0 ||
    sub.fiveHourWindowSeconds < 0 || sub.weeklyAmount < 0 || sub.quotaResetCustomSecondsSnapshot < 0

def snapshotWindow : Option CanonicalWindow :=
  canonical
    { type :=
        if sub.quotaResetPeriodSnapshot ≠ "" then
          (resetPeriodUnit (normalizeResetPeriod sub.quotaResetPeriodSnapshot)).text
        else QuotaWindowUnit.week.text
      amount := if sub.weeklyAmount ≤ 0 then sub.amountTotal else sub.weeklyAmount
      windowSeconds := sub.quotaResetCustomSecondsSnapshot }

/-- The policy of the scalar snapshot; what it does not hold, the reset of an
    unversioned row, is taken from `policy`. -/
def snapshotPolicy (policy : SubscriptionQuotaPolicy) : SubscriptionQuotaPolicy :=
  let mode :=
    if sub.snapshotMode = "" then .legacy else normalizeQuotaWindowMode sub.snapshotMode
  let windows := if mode = .generic then sub.snapshotWindow.toList else []
  SubscriptionQuotaPolicy.checked <| SubscriptionQuotaPolicy.withFiveHourDefault
    { mode := mode
      windows := windows
      invalid := mode = .generic && windows.isEmpty
      fiveHourAmount := sub.fiveHourAmount
      fiveHourWindowSeconds := sub.fiveHourWindowSeconds
      weeklyAmount :=
        if (mode = .weekly ∨ mode = .dual) ∧ sub.weeklyAmount ≤ 0 then sub.amountTotal
        else sub.weeklyAmount
      resetPeriod :=
        if sub.quotaResetPeriodSnapshot ≠ "" then normalizeResetPeriod sub.quotaResetPeriodSnapshot
        else if sub.planPolicySnapshotVersion > 0 then .never
        else policy.resetPeriod
      resetCustomSeconds :=
        if sub.quotaResetPeriodSnapshot ≠ "" then sub.quotaResetCustomSecondsSnapshot
        else if sub.planPolicySnapshotVersion > 0 then 0
        else policy.resetCustomSeconds }

end UserSubscription

open UserSubscription

/-- The policy of an issued subscription: its snapshot wins over the plan, and
    only an unversioned row without a snapshot inherits the plan's. -/
def quotaPolicyForSubscription (sub : UserSubscription) (plan : Option SubscriptionPlan) :
    SubscriptionQuotaPolicy :=
  let policy := quotaPolicyFromPlan plan
  if sub.hasNegativeScalar then { policy with invalid := true }
  else if !sub.quotaWindowsSnapshot.isEmpty &&
    quotaWindowListHasInvalidEntry sub.quotaWindowsSnapshot then
    { policy with windows := [], mode := .generic, invalid := true }
  else
    let windows := normalizedQuotaWindowPolicies sub.quotaWindowsSnapshot
    if !windows.isEmpty then { policy with windows := windows, mode := .generic, invalid := false }
    else if !subscriptionQuotaWindowModeIsKnown sub.snapshotMode then
      { policy with mode := .generic, invalid := true }
    else if sub.planPolicySnapshotVersion > 0 ∧
        !subscriptionResetPeriodIsKnown sub.quotaResetPeriodSnapshot then
      { policy with mode := .generic, invalid := true }
    else if sub.planPolicySnapshotVersion ≤ 0 ∧ (sub.snapshotMode = "" ∨
        (normalizeQuotaWindowMode sub.snapshotMode = .legacy ∧ sub.fiveHourAmount ≤ 0 ∧
          sub.weeklyAmount ≤ 0 ∧ sub.quotaResetPeriodSnapshot = "")) then
      policy
    else sub.snapshotPolicy policy

/-! ### Counting does not change the policy -/

/-- The row with other counters: what is used, and the resets. -/
def UserSubscription.withCounters (sub : UserSubscription) (used last next : ℤ) :
    UserSubscription :=
  { sub with amountUsed := used, lastResetTime := last, nextResetTime := next }

variable {plan : Option SubscriptionPlan} {policy : SubscriptionQuotaPolicy}
    {sub : UserSubscription}

lemma policy_withCounters {used : ℤ}
    (hsub : 0 ≤ sub.amountUsed) (hused : 0 ≤ used) (last next : ℤ)
    (plan : Option SubscriptionPlan) :
    quotaPolicyForSubscription (sub.withCounters used last next) plan =
      quotaPolicyForSubscription sub plan := by
  have h : (sub.withCounters used last next).hasNegativeScalar = sub.hasNegativeScalar := by
    have h₁ := decide_eq_false (not_lt.2 hsub)
    have h₂ : decide ((sub.withCounters used last next).amountUsed < 0) = false :=
      decide_eq_false (not_lt.2 hused)
    rw [hasNegativeScalar, hasNegativeScalar, h₁, h₂]
    rfl
  rw [quotaPolicyForSubscription, quotaPolicyForSubscription, h]
  rfl

lemma amountUsed_nonneg_of_valid
    (h : (quotaPolicyForSubscription sub plan).invalid = false) : 0 ≤ sub.amountUsed := by
  by_contra hneg
  have : sub.hasNegativeScalar = true := by
    simp [hasNegativeScalar, not_le.1 hneg]
  rw [quotaPolicyForSubscription, this] at h
  exact Bool.noConfusion h

lemma policyTracksAggregate_congr {policy' : SubscriptionQuotaPolicy}
    (h : policy.mode = policy'.mode) :
    policyTracksAggregate policy = policyTracksAggregate policy' := by
  rw [policyTracksAggregate, policyTracksAggregate, policyHasWeekly, policyHasWeekly, h]

/-! ### Policies of windows -/

lemma policyTracksAggregate_generic (h : policy.mode = .generic) :
    policyTracksAggregate policy = false := by
  simp [policyTracksAggregate, policyHasWeekly, h]

lemma policyHasFiveHour_generic (h : policy.mode = .generic) :
    policyHasFiveHour policy = false := by
  simp [policyHasFiveHour, h]

/-- The two kinds of a plan whose policy is valid: it has windows, or its scalars
    say all of it. -/
lemma quotaPolicyFromPlan_valid {plan : SubscriptionPlan}
    (hvalid : (quotaPolicyFromPlan (some plan)).invalid = false) :
    (0 ≤ plan.totalAmount ∧ 0 ≤ plan.fiveHourAmount ∧ 0 ≤ plan.fiveHourWindowSeconds ∧
        0 ≤ plan.weeklyAmount ∧ 0 ≤ plan.quotaResetCustomSeconds) ∧
      (plan.quotaWindowsInvalid || quotaWindowListHasInvalidEntry plan.quotaWindows) = false ∧
      (plan.normalizeQuotaWindows.describedPolicy.windows ≠ [] ∧ quotaPolicyFromPlan (some plan) =
            { plan.normalizeQuotaWindows.describedPolicy with mode := .generic } ∨
        plan.normalizeQuotaWindows.describedPolicy.windows = [] ∧
          quotaPolicyFromPlan (some plan) = plan.normalizeQuotaWindows.scalarPolicy) := by
  rw [quotaPolicyFromPlan] at hvalid ⊢
  dsimp only at hvalid ⊢
  split at hvalid
  · cases hvalid
  rename_i hneg
  split at hvalid
  · cases hvalid
  rename_i hmode
  split at hvalid
  · cases hvalid
  rename_i hperiod
  split at hvalid
  · cases hvalid
  rename_i hentries
  rw [if_neg hneg, if_neg hmode, if_neg hperiod, if_neg hentries]
  refine ⟨by omega, by simpa using hentries, ?_⟩
  split at hvalid
  case isTrue hwindows =>
    rw [if_pos hwindows]
    exact .inl ⟨by simpa using hwindows, rfl⟩
  rename_i hwindows
  split at hvalid
  · cases hvalid
  rename_i hgeneric
  rw [if_neg hwindows, if_neg hgeneric]
  exact .inr ⟨by simpa using hwindows, rfl⟩

/-- The three kinds of a row whose policy is valid: it has a snapshot of windows,
    it inherits, or it has a snapshot of scalars. The plan does not decide which. -/
lemma quotaPolicyForSubscription_valid
    (hvalid : (quotaPolicyForSubscription sub plan).invalid = false) :
    (normalizedQuotaWindowPolicies sub.quotaWindowsSnapshot ≠ [] ∧
        ∀ plan', quotaPolicyForSubscription sub plan' =
          { quotaPolicyFromPlan plan' with
            windows := normalizedQuotaWindowPolicies sub.quotaWindowsSnapshot
            mode := .generic
            invalid := false }) ∨
      (sub.planPolicySnapshotVersion ≤ 0 ∧
        ∀ plan', quotaPolicyForSubscription sub plan' = quotaPolicyFromPlan plan') ∨
      ∀ plan', quotaPolicyForSubscription sub plan' =
          sub.snapshotPolicy (quotaPolicyFromPlan plan') := by
  rw [quotaPolicyForSubscription] at hvalid
  dsimp only at hvalid
  split at hvalid
  · cases hvalid
  rename_i hneg
  split at hvalid
  · cases hvalid
  rename_i hentries
  split at hvalid
  case isTrue hwindows =>
    refine .inl ⟨by simpa using hwindows, fun plan' => ?_⟩
    rw [quotaPolicyForSubscription, if_neg hneg, if_neg hentries, if_pos hwindows]
  rename_i hwindows
  split at hvalid
  · cases hvalid
  rename_i hmode
  split at hvalid
  · cases hvalid
  rename_i hperiod
  split at hvalid
  case isTrue hinherits =>
    refine .inr (.inl ⟨hinherits.1, fun plan' => ?_⟩)
    rw [quotaPolicyForSubscription, if_neg hneg, if_neg hentries, if_neg hwindows, if_neg hmode,
      if_neg hperiod, if_pos hinherits]
  case isFalse hinherits =>
    refine .inr (.inr fun plan' => ?_)
    rw [quotaPolicyForSubscription, if_neg hneg, if_neg hentries, if_neg hwindows, if_neg hmode,
      if_neg hperiod, if_neg hinherits]

lemma quotaPolicyFromPlan_generic
    (hvalid : (quotaPolicyFromPlan plan).invalid = false)
    (hne : (quotaPolicyFromPlan plan).windows ≠ []) :
    (quotaPolicyFromPlan plan).mode = .generic := by
  cases plan with
  | none => exact absurd rfl hne
  | some plan =>
    obtain ⟨-, -, ⟨-, hpolicy⟩ | ⟨hnil, hpolicy⟩⟩ := quotaPolicyFromPlan_valid hvalid
    · rw [hpolicy]
    · rw [hpolicy] at hne
      exact absurd hnil hne

lemma quotaPolicyForSubscription_generic
    (hvalid : (quotaPolicyForSubscription sub plan).invalid = false)
    (hne : (quotaPolicyForSubscription sub plan).windows ≠ []) :
    (quotaPolicyForSubscription sub plan).mode = .generic := by
  rcases quotaPolicyForSubscription_valid hvalid with ⟨-, hpolicy⟩ | ⟨-, hpolicy⟩ | hpolicy
  all_goals rw [hpolicy plan] at hvalid hne ⊢
  · exact quotaPolicyFromPlan_generic hvalid hne
  · simp only [snapshotPolicy, SubscriptionQuotaPolicy.checked,
      SubscriptionQuotaPolicy.withFiveHourDefault] at hne ⊢
    by_contra hmode
    exact hne (if_neg hmode)

/-- The windows of a versioned row are those of its snapshot, whatever its plan. -/
lemma quotaRecordBackedWindows_of_versioned (hversion : 0 < sub.planPolicySnapshotVersion)
    (hvalid : (quotaPolicyForSubscription sub plan).invalid = false)
    (plan' : Option SubscriptionPlan) :
    quotaRecordBackedWindows (quotaPolicyForSubscription sub plan') =
      quotaRecordBackedWindows (quotaPolicyForSubscription sub plan) := by
  rcases quotaPolicyForSubscription_valid hvalid with ⟨hwindows, hpolicy⟩ | ⟨hinherits, -⟩ | hpolicy
  · rw [hpolicy plan, hpolicy plan']
    simp [quotaRecordBackedWindows, policyHasGenericWindows, hwindows]
  · exact absurd hinherits (not_le.2 hversion)
  · rw [hpolicy plan, hpolicy plan']
    simp only [snapshotPolicy, if_pos hversion]

/-! ### The windows of a valid policy -/

/-- A window with a positive limit and a proper length; a calendar one is canonical. -/
structure SubscriptionQuotaWindowPolicy.Valid (w : SubscriptionQuotaWindowPolicy) : Prop where
  amount_pos : 0 < w.amount
  windowSeconds_pos : 0 < w.windowSeconds
  windowSeconds_le : w.windowSeconds ≤ maxSubscriptionQuotaWindowSeconds
  canonical_of_calendar : w.resetMode = .calendar → w.Canonical

lemma CanonicalWindow.valid (w : CanonicalWindow) : w.1.Valid :=
  ⟨w.2.amount_pos, w.2.windowSeconds_pos, w.2.windowSeconds_le, fun _ => w.2⟩

/-- The five-hour window of a policy is not longer than allowed. -/
def SubscriptionQuotaPolicy.FiveHourFits : Prop :=
  policyHasFiveHour policy → policy.fiveHourWindowSeconds ≤ maxSubscriptionQuotaWindowSeconds

lemma scalarsValid_of_checked (h : policy.checked.invalid = false) :
    subscriptionQuotaPolicyScalarsValid policy.checked = true := by
  simp only [SubscriptionQuotaPolicy.checked, Bool.or_eq_false_iff, Bool.not_eq_false'] at h
  have heq : policy.checked = policy := by
    rw [SubscriptionQuotaPolicy.checked, h.2, Bool.not_true, Bool.or_false]
  rw [heq]
  exact h.2

lemma scalarsValid_of_windows (hvalid : policy.invalid = false)
    (hmode : policy.mode = .generic) (hne : policy.windows ≠ []) :
    subscriptionQuotaPolicyScalarsValid policy = true := by
  simp [subscriptionQuotaPolicyScalarsValid, hvalid, hmode, hne,
    policyTracksAggregate_generic hmode]

lemma scalarsValid_quotaPolicyFromPlan (h : (quotaPolicyFromPlan plan).invalid = false) :
    subscriptionQuotaPolicyScalarsValid (quotaPolicyFromPlan plan) = true := by
  cases plan with
  | none => rfl
  | some plan =>
    obtain ⟨-, -, ⟨hne, hpolicy⟩ | ⟨-, hpolicy⟩⟩ := quotaPolicyFromPlan_valid h
    all_goals rw [hpolicy] at h ⊢
    · exact scalarsValid_of_windows h rfl hne
    · exact scalarsValid_of_checked h

section

variable (h : (quotaPolicyForSubscription sub plan).invalid = false)
include h

/-- A valid policy is one whose scalars pass the check, whichever way it was resolved. -/
lemma scalarsValid_quotaPolicyForSubscription :
    subscriptionQuotaPolicyScalarsValid (quotaPolicyForSubscription sub plan) = true := by
  rcases quotaPolicyForSubscription_valid h with ⟨hne, hpolicy⟩ | ⟨-, hpolicy⟩ | hpolicy
  all_goals rw [hpolicy plan] at h ⊢
  · exact scalarsValid_of_windows h rfl hne
  · exact scalarsValid_quotaPolicyFromPlan h
  · exact scalarsValid_of_checked h

lemma fiveHourFits_quotaPolicyForSubscription :
    (quotaPolicyForSubscription sub plan).FiveHourFits := by
  intro h5
  have hscalars := scalarsValid_quotaPolicyForSubscription h
  generalize quotaPolicyForSubscription sub plan = policy at *
  simp only [policyHasFiveHour, subscriptionQuotaPolicyScalarsValid] at *
  cases hmode : policy.mode <;> simp_all

/-- A counter of a valid policy that resets after some seconds does so after a proper
    number of them. -/
lemma resetCustomSeconds_of_valid
    (htracks : policyTracksAggregate (quotaPolicyForSubscription sub plan) = true)
    (hcustom : (quotaPolicyForSubscription sub plan).resetPeriod = .custom) :
    0 < (quotaPolicyForSubscription sub plan).resetCustomSeconds ∧
      (quotaPolicyForSubscription sub plan).resetCustomSeconds ≤
        maxSubscriptionQuotaWindowSeconds := by
  have hscalars := scalarsValid_quotaPolicyForSubscription h
  simp only [subscriptionQuotaPolicyScalarsValid, htracks, hcustom, Bool.and_eq_true,
    Bool.not_eq_true', decide_true, Bool.true_and, Bool.or_eq_false_iff, decide_eq_false_iff_not,
      not_le, gt_iff_lt,
    not_lt] at hscalars
  exact hscalars.2

end

/-- Every window that a valid policy counts on the records is a proper one. -/
lemma valid_of_mem_recordBacked (hfits : policy.FiveHourFits) {w : SubscriptionQuotaWindowPolicy}
    (hw : w ∈ quotaRecordBackedWindows policy) : w.Valid := by
  simp only [quotaRecordBackedWindows] at hw
  split_ifs at hw with hg h5
  · obtain ⟨c, -, rfl⟩ := mem_map.1 hw
    exact CanonicalWindow.valid c
  · obtain rfl := mem_singleton.1 hw
    have h := h5
    simp only [policyHasFiveHour, Bool.and_eq_true, decide_eq_true_eq] at h
    exact ⟨h.1.2, h.2, hfits h5, fun h => by simp [fiveHourWindow] at h⟩
  · exact absurd hw not_mem_nil

/-! ### Failing closed -/

/-- The policy limits what a row with the given total can use. -/
def SubscriptionQuotaPolicy.Limits (total : ℤ) : Prop :=
  (∃ w ∈ policy.windows, 0 < w.1.amount) ∨ policyHasFiveHour policy ∨
    policyHasWeekly policy ∧ 0 < policy.weeklyAmount ∨ policy.mode = .legacy ∧ 0 < total

lemma limits_of_scalarsValid {total : ℤ} (htotal : 0 ≤ total)
    (h : subscriptionQuotaPolicyScalarsValid policy = true) :
    policy.Limits total ∨ policy.mode = .legacy ∧ total = 0 := by
  simp only [subscriptionQuotaPolicyScalarsValid, Bool.and_eq_true] at h
  obtain ⟨⟨-, h⟩, -⟩ := h
  cases hmode : policy.mode with
  | legacy =>
    rcases htotal.eq_or_lt with hzero | hpos
    · exact .inr ⟨rfl, hzero.symm⟩
    · exact .inl (.inr (.inr (.inr ⟨hmode, hpos⟩)))
  | fiveHour =>
    simp only [hmode, Bool.and_eq_true] at h
    exact .inl (.inr
      (.inl (by simp [policyHasFiveHour, hmode, of_decide_eq_true h.1.1, of_decide_eq_true h.1.2])))
  | weekly =>
    simp only [hmode] at h
    exact .inl (.inr (.inr (.inl ⟨by simp [policyHasWeekly, hmode], of_decide_eq_true h⟩)))
  | dual =>
    simp only [hmode, Bool.and_eq_true] at h
    exact .inl (.inr (.inr (.inl ⟨by simp [policyHasWeekly, hmode], of_decide_eq_true h.2⟩)))
  | generic =>
    simp only [hmode] at h
    obtain ⟨w, hw⟩ := exists_mem_of_ne_nil policy.windows (by simpa using h)
    exact .inl (.inl ⟨w, hw, w.2.amount_pos⟩)

def SubscriptionPlan.Malformed (plan : SubscriptionPlan) : Prop :=
  quotaWindowListHasInvalidEntry plan.quotaWindows = true ∨
    subscriptionQuotaWindowModeIsKnown (toLower (trimSpace plan.quotaWindowMode)) = false ∨
    subscriptionResetPeriodIsKnown plan.quotaResetPeriod = false ∨
    plan.totalAmount < 0 ∨ plan.fiveHourAmount < 0 ∨ plan.fiveHourWindowSeconds < 0 ∨
    plan.weeklyAmount < 0 ∨ plan.quotaResetCustomSeconds < 0

/-- Something a row says of its quota is malformed. A list of windows stands for the
    mode, and only versioned rows have a reset period of their own. -/
def UserSubscription.Malformed (sub : UserSubscription) : Prop :=
  sub.hasNegativeScalar = true ∨ quotaWindowListHasInvalidEntry sub.quotaWindowsSnapshot = true ∨
    sub.quotaWindowsSnapshot = [] ∧ (subscriptionQuotaWindowModeIsKnown sub.snapshotMode = false ∨
      0 < sub.planPolicySnapshotVersion ∧
        subscriptionResetPeriodIsKnown sub.quotaResetPeriodSnapshot = false)

/-- The subscription has no limits of its own. -/
def UserSubscription.Inherits (sub : UserSubscription) : Prop :=
  sub.quotaWindowsSnapshot = [] ∧ sub.planPolicySnapshotVersion ≤ 0 ∧ (sub.snapshotMode = "" ∨
    (normalizeQuotaWindowMode sub.snapshotMode = .legacy ∧ sub.fiveHourAmount ≤ 0 ∧
      sub.weeklyAmount ≤ 0 ∧ sub.quotaResetPeriodSnapshot = ""))

lemma invalid_of_malformed {plan : SubscriptionPlan} (h : plan.Malformed) :
    (quotaPolicyFromPlan (some plan)).invalid = true := by
  rw [quotaPolicyFromPlan]
  split
  · rfl
  split
  · rfl
  split
  · rfl
  -- Only a malformed window is left.
  rename_i hscalars hmode hperiod
  simp only [Bool.not_eq_true'] at hmode hperiod
  rcases h with h | h | h | h
  · simp [h]
  · exact absurd h (by simp [hmode])
  · exact absurd h (by simp [hperiod])
  · exact absurd h hscalars

lemma invalid_of_malformed_row (h : sub.Malformed)
    (plan : Option SubscriptionPlan) : (quotaPolicyForSubscription sub plan).invalid = true := by
  rw [quotaPolicyForSubscription]
  rcases h with h | h | ⟨hnil, h⟩
  · rw [if_pos h]
  · split
    · rfl
    rw [if_pos]
    cases hlist : sub.quotaWindowsSnapshot with
    | nil => simp [hlist, quotaWindowListHasInvalidEntry] at h
    | cons => simpa [hlist] using h
  · have hwindows : normalizedQuotaWindowPolicies sub.quotaWindowsSnapshot = [] := by rw [hnil]; rfl
    simp only [hwindows, isEmpty_nil, Bool.not_true, Bool.false_eq_true, if_false]
    rcases h with hmode | ⟨hversion, hperiod⟩
    · simp only [hmode, Bool.not_false]
      split_ifs <;> rfl
    · simp only [hperiod, hversion, Bool.not_false, and_self]
      split_ifs <;> rfl

lemma quotaPolicyForSubscription_of_inherits (h : sub.Inherits)
    (plan : Option SubscriptionPlan) (hplan : (quotaPolicyFromPlan plan).invalid = true) :
    (quotaPolicyForSubscription sub plan).invalid = true := by
  have hwindows : normalizedQuotaWindowPolicies sub.quotaWindowsSnapshot = [] := by rw [h.1]; rfl
  rw [quotaPolicyForSubscription]
  simp only [hwindows, isEmpty_nil, Bool.not_true, Bool.false_eq_true, if_false]
  rw [if_pos h.2]
  split_ifs <;> first | rfl | exact hplan

/-- A policy that is not marked invalid limits the usage, or is the legacy policy
    without a total; whatever is malformed in the plan or the row that decides makes
    it invalid. -/
theorem policy_fails_closed (plan : SubscriptionPlan) (sub : UserSubscription)
    (live : Option SubscriptionPlan) :
    ((quotaPolicyFromPlan (some plan)).invalid = false →
      (quotaPolicyFromPlan (some plan)).Limits plan.totalAmount ∨
        (quotaPolicyFromPlan (some plan)).mode = .legacy ∧ plan.totalAmount = 0) ∧
    ((quotaPolicyForSubscription sub live).invalid = false →
      (quotaPolicyForSubscription sub live).Limits sub.amountTotal ∨
        (quotaPolicyForSubscription sub live).mode = .legacy ∧ sub.amountTotal = 0) ∧
    (plan.Malformed → (quotaPolicyFromPlan (some plan)).invalid = true ∧
      (sub.Inherits → (quotaPolicyForSubscription sub (some plan)).invalid = true)) ∧
    (sub.Malformed → (quotaPolicyForSubscription sub live).invalid = true) := by
  refine ⟨fun h => ?_, fun h => ?_, fun h => ⟨invalid_of_malformed h, fun hsub => ?_⟩,
    fun h => invalid_of_malformed_row h live⟩
  · exact limits_of_scalarsValid (quotaPolicyFromPlan_valid h).1.1
      (scalarsValid_quotaPolicyFromPlan h)
  · refine limits_of_scalarsValid (not_lt.1 fun hneg => ?_)
      (scalarsValid_quotaPolicyForSubscription h)
    have hrow : sub.Malformed := .inl (by simp [hasNegativeScalar, hneg])
    simp [invalid_of_malformed_row hrow live] at h
  · exact quotaPolicyForSubscription_of_inherits hsub _ (invalid_of_malformed h)

/-- A row with a list of windows is valid, whatever its mode says. -/
theorem valid_of_unknown_mode : ∃ sub : UserSubscription,
    subscriptionQuotaWindowModeIsKnown sub.quotaWindowMode = false ∧
      (quotaPolicyForSubscription sub none).invalid = false :=
  ⟨{ id := 1, userId := 1, planId := 1, startTime := 1, endTime := 2, quotaWindowMode :=
    "fortnightly",
     quotaWindowsSnapshot :=
       [{ type := "day", amount := 5 }] }, by decide +kernel, by decide +kernel⟩

end Allrouter
