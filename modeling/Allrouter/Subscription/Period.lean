import Allrouter.Subscription.Policy

/-!
# Reset periods

The aggregate counter of a subscription restarts at the resets of its policy:
at local midnight, on Mondays, on the first of a month or of a year, or after a
number of seconds. `calcNextResetTime` is the reset after an instant, and
`aggregateQuotaPeriodBounds` the period that a record belongs to.

* `calcNextReset_pos`: a reset that is computed lies after the
  instant it is computed from, whatever the clock changes of the location.
-/

namespace Allrouter

open Civil Location Option

/-- The errors of the store: a row that is not there, or one with a text. -/
inductive Error
  | recordNotFound
  | text (message : String)
  deriving DecidableEq

/-! ## Local time -/

namespace LocalTime

variable (loc : Location)

def day (t : ℤ) : ℤ := dayOf (loc.wall t)

/-- The instant of local midnight at the beginning of a day. -/
def midnight (d : ℤ) : ℤ := loc.instant (d * 86400)

/-- The instant that many days later on the calendar, at the same local time. -/
def addDays (t n : ℤ) : ℤ := loc.instant ((day loc t + n) * 86400 + loc.wall t % 86400)

/-- The instant that many months later on the calendar, at the same day of the
    month and local time; the days a month lacks run over into the next one. -/
def addMonths (t n : ℤ) : ℤ :=
  let d := day loc t
  let dayOfMonth := d - monthStart (monthOf d)
  loc.instant ((monthStart (monthOf d + n) + dayOfMonth) * 86400 + loc.wall t % 86400)

/-- The day of the week, Monday being `1` and Sunday `7`. -/
def isoWeekday (d : ℤ) : ℤ := if weekday d = 0 then 7 else weekday d

end LocalTime

open LocalTime

/-! ## Resets -/

variable (loc : Location)

def nextPeriodStart (base : ℤ) (period : ResetPeriod) (customSeconds : ℤ) : Option ℤ :=
  let d := day loc base
  match period with
  | .unset | .never => none
  | .daily => some (addDays loc (midnight loc d) 1)
  | .weekly => some (addDays loc (midnight loc d) (8 - isoWeekday d))
  | .monthly => some (addMonths loc (midnight loc (monthStart (monthOf d))) 1)
  | .yearly => if yearOf d ≥ 9998 then none else some (midnight loc (yearStart (yearOf d + 1)))
  | .custom =>
    if customSeconds ≤ 0 ∨ customSeconds > maxSubscriptionQuotaWindowSeconds then none
    else if base > maxInt64 - customSeconds then none
    else some (base + customSeconds)

/-- The reset after `base` in the given period, `0` for none: there is none after
    the end `endUnix` of the subscription. -/
def calcNextResetTime (base : ℤ) (period : ResetPeriod) (customSeconds endUnix : ℤ) : ℤ :=
  match nextPeriodStart loc base period customSeconds with
  | none => 0
  | some next => if next ≤ base then 0 else if endUnix > 0 ∧ next > endUnix then 0 else next

/-- The reset after `base` under a policy, `0` for none. -/
def calcNextResetTimeForPolicy (base : ℤ) (policy : SubscriptionQuotaPolicy) (endUnix : ℤ) : ℤ :=
  if policy.resetPeriod = .never then 0
  else calcNextResetTime loc base policy.resetPeriod policy.resetCustomSeconds endUnix

lemma calcNextReset_pos {loc : Location} {base endUnix : ℤ} {policy : SubscriptionQuotaPolicy}
    (h : calcNextResetTimeForPolicy loc base policy endUnix ≠ 0) :
    base < calcNextResetTimeForPolicy loc base policy endUnix := by
  simp only [calcNextResetTimeForPolicy, calcNextResetTime] at h ⊢
  generalize nextPeriodStart loc base policy.resetPeriod policy.resetCustomSeconds = next at h ⊢
  cases next with
  | none => simp at h
  | some next =>
    dsimp only at h ⊢
    split_ifs at h ⊢ <;> omega

/-- The record made at `recordTime` belongs to the period the counter is in. -/
def aggregateRecordInCurrentPeriod (sub : UserSubscription) (policy : SubscriptionQuotaPolicy)
    (recordTime now : ℤ) : Bool :=
  if !policyTracksAggregate policy || recordTime ≤ 0 then false
  else if policy.resetPeriod = .never then true
  else if sub.lastResetTime > 0 ∧ recordTime < sub.lastResetTime then false
  else if sub.nextResetTime > 0 ∧ recordTime ≥ sub.nextResetTime ∧
    sub.nextResetTime ≤ now then false
  else recordTime ≤ now

/-- The calendar period of `recordTime`, or the bucket of a custom one. -/
def resetPeriodBounds (period : ResetPeriod) (resetCustomSeconds anchor recordTime : ℤ) :
    Except Error (ℤ × ℤ) :=
  let d := day loc recordTime
  let calendar (start stop : ℤ) : Except Error (ℤ × ℤ) :=
    if stop ≤ start then .error (.text "subscription aggregate period overflows timestamp")
    else .ok (start, stop)
  match period with
  | .daily =>
    let start := midnight loc d
    calendar start (addDays loc start 1)
  | .weekly =>
    let start := addDays loc (midnight loc d) (-(isoWeekday d - 1))
    calendar start (addDays loc start 7)
  | .monthly =>
    let start := midnight loc (monthStart (monthOf d))
    calendar start (addMonths loc start 1)
  | .yearly =>
    let start := midnight loc (yearStart (yearOf d))
    calendar start (addMonths loc start 12)
  | .custom =>
    if resetCustomSeconds ≤ 0 ∨ resetCustomSeconds > maxSubscriptionQuotaWindowSeconds then
      .error (.text "invalid subscription aggregate reset duration")
    else
      let start? := do
        let elapsed ← subscriptionSafeSubInt64 recordTime anchor
        let offset ← subscriptionSafeMulInt64 (floorDivInt64 elapsed resetCustomSeconds)
          resetCustomSeconds
        subscriptionSafeAddInt64 anchor offset
      match start? with
      | none => .error (.text "subscription aggregate period overflows timestamp")
      | some start => .ok (start, (subscriptionSafeAddInt64 start resetCustomSeconds).getD maxInt64)
  | .unset | .never => .error (.text "invalid subscription aggregate reset period")

/-- The aggregate period that contains `recordTime`: the first one begins, and the
    last one ends, with the subscription. -/
def aggregateQuotaPeriodBounds (sub : UserSubscription) (policy : SubscriptionQuotaPolicy)
    (recordTime : ℤ) :
    Except Error (ℤ × ℤ) :=
  if recordTime ≤ 0 then .error (.text "invalid subscription aggregate record time")
  else if sub.startTime > 0 ∧ recordTime < sub.startTime then
    .error (.text "subscription aggregate record predates subscription")
  else if sub.endTime > 0 ∧ recordTime ≥ sub.endTime then
    .error (.text "subscription aggregate record is outside subscription")
  else if policy.resetPeriod = .unset ∨ policy.resetPeriod = .never then
    .ok (sub.startTime, sub.endTime)
  else do
    let (start, stop) ← resetPeriodBounds loc policy.resetPeriod policy.resetCustomSeconds
      sub.startTime recordTime
    let start := if sub.startTime > 0 ∧ start < sub.startTime then sub.startTime else start
    let stop := if sub.endTime > 0 ∧ (stop ≤ 0 ∨ stop > sub.endTime) then sub.endTime else stop
    if stop > 0 ∧ (recordTime < start ∨ recordTime ≥ stop) then
      .error (.text "subscription aggregate period does not contain record")
    else .ok (start, stop)

/-! ## The period of a record is one between resets -/

section

variable {loc : Location} {policy : SubscriptionQuotaPolicy} {start stop b t s : ℤ}

/-- The instants at which the counter of a subscription that starts at `start` resets,
    and its start: the reset after `start`, the one after that, and so on. -/
inductive ResetBoundary (loc : Location) (policy : SubscriptionQuotaPolicy) (start stop : ℤ) :
    ℤ → Prop
  | start : ResetBoundary loc policy start stop start
  | next {b : ℤ} (hb : ResetBoundary loc policy start stop b)
      (hnext : calcNextResetTimeForPolicy loc b policy stop ≠ 0) :
      ResetBoundary loc policy start stop (calcNextResetTimeForPolicy loc b policy stop)

variable (loc policy stop b) in
/-- The boundary after `b`: the next reset, or the end of the subscription. -/
def nextBoundary : ℤ :=
  if calcNextResetTimeForPolicy loc b policy stop = 0 then stop
  else calcNextResetTimeForPolicy loc b policy stop

/-- Going over the boundaries from `b` on, one comes to those around `t`. -/
lemma ResetBoundary.exists_around (hb : ResetBoundary loc policy start stop b) (hle : b ≤ t)
    (ht : t < stop) :
    ∃ b, ResetBoundary loc policy start stop b ∧ b ≤ t ∧ t < nextBoundary loc policy stop b := by
  obtain ⟨n, hn⟩ : ∃ n, (t - b).toNat = n := ⟨_, rfl⟩
  induction n using Nat.strong_induction_on generalizing b with
  | _ n ih =>
    by_cases hlast : t < nextBoundary loc policy stop b
    · exact ⟨b, hb, hle, hlast⟩
    · have hnext : calcNextResetTimeForPolicy loc b policy stop ≠ 0 := by
        intro hzero
        rw [nextBoundary, if_pos hzero] at hlast
        exact hlast ht
      rw [nextBoundary, if_neg hnext, not_lt] at hlast
      have := calcNextReset_pos hnext
      exact ih _ (by omega) (hb.next hnext) hlast rfl

variable (loc policy start stop) in
/-- The resets and the periods of a subscription are those of one grid, cut off at
    its start and its end. -/
structure FollowsGrid (g : Grid) : Prop where
  next : ∀ b, start ≤ b → b < stop → b = start ∨ g.start b = b →
    nextBoundary loc policy stop b = min (g.stop b) stop
  bounds : ∀ t, start ≤ t → t < stop → ∃ e, 0 < e ∧ min e stop = min (g.stop t) stop ∧
    resetPeriodBounds loc policy.resetPeriod policy.resetCustomSeconds start t = .ok (g.start t, e)

lemma FollowsGrid.boundary {g : Grid} (hg : FollowsGrid loc policy start stop g)
    (hb : ResetBoundary loc policy start stop b) (hstop : b < stop) :
      start ≤ b ∧ (b = start ∨ g.start b = b) := by
  induction hb with
  | start => exact ⟨le_rfl, .inl rfl⟩
  | @next b hb hnext ih =>
    have hlt := calcNextReset_pos hnext
    obtain ⟨hle, haligned⟩ := ih (hlt.trans hstop)
    have heq := hg.next b hle (hlt.trans hstop) haligned
    rw [nextBoundary] at heq
    -- The reset is before the end, so it is where a bucket of the grid stops.
    have hgrid : calcNextResetTimeForPolicy loc b policy stop = g.stop b := by omega
    rw [hgrid] at hlt ⊢
    exact ⟨hle.trans hlt.le, .inr g.start_stop⟩

/-- The interval between the boundaries around `t` is the period of `t`. -/
lemma FollowsGrid.aggregateQuotaPeriodBounds {g : Grid} {sub : UserSubscription}
    (hg : FollowsGrid loc policy sub.startTime sub.endTime g) (hstart : 0 < sub.startTime)
    (hreset : policy.resetPeriod ≠ .never ∧ policy.resetPeriod ≠ .unset) (ht : t < sub.endTime)
    (hb : ResetBoundary loc policy sub.startTime sub.endTime b) (hle : b ≤ t)
    (hlt : t < nextBoundary loc policy sub.endTime b) :
      Allrouter.aggregateQuotaPeriodBounds loc sub policy t =
      .ok (b, nextBoundary loc policy sub.endTime b) := by
  obtain ⟨hb₁, hb₂⟩ := hg.boundary hb (hle.trans_lt ht)
  rw [hg.next b hb₁ (hle.trans_lt ht) hb₂] at hlt ⊢
  obtain ⟨e, he, hmin, hbounds⟩ := hg.bounds t (hb₁.trans hle) ht
  have hmem : g.start b ≤ t ∧ t < g.stop b :=
    ⟨g.start_le.trans hle, lt_of_lt_of_le hlt (min_le_left _ _)⟩
  rw [g.stop_eq_of_mem hmem.1 hmem.2] at hmin
  rw [g.start_eq_of_mem hmem.1 hmem.2] at hbounds
  have hfirst : (if sub.startTime > 0 ∧ g.start b < sub.startTime then sub.startTime
      else g.start b) = b := by
    have := g.start_le (t := b)
    split_ifs <;> omega
  have hlast : (if sub.endTime > 0 ∧ (e ≤ 0 ∨ e > sub.endTime) then sub.endTime else e) =
      min (g.stop b) sub.endTime := by
    split_ifs <;> omega
  rw [Allrouter.aggregateQuotaPeriodBounds, if_neg (by omega), if_neg (by omega), if_neg (by omega),
    if_neg (by tauto), hbounds]
  simp only [Bind.bind, Except.bind, hfirst, hlast]
  rw [if_neg (by omega)]

lemma nextBoundary_of_none
    (h : nextPeriodStart loc b policy.resetPeriod policy.resetCustomSeconds = none) :
    nextBoundary loc policy stop b = stop := by
  rw [nextBoundary]
  simp [calcNextResetTimeForPolicy, calcNextResetTime, h]

lemma nextBoundary_of_some {n : ℤ} (hreset : policy.resetPeriod ≠ .never)
    (h : nextPeriodStart loc b policy.resetPeriod policy.resetCustomSeconds = some n) (hb : 0 < b)
    (hn : b < n) (hstop : 0 < stop) : nextBoundary loc policy stop b = min n stop := by
  have hnext : calcNextResetTimeForPolicy loc b policy stop = if n > stop then 0 else n := by
    simp only [calcNextResetTimeForPolicy, if_neg hreset, calcNextResetTime, h]
    rw [if_neg (by omega)]
    simp [hstop]
  rw [nextBoundary]
  split_ifs <;> omega

/-- Calendar periods follow their grid; the end of a year is the only one that may
    be missing, after the end of the subscription. -/
lemma FollowsGrid.of_calendar {g : Grid} (hstart : 0 < start) (hreset : policy.resetPeriod ≠ .never)
    (hnext : ∀ b, nextPeriodStart loc b policy.resetPeriod policy.resetCustomSeconds =
      some (g.stop b) ∨
      nextPeriodStart loc b policy.resetPeriod policy.resetCustomSeconds = none ∧ stop ≤ g.stop b)
    (hbounds : ∀ t, g.start t < g.stop t →
      resetPeriodBounds loc policy.resetPeriod policy.resetCustomSeconds start t =
        .ok (g.start t, g.stop t)) : FollowsGrid loc policy start stop g where
  next b hb hlt _ := by
    rcases hnext b with h | ⟨h, hle⟩
    · exact nextBoundary_of_some hreset h (by omega) g.lt_stop (by omega)
    · rw [nextBoundary_of_none h, min_eq_right hle]
  bounds t ht _ := by
    have hlt := g.lt_stop (t := t)
    have hle := g.start_le (t := t)
    exact ⟨g.stop t, by omega, rfl, hbounds t (by omega)⟩

/-! ### Fixed offsets -/

lemma midnight_fixed (d : ℤ) : midnight (.fixed s) d = d * 86400 - s := rfl

lemma addDays_fixed (d n : ℤ) : addDays (.fixed s) (d * 86400 - s) n = (d + n) * 86400 - s := by
  simp only [addDays, day, fixed, instant, wall, dayOf]
  omega

lemma addMonths_fixed (m n : ℤ) :
    addMonths (.fixed s) (monthStart m * 86400 - s) n = monthStart (m + n) * 86400 - s := by
  have hday : day (.fixed s) (monthStart m * 86400 - s) = monthStart m := by
    simp only [day, fixed, wall, dayOf]
    omega
  have hmonth := monthOf_eq_iff.2 ⟨le_rfl, monthStart_strictMono (lt_add_one m)⟩
  simp only [addMonths, hday, hmonth]
  simp only [fixed, instant, wall]
  omega

lemma monthStart_year (y : ℤ) : monthStart (12 * y) = yearStart y := by
  rw [monthStart]
  simp [daysBefore, commonDaysBefore]

lemma followsGrid_weekly (hperiod : policy.resetPeriod = .weekly) (hstart : 0 < start) :
    FollowsGrid (.fixed s) policy start stop
      ((Grid.every (7 * 86400) mondayAnchor (by decide)).shift s) := by
  -- The Monday of a day, by its weekday and by the weeks since the first Monday.
  have hmonday : ∀ t, day (.fixed s) t - (isoWeekday (day (.fixed s) t) - 1) =
      4 + 7 * ((t + s - mondayAnchor) / (7 * 86400)) := by
    intro t
    simp only [isoWeekday, weekday, mondayAnchor, day, wall, fixed, dayOf]
    split_ifs <;> omega
  refine .of_calendar hstart (by simp [hperiod]) (fun b => .inl ?_) fun t hlt => ?_
  · have := hmonday b
    simp only [nextPeriodStart, hperiod, midnight_fixed, addDays_fixed, Grid.stop,
      Grid.shift, Grid.every, some.injEq]
    unfold mondayAnchor at this ⊢
    omega
  · have := hmonday t
    have hfirst : (day (.fixed s) t + -(isoWeekday (day (.fixed s) t) - 1)) * 86400 =
        mondayAnchor + (t + s - mondayAnchor) / (7 * 86400) * (7 * 86400) := by
      unfold mondayAnchor at this ⊢
      omega
    have hlast : (day (.fixed s) t + -(isoWeekday (day (.fixed s) t) - 1) + 7) * 86400 =
        mondayAnchor + ((t + s - mondayAnchor) / (7 * 86400) + 1) * (7 * 86400) := by
      rw [add_mul, hfirst]
      ring
    simp only [resetPeriodBounds, hperiod, midnight_fixed, addDays_fixed, hlast]
    simp only [hfirst] at hlt ⊢
    exact if_neg (not_le.2 hlt)

lemma followsGrid_custom (hperiod : policy.resetPeriod = .custom) (hstart : 0 < start)
    (hstop : stop ≤ maxInt64) (hpos : 0 < policy.resetCustomSeconds)
    (hle : policy.resetCustomSeconds ≤ maxSubscriptionQuotaWindowSeconds) :
    FollowsGrid loc policy start stop (.every policy.resetCustomSeconds start hpos) := by
  have hmax := two_mul_maxWindow_lt
  refine ⟨fun b hb hlt haligned => ?_, fun t ht hlt => ?_⟩
  · have hb' : (Grid.every policy.resetCustomSeconds start hpos).start b = b := by
      rcases haligned with rfl | h
      · exact Grid.start_every_anchor _ _ _
      · exact h
    rw [Grid.stop_every, hb']
    by_cases hfits : b > maxInt64 - policy.resetCustomSeconds
    · rw [nextBoundary_of_none, min_eq_right (by omega)]
      simp only [nextPeriodStart, hperiod]
      rw [if_neg (by omega), if_pos hfits]
    · refine nextBoundary_of_some (by simp [hperiod]) ?_ (by omega) (by omega) (by omega)
      simp only [nextPeriodStart, hperiod]
      rw [if_neg (by omega), if_neg hfits]
  · obtain ⟨k, hk⟩ : ∃ k, (t - start) / policy.resetCustomSeconds = k := ⟨_, rfl⟩
    have hk₀ := hk ▸ Int.ediv_nonneg (by omega) hpos.le
    have hkle := hk ▸ Int.ediv_mul_le _ hpos.ne'
    have hk' := le_mul_of_one_le_right hk₀ hpos
    have helapsed : subscriptionSafeSubInt64 t start = some (t - start) := by
      rw [safeSub_eq (by unfold IsInt64 minInt64; omega) (by unfold minInt64; omega),
        if_pos (by unfold IsInt64 minInt64; omega)]
    have hmul : subscriptionSafeMulInt64 k policy.resetCustomSeconds =
        some (k * policy.resetCustomSeconds) :=
      safeMul_of_fits (by unfold IsInt64 minInt64; omega)
        (by unfold IsInt64 minInt64; unfold maxInt64 at *; omega)
          (by unfold IsInt64 minInt64; omega)
    have hadd : subscriptionSafeAddInt64 start (k * policy.resetCustomSeconds) =
        some (start + k * policy.resetCustomSeconds) :=
      safeAdd_of_fits (by unfold IsInt64 minInt64; omega) (by unfold IsInt64 minInt64; omega)
    refine ⟨(subscriptionSafeAddInt64 (start + k * policy.resetCustomSeconds)
      policy.resetCustomSeconds).getD maxInt64, ?_, ?_, ?_⟩
    · rw [safeAdd_eq (by unfold IsInt64 minInt64; omega)]
      split_ifs <;> simp only [getD_some, getD_none] <;> omega
    · -- Where the end of the bucket is cut off, the subscription ends before it.
      rw [safeAdd_eq (by unfold IsInt64 minInt64; omega), Grid.stop_every]
      simp only [Grid.start, Grid.every, hk]
      split_ifs with hfits
      · rfl
      · unfold IsInt64 minInt64 at hfits
        rw [getD_none]
        omega
    · simp only [resetPeriodBounds, hperiod]
      rw [if_neg (by omega)]
      simp [helapsed, floorDivInt64_eq hpos, hk, hmul, hadd, Grid.start, Grid.every]

/-- Every period that resets follows a grid, under a clock with a fixed offset. -/
lemma exists_followsGrid (hstart : 0 < start) (hstop : stop ≤ maxInt64)
    (hreset : policy.resetPeriod ≠ .never ∧ policy.resetPeriod ≠ .unset)
    (hcustom : policy.resetPeriod = .custom → 0 < policy.resetCustomSeconds ∧
      policy.resetCustomSeconds ≤ maxSubscriptionQuotaWindowSeconds)
    (hyearly : policy.resetPeriod = .yearly → stop ≤ midnight (.fixed s) (yearStart 9999)) :
    ∃ g, FollowsGrid (.fixed s) policy start stop g := by
  have hday : ∀ t, day (.fixed s) t = dayOf (t + s) := fun _ => rfl
  cases hperiod : policy.resetPeriod with
  | unset => exact absurd hperiod hreset.2
  | never => exact absurd hperiod hreset.1
  | daily =>
    refine ⟨(Grid.every 86400 0 (by norm_num)).shift s, .of_calendar hstart hreset.1 ?_ ?_⟩
    · intro b
      simp [nextPeriodStart, hperiod, midnight_fixed, addDays_fixed, hday, Grid.stop, Grid.shift,
        Grid.every, dayOf]
    · intro t hlt
      simp only [resetPeriodBounds, hperiod, midnight_fixed, addDays_fixed, hday,
        Grid.start, Grid.stop, Grid.shift, Grid.every, dayOf, sub_zero, zero_add] at hlt ⊢
      exact if_neg (not_le.2 hlt)
  | weekly => exact ⟨_, followsGrid_weekly hperiod hstart⟩
  | monthly =>
    refine ⟨Grid.months.shift s, .of_calendar hstart hreset.1 ?_ ?_⟩
    · intro b
      simp [nextPeriodStart, hperiod, midnight_fixed, addMonths_fixed, hday, Grid.stop, Grid.shift,
        Grid.months]
    · intro t hlt
      simp only [resetPeriodBounds, hperiod, midnight_fixed, addMonths_fixed, hday,
        Grid.start, Grid.stop, Grid.shift, Grid.months] at hlt ⊢
      exact if_neg (not_le.2 hlt)
  | yearly =>
    refine ⟨Grid.years.shift s, .of_calendar hstart hreset.1 ?_ ?_⟩
    · intro b
      simp only [nextPeriodStart, hperiod, hday, Grid.stop, Grid.shift, Grid.years]
      split_ifs with hlast
      · have := yearStart_strictMono.monotone (show 9999 ≤ yearOf (dayOf (b + s)) + 1 by omega)
        have := hyearly hperiod
        rw [midnight_fixed] at this
        exact .inr ⟨rfl, by omega⟩
      · exact .inl rfl
    · intro t hlt
      simp only [resetPeriodBounds, hperiod, midnight_fixed, hday, ← monthStart_year,
        addMonths_fixed, Grid.start, Grid.stop, Grid.shift, Grid.years, mul_add, mul_one] at hlt ⊢
      exact if_neg (not_le.2 hlt)
  | custom =>
    exact ⟨_, followsGrid_custom hperiod hstart hstop (hcustom hperiod).1 (hcustom hperiod).2⟩

/-- The period of a record is the interval between the two boundaries around it, of
    those that iterating the resets from the start gives, with the end of the
    subscription as the last one. Yearly resets are computed up to the year 9998. -/
theorem aggregateQuotaPeriodBounds_iterated {sub : UserSubscription}
    {plan : Option SubscriptionPlan} (hpolicy : quotaPolicyForSubscription sub plan = policy)
    (hvalid : policy.invalid = false) (htracks : policyTracksAggregate policy = true)
    (hreset : policy.resetPeriod ≠ .never ∧ policy.resetPeriod ≠ .unset)
    (hstart : 0 < sub.startTime) (hstop : sub.endTime ≤ maxInt64)
    (hyearly : policy.resetPeriod = .yearly → sub.endTime ≤ midnight (.fixed s) (yearStart 9999))
    (ht₁ : sub.startTime ≤ t) (ht₂ : t < sub.endTime) :
    (∃ b, ResetBoundary (.fixed s) policy sub.startTime sub.endTime b ∧ b ≤ t ∧
      t < nextBoundary (.fixed s) policy sub.endTime b) ∧
    ∀ b, ResetBoundary (.fixed s) policy sub.startTime sub.endTime b → b ≤ t →
      t < nextBoundary (.fixed s) policy sub.endTime b →
        aggregateQuotaPeriodBounds (.fixed s) sub policy t =
        .ok (b, nextBoundary (.fixed s) policy sub.endTime b) := by
  subst hpolicy
  obtain ⟨g, hg⟩ :=
    exists_followsGrid hstart hstop hreset (resetCustomSeconds_of_valid hvalid htracks) hyearly
  refine ⟨ResetBoundary.start.exists_around ht₁ ht₂, fun b hb hle hlt => ?_⟩
  exact hg.aggregateQuotaPeriodBounds hstart hreset ht₂ hb hle hlt

/-- A row that was issued with a total and a reset. -/
def resettingRow (start stop : ℤ) (period : ResetPeriod) : UserSubscription where
  id := 1
  userId := 1
  planId := 1
  amountTotal := 100
  startTime := start
  endTime := stop
  quotaWindowMode := "legacy"
  quotaResetPeriodSnapshot := period.text
  planPolicySnapshotVersion := 1

def dailyRow : UserSubscription := resettingRow 1000 500000 .daily

def dailyPolicy : SubscriptionQuotaPolicy := quotaPolicyForSubscription dailyRow none

/-- A subscription that is reset every day, by a clock that is an hour ahead. -/
theorem aggregateQuotaPeriodBounds_iterated_daily :
    (∃ b, ResetBoundary (.fixed 3600) dailyPolicy dailyRow.startTime dailyRow.endTime b ∧
      b ≤ 90000 ∧
      90000 < nextBoundary (.fixed 3600) dailyPolicy dailyRow.endTime b) ∧
    ∀ b, ResetBoundary (.fixed 3600) dailyPolicy dailyRow.startTime dailyRow.endTime b → b ≤ 90000 →
      90000 < nextBoundary (.fixed 3600) dailyPolicy dailyRow.endTime b →
      aggregateQuotaPeriodBounds (.fixed 3600) dailyRow dailyPolicy 90000 =
        .ok (b, nextBoundary (.fixed 3600) dailyPolicy dailyRow.endTime b) :=
  aggregateQuotaPeriodBounds_iterated (rfl : quotaPolicyForSubscription dailyRow none = dailyPolicy)
    (by decide +kernel) (by decide +kernel) (by decide +kernel) (by decide) (by decide)
      (by decide +kernel)
    (by decide) (by decide)

/-- No yearly reset is computed from the year 9998 on, so the periods of the years
    after it, which records still have, are none between resets. -/
theorem aggregateQuotaPeriodBounds_after_9998 :
    ∃ sub : UserSubscription, ∃ t b, 0 < sub.startTime ∧ sub.startTime ≤ t ∧ t < sub.endTime ∧
      (quotaPolicyForSubscription sub none).invalid = false ∧
      ResetBoundary (.fixed 0) (quotaPolicyForSubscription sub none) sub.startTime sub.endTime b ∧
        b ≤ t ∧
      t < nextBoundary (.fixed 0) (quotaPolicyForSubscription sub none) sub.endTime b ∧
      aggregateQuotaPeriodBounds (.fixed 0) sub (quotaPolicyForSubscription sub none) t ≠
        .ok (b, nextBoundary (.fixed 0) (quotaPolicyForSubscription sub none) sub.endTime b) :=
  ⟨resettingRow 253339228800 253402300800 .yearly, 253370764800, 253339228800, by decide, by decide,
    by decide, by decide +kernel, .start, by decide, by decide +kernel, by decide +kernel⟩

end

/-! ## The end of a plan -/

/-- The longest duration in seconds: a duration is stored in nanoseconds. -/
def maxDurationSeconds : ℤ := maxInt64.tdiv 1000000000

def calcPlanEndTime (start : ℤ) (plan : SubscriptionPlan) : Except Error ℤ :=
  let calendarEnd (unitSeconds : ℤ) (stop : ℤ) : Except Error ℤ :=
    if plan.durationValue > maxDurationSeconds.tdiv unitSeconds then
      .error (.text "duration_value is too large")
    else match subscriptionSafeAddInt64 start (stop - start) with
      | none => .error (.text "subscription duration overflows timestamp")
      | some endUnix =>
        if endUnix ≤ start then .error (.text "subscription duration overflows timestamp")
        else .ok endUnix
  let after (seconds : ℤ) : Except Error ℤ :=
    match subscriptionSafeAddInt64 start seconds with
    | none => .error (.text "subscription duration overflows timestamp")
    | some endUnix => .ok endUnix
  let fixedEnd (unitSeconds : ℤ) : Except Error ℤ :=
    if plan.durationValue > maxDurationSeconds.tdiv unitSeconds then
      .error (.text "duration_value is too large")
    else after (plan.durationValue * unitSeconds)
  if plan.durationValue ≤ 0 ∧ plan.durationUnit ≠ "custom" then
    .error (.text "duration_value must be > 0")
  else match plan.durationUnit with
    | "year" => calendarEnd (366 * 24 * 60 * 60) (addMonths loc start (12 * plan.durationValue))
    | "month" => calendarEnd (31 * 24 * 60 * 60) (addMonths loc start plan.durationValue)
    | "day" => fixedEnd (24 * 60 * 60)
    | "hour" => fixedEnd (60 * 60)
    | "custom" =>
      if plan.customSeconds ≤ 0 then .error (.text "custom_seconds must be > 0")
      else if plan.customSeconds > maxDurationSeconds then .error
        (.text "custom_seconds is too large")
      else after plan.customSeconds
    | unit => .error (.text ("invalid duration_unit: " ++ unit))

end Allrouter
