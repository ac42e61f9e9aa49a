import Allrouter.Library.Transaction
import Allrouter.Subscription.PreConsume

/-!
# Issuing a subscription

A subscription is issued from a plan of the catalog, or from the snapshot of it
that an order took. It carries the quota policy of that plan with it: whatever
becomes of the plan, the policy of the subscription is the one it was issued with
(`quotaPolicyForSubscription_issued`, for policies with an aggregate limit).

The stock of the plan, the limits on purchases and the user's group, which the
issuance also updates, play no part in the quotas and are left out.
-/

namespace Allrouter

open Civil Text SubscriptionQuotaPolicy SubscriptionPlan UserSubscription Except

/-- The plan that the subscription is issued with: an order's snapshot of the plan
    of the catalog, if it has one. -/
def entitlementPlan (authoritativePlan : SubscriptionPlan) :
    Option SubscriptionPlan → Except Error SubscriptionPlan
  | none => .ok authoritativePlan
  | some snapshot =>
    let snapshot := snapshot.normalizeQuotaWindows
    if snapshot.id ≠ authoritativePlan.id ∨ snapshot.providerId ≠ authoritativePlan.providerId then
      .error (.text "invalid subscription plan snapshot")
    else .ok snapshot

/-- The row of a new subscription: a snapshot of the plan and its policy. -/
def issuedSubscription (plan : SubscriptionPlan) (id userId providerId now endUnix nextReset : ℤ) :
    UserSubscription :=
  let policy := quotaPolicyFromPlan (some plan)
  { id := id
    userId := userId
    planId := plan.id
    providerId := providerId
    amountTotal := plan.totalAmount
    amountUsed := 0
    -- The other text of the mode is not a column of the table.
    quotaWindowMode := policy.mode.text
    fiveHourAmount := policy.fiveHourAmount
    fiveHourWindowSeconds := policy.fiveHourWindowSeconds
    weeklyAmount := policy.weeklyAmount
    quotaResetPeriodSnapshot := policy.resetPeriod.text
    quotaResetCustomSecondsSnapshot := policy.resetCustomSeconds
    quotaWindowsSnapshot := normalizeQuotaWindowList plan.quotaWindows
    planPolicySnapshotVersion := 1
    modelLimitsSnapshot := plan.modelLimits
    startTime := now
    endTime := endUnix
    status := .active
    lastResetTime := if nextReset > 0 then now else 0
    nextResetTime := nextReset }

def issueSubscription (loc : Location) (plan : SubscriptionPlan) (id userId providerId now : ℤ) :
    Except Error UserSubscription :=
  match calcPlanEndTime loc now plan with
  | .error e => .error e
  | .ok endUnix =>
    let policy := quotaPolicyFromPlan (some plan)
    let nextReset :=
      if policyTracksAggregate policy then calcNextResetTimeForPolicy loc now policy endUnix else 0
    if policy.invalid then .error invalidSubscriptionQuotaPolicyError
    else if plan.providerId ≠ providerId then
      .error (.text "subscription plan does not belong to user provider")
    else .ok (issuedSubscription plan id userId providerId now endUnix nextReset)

/-- Issues a subscription to the user, under the new key `id`. -/
def createUserSubscriptionFromPlan (loc : Location) (db : Database) (id userId planId : ℤ)
    (entitlementSnapshot : Option SubscriptionPlan) (now : ℤ) :
      Except Error (Database × UserSubscription) :=
  if planId = 0 then .error (.text "invalid plan")
  else if userId ≤ 0 then .error (.text "invalid user id")
  else match Table.get? SubscriptionUser.id userId db.users with
    | none => .error .recordNotFound
    | some lockedUser =>
      if planId ≤ 0 then .error (.text "invalid subscription purchase scope")
      else match db.findPlan planId with
        | none => .error .recordNotFound
        | some target => do
          let plan ← entitlementPlan target.normalizeQuotaWindows entitlementSnapshot
          let sub ← issueSubscription loc plan id userId lockedUser.providerId now
          .ok ({ db with subscriptions := db.subscriptions ++ [sub] }, sub)

/-! ## The policy it carries -/

section

variable {plan : SubscriptionPlan}

lemma normalizeQuotaWindowMode_text (mode : QuotaWindowMode) :
    normalizeQuotaWindowMode mode.text = mode := by
  cases mode <;> decide +kernel

lemma modeIsKnown_text (mode : QuotaWindowMode) :
    subscriptionQuotaWindowModeIsKnown mode.text = true := by
  cases mode <;> decide +kernel

lemma trimSpace_text (mode : QuotaWindowMode) : trimSpace mode.text = mode.text ∧
    mode.text ≠ "" := by
  cases mode <;> decide +kernel

lemma normalizeResetPeriod_ne_unset (period : String) : normalizeResetPeriod period ≠ .unset := by
  unfold normalizeResetPeriod
  split <;> simp

lemma resetPeriod_text {period : ResetPeriod} (h : period ≠ .unset) :
    normalizeResetPeriod period.text = period ∧ period.text ≠ "" ∧
      subscriptionResetPeriodIsKnown period.text = true := by
  cases period with
  | unset => exact absurd rfl h
  | never | daily | weekly | monthly | yearly | custom => decide +kernel

/-- The windows of a list in canonical values are not lost when it is read again. -/
lemma normalizedQuotaWindowPolicies_normalized {list : List SubscriptionQuotaWindow}
    (h : normalizedQuotaWindowPolicies (normalizeQuotaWindowList list) = []) :
      normalizeQuotaWindowList list = [] := by
  rw [normalizedQuotaWindowPolicies_eq_nil] at h
  cases hlist : normalizeQuotaWindowList list with
  | nil => rfl
  | cons item rest =>
    obtain ⟨c, rfl⟩ := exists_eq_toWindow_of_mem (hlist ▸ List.mem_cons_self : item ∈ _)
    rw [hlist, normalizeQuotaWindowList, normalizeQuotaWindowListFrom, canonical_toWindow] at h
    simp at h

/-- No amount of the plan is negative. -/
structure SubscriptionPlan.NonnegScalars (plan : SubscriptionPlan) : Prop where
  totalAmount : 0 ≤ plan.totalAmount
  fiveHourAmount : 0 ≤ plan.fiveHourAmount
  fiveHourWindowSeconds : 0 ≤ plan.fiveHourWindowSeconds
  weeklyAmount : 0 ≤ plan.weeklyAmount
  quotaResetCustomSeconds : 0 ≤ plan.quotaResetCustomSeconds

lemma SubscriptionPlan.NonnegScalars.foldAmountAliases (h : plan.NonnegScalars) :
    plan.foldAmountAliases.NonnegScalars := by
  refine ⟨h.totalAmount, ?_, h.fiveHourWindowSeconds, ?_, h.quotaResetCustomSeconds⟩
  · have := h.fiveHourAmount
    simp only [SubscriptionPlan.foldAmountAliases]
    split_ifs <;> omega
  · have := h.weeklyAmount
    simp only [SubscriptionPlan.foldAmountAliases]
    split_ifs <;> omega

lemma SubscriptionPlan.NonnegScalars.normalizeScalars (h : plan.NonnegScalars) :
    plan.normalizeScalars.NonnegScalars := by
  refine ⟨h.totalAmount, h.fiveHourAmount, ?_, h.weeklyAmount, h.quotaResetCustomSeconds⟩
  have := h.fiveHourWindowSeconds
  simp only [SubscriptionPlan.normalizeScalars, defaultFiveHourWindowSeconds]
  split_ifs <;> omega

lemma SubscriptionPlan.NonnegScalars.normalizeMode (h : plan.NonnegScalars) :
    plan.normalizeMode.NonnegScalars := by
  have hmax : SubscriptionPlan.NonnegScalars
      { plan with fiveHourAmount := max plan.fiveHourAmount plan.totalAmount } :=
    ⟨h.totalAmount, le_max_of_le_left h.fiveHourAmount, h.fiveHourWindowSeconds, h.weeklyAmount,
      h.quotaResetCustomSeconds⟩
  have hwindow {p : SubscriptionPlan} (hp : p.NonnegScalars) (window : SubscriptionQuotaWindow) :
      (p.withWindow window).NonnegScalars :=
    ⟨hp.totalAmount, hp.fiveHourAmount, hp.fiveHourWindowSeconds, hp.weeklyAmount,
      hp.quotaResetCustomSeconds⟩
  have hp : (if periodModeUnit (toLower (trimSpace plan.quotaWindowMode)) = some (.hour, true) then
      { plan with fiveHourAmount := max plan.fiveHourAmount plan.totalAmount }
          else plan).NonnegScalars := by
    split_ifs
    · exact hmax
    · exact h
  unfold SubscriptionPlan.normalizeMode
  dsimp only
  split
  · exact hwindow hp _
  · split
    · exact hwindow hp _
    · exact hp.normalizeScalars

lemma SubscriptionPlan.NonnegScalars.normalizeQuotaWindows (h : plan.NonnegScalars) :
    plan.normalizeQuotaWindows.NonnegScalars := by
  have hwindows {p : SubscriptionPlan} (hp : p.NonnegScalars)
    (windows : List SubscriptionQuotaWindow)
      (mode : String) (invalid : Bool) :
      SubscriptionPlan.NonnegScalars
        { p with quotaWindows := windows, quotaWindowMode := mode, quotaWindowsInvalid :=
            invalid } :=
    ⟨hp.totalAmount, hp.fiveHourAmount, hp.fiveHourWindowSeconds, hp.weeklyAmount,
      hp.quotaResetCustomSeconds⟩
  unfold SubscriptionPlan.normalizeQuotaWindows
  dsimp only
  split_ifs
  · exact hwindows h _ _ _
  · exact hwindows h _ _ _
  · exact hwindows h _ _ _
  · exact hwindows (hwindows h _ _ _).foldAmountAliases _ _ _
  · exact (hwindows (hwindows h plan.quotaWindows plan.quotaWindowMode _).foldAmountAliases _ _
      _).normalizeMode

/-- A policy that a row can take a snapshot of: its scalars say all of it. -/
structure SubscriptionQuotaPolicy.Scalar (policy : SubscriptionQuotaPolicy) : Prop where
  valid : policy.invalid = false
  windows : policy.windows = []
  not_generic : policy.mode ≠ .generic
  resetPeriod : policy.resetPeriod ≠ .unset
  withFiveHourDefault : policy.withFiveHourDefault = policy
  checked : policy.checked = policy
  fiveHourAmount : 0 ≤ policy.fiveHourAmount
  fiveHourWindowSeconds : 0 ≤ policy.fiveHourWindowSeconds
  weeklyAmount : 0 ≤ policy.weeklyAmount
  resetCustomSeconds : 0 ≤ policy.resetCustomSeconds
  weekly : policy.mode = .weekly ∨ policy.mode = .dual → 0 < policy.weeklyAmount

lemma SubscriptionQuotaPolicy.withFiveHourDefault_idem (policy : SubscriptionQuotaPolicy) :
    policy.withFiveHourDefault.withFiveHourDefault = policy.withFiveHourDefault := by
  simp only [withFiveHourDefault]
  split_ifs with h₁ h₂
  · rfl
  · rfl
  · rfl

lemma SubscriptionQuotaPolicy.withFiveHourDefault_weekly (policy : SubscriptionQuotaPolicy)
    (amount : ℤ) :
    ({ policy with weeklyAmount := amount } : SubscriptionQuotaPolicy).withFiveHourDefault =
      { policy.withFiveHourDefault with weeklyAmount := amount } := rfl

variable {id now providerId userId : ℤ} {loc : Location} {policy : SubscriptionQuotaPolicy}
  {sub : UserSubscription}

lemma weeklyAmount_pos_of_scalarsValid (h : subscriptionQuotaPolicyScalarsValid policy = true) :
    policy.mode = .weekly ∨ policy.mode = .dual → 0 < policy.weeklyAmount := by
  rintro (hmode | hmode) <;>
    simp only [subscriptionQuotaPolicyScalarsValid, hmode, Bool.and_eq_true, decide_eq_true_eq] at h
  · exact h.1.2
  · exact h.1.2.2

lemma checked_eq_self (h : policy.checked.invalid = false) :
    policy.checked = policy ∧ subscriptionQuotaPolicyScalarsValid policy = true := by
  have h' : (policy.invalid || !subscriptionQuotaPolicyScalarsValid policy) = false := h
  simp only [Bool.or_eq_false_iff, Bool.not_eq_false'] at h'
  refine ⟨?_, h'.2⟩
  rw [checked, h'.2, Bool.not_true, Bool.or_false]

/-- The scalars of a policy, written to a row, are read back as the policy. -/
lemma snapshotPolicy_issued (hpolicy : policy.Scalar) (hmode : sub.snapshotMode = policy.mode.text)
    (hfive : sub.fiveHourAmount = policy.fiveHourAmount)
    (hseconds : sub.fiveHourWindowSeconds = policy.fiveHourWindowSeconds)
    (hweekly : sub.weeklyAmount = policy.weeklyAmount)
    (hperiod : sub.quotaResetPeriodSnapshot = policy.resetPeriod.text)
    (hcustom : sub.quotaResetCustomSecondsSnapshot = policy.resetCustomSeconds)
    (inherited : SubscriptionQuotaPolicy) : sub.snapshotPolicy inherited = policy := by
  obtain ⟨hperiodEq, hperiodNe, -⟩ := resetPeriod_text hpolicy.resetPeriod
  have hweeklyEq : (if (policy.mode = .weekly ∨ policy.mode = .dual) ∧ policy.weeklyAmount ≤ 0 then
      sub.amountTotal else policy.weeklyAmount) = policy.weeklyAmount :=
    if_neg fun h => absurd (hpolicy.weekly h.1) (not_lt.2 h.2)
  have heq : { policy with windows := [], invalid := false } = policy := by
    rw [← hpolicy.windows, ← hpolicy.valid]
  simp only [snapshotPolicy, hmode, hfive, hseconds, hweekly, hperiod, hcustom,
    (trimSpace_text policy.mode).2, normalizeQuotaWindowMode_text, hpolicy.not_generic,
      hperiodEq, hperiodNe,
    hweeklyEq, if_false, ne_eq, not_false_iff, if_true, decide_false, Bool.false_and]
  rw [heq, hpolicy.withFiveHourDefault, hpolicy.checked]

lemma snapshotMode_issued (id userId providerId now endUnix nextReset : ℤ) :
    (issuedSubscription plan id userId providerId now endUnix nextReset).snapshotMode =
      (quotaPolicyFromPlan (some plan)).mode.text := by
  obtain ⟨htrim, hne⟩ := trimSpace_text (quotaPolicyFromPlan (some plan)).mode
  simp only [snapshotMode, issuedSubscription, htrim, if_neg hne]

section

variable (hvalid : (quotaPolicyFromPlan (some plan)).invalid = false)
  (htracks : policyTracksAggregate (quotaPolicyFromPlan (some plan)) = true)
include hvalid htracks

/-- The policy of a plan that limits the aggregate counter is that of its scalars. -/
lemma quotaPolicyFromPlan_of_tracks :
    quotaPolicyFromPlan (some plan) = plan.normalizeQuotaWindows.scalarPolicy ∧
      (quotaPolicyFromPlan (some plan)).mode ≠ .generic ∧ plan.NonnegScalars ∧
      plan.normalizeQuotaWindows.describedPolicy.windows = [] ∧
        normalizeQuotaWindowList plan.quotaWindows = [] := by
  have hgeneric : (quotaPolicyFromPlan (some plan)).mode ≠ .generic := by
    intro h
    simp [policyTracksAggregate, policyHasWeekly, h] at htracks
  obtain ⟨⟨h₁, h₂, h₃, h₄, h₅⟩, hraw, ⟨-, hpolicy⟩ | ⟨hnil, hpolicy⟩⟩ :=
    quotaPolicyFromPlan_valid hvalid
  · rw [hpolicy] at hgeneric
    exact absurd rfl hgeneric
  · refine ⟨hpolicy, hgeneric, ⟨h₁, h₂, h₃, h₄, h₅⟩, hnil, ?_⟩
    rw [Bool.or_eq_false_iff] at hraw
    by_contra hne
    have hcopy : plan.normalizeQuotaWindows.quotaWindows =
        normalizeQuotaWindowList plan.quotaWindows := by
      have hne' : (normalizeQuotaWindowList plan.quotaWindows).isEmpty = false := by
        simpa using hne
      simp [normalizeQuotaWindows, hraw.1, hraw.2, hne']
    refine hne (normalizedQuotaWindowPolicies_normalized ?_)
    rwa [describedPolicy, hcopy] at hnil

/-- A valid policy with an aggregate limit says all by its scalars. -/
lemma scalar_quotaPolicyFromPlan : (quotaPolicyFromPlan (some plan)).Scalar := by
  obtain ⟨hscalar, hgeneric, hnonneg, hwindows, -⟩ := quotaPolicyFromPlan_of_tracks hvalid htracks
  have hcopy := hnonneg.normalizeQuotaWindows
  rw [hscalar] at hvalid hgeneric ⊢
  obtain ⟨hchecked, hscalars⟩ := checked_eq_self hvalid
  rw [scalarPolicy] at hvalid hgeneric ⊢
  rw [hchecked] at hvalid hgeneric ⊢
  exact
    { valid := hvalid
      windows := hwindows
      not_generic := hgeneric
      resetPeriod := normalizeResetPeriod_ne_unset _
      withFiveHourDefault := by
        rw [withFiveHourDefault_weekly, withFiveHourDefault_idem]
      checked := hchecked
      fiveHourAmount := hcopy.fiveHourAmount
      fiveHourWindowSeconds := by
        have := hcopy.fiveHourWindowSeconds
        simp only [withFiveHourDefault, describedPolicy, defaultFiveHourWindowSeconds]
        split_ifs <;> omega
      weeklyAmount := by
        have h₁ := hcopy.weeklyAmount
        have h₂ := hcopy.totalAmount
        split_ifs
        · exact h₂
        · exact h₁
      resetCustomSeconds := hcopy.quotaResetCustomSeconds
      weekly := weeklyAmount_pos_of_scalarsValid hscalars }

lemma quotaPolicyForSubscription_issued (id userId providerId now endUnix nextReset : ℤ)
    (current : Option SubscriptionPlan) :
    quotaPolicyForSubscription (issuedSubscription plan id userId providerId now endUnix nextReset)
      current =
      quotaPolicyFromPlan (some plan) := by
  obtain ⟨-, -, hnonneg, -, hlist⟩ := quotaPolicyFromPlan_of_tracks hvalid htracks
  have hscalar := scalar_quotaPolicyFromPlan hvalid htracks
  obtain ⟨-, -, hperiodKnown⟩ := resetPeriod_text hscalar.resetPeriod
  have hmode := @snapshotMode_issued plan id userId providerId now endUnix nextReset
  obtain ⟨sub, hsub⟩ : ∃ sub, issuedSubscription plan id userId providerId now endUnix nextReset =
      sub :=
    ⟨_, rfl⟩
  rw [hsub] at hmode
  have hneg : sub.hasNegativeScalar = false := by
    subst hsub
    simp only [hasNegativeScalar, Bool.or_eq_false_iff]
    exact ⟨⟨⟨⟨⟨decide_eq_false (not_lt.2 hnonneg.totalAmount), rfl⟩,
      decide_eq_false (not_lt.2 hscalar.fiveHourAmount)⟩,
        decide_eq_false (not_lt.2 hscalar.fiveHourWindowSeconds)⟩,
      decide_eq_false (not_lt.2 hscalar.weeklyAmount)⟩,
      decide_eq_false (not_lt.2 hscalar.resetCustomSeconds)⟩
  have hwindows : sub.quotaWindowsSnapshot = [] := by rw [← hsub, issuedSubscription, hlist]
  have hversion : sub.planPolicySnapshotVersion = 1 := by rw [← hsub, issuedSubscription]
  have hperiod : sub.quotaResetPeriodSnapshot =
      (quotaPolicyFromPlan (some plan)).resetPeriod.text := by
    rw [← hsub, issuedSubscription]
  rw [hsub, quotaPolicyForSubscription, hneg, hwindows, hmode, hversion, hperiod, hperiodKnown,
    modeIsKnown_text]
  have hnil : normalizedQuotaWindowPolicies [] = [] := rfl
  simp only [hnil]
  have hsnapshot := snapshotPolicy_issued hscalar hmode (by rw [← hsub]; rfl) (by rw [← hsub]; rfl)
    (by rw [← hsub]; rfl) hperiod (by rw [← hsub]; rfl) (quotaPolicyFromPlan current)
  simpa using hsnapshot

end

lemma tracks_of_issued {endUnix nextReset : ℤ} {current : Option SubscriptionPlan}
    (hvalid : (quotaPolicyForSubscription
      (issuedSubscription plan id userId providerId now endUnix nextReset) current).invalid = false)
    (htracks : policyTracksAggregate (quotaPolicyForSubscription
      (issuedSubscription plan id userId providerId now endUnix nextReset) current) = true) :
    policyTracksAggregate (quotaPolicyFromPlan (some plan)) = true := by
  have hmode := @snapshotMode_issued plan id userId providerId now endUnix nextReset
  rcases quotaPolicyForSubscription_valid hvalid with ⟨-, hpolicy⟩ | ⟨hversion, -⟩ | hpolicy
  · rw [hpolicy] at htracks
    cases htracks
  · exact absurd hversion (by simp [issuedSubscription])
  · rw [hpolicy] at htracks
    rw [← htracks]
    refine policyTracksAggregate_congr ?_
    simp only [snapshotPolicy, checked, withFiveHourDefault, hmode, if_neg (trimSpace_text _).2,
      normalizeQuotaWindowMode_text]

lemma issueSubscription_eq_ok (h : issueSubscription loc plan id userId providerId now = .ok sub) :
    (quotaPolicyFromPlan (some plan)).invalid = false ∧ ∃ endUnix,
      sub = issuedSubscription plan id userId providerId now endUnix
        (if policyTracksAggregate (quotaPolicyFromPlan (some plan)) then
          calcNextResetTimeForPolicy loc now (quotaPolicyFromPlan (some plan)) endUnix else 0) := by
  rw [issueSubscription] at h
  split at h
  · cases h
  rename_i endUnix _
  by_cases hinvalid : (quotaPolicyFromPlan (some plan)).invalid = true
  · rw [if_pos hinvalid] at h
    cases h
  by_cases hprovider : plan.providerId ≠ providerId
  · rw [if_neg hinvalid, if_pos hprovider] at h
    cases h
  rw [if_neg hinvalid, if_neg hprovider] at h
  exact ⟨by simpa using hinvalid, endUnix, (ok.inj h).symm⟩

/-- An issued subscription is the row of its plan, under the checks of the issuance. -/
lemma createUserSubscriptionFromPlan_eq_ok {db db' : Database} {planId : ℤ}
    {entitlementSnapshot : Option SubscriptionPlan}
    (h : createUserSubscriptionFromPlan loc db id userId planId entitlementSnapshot now =
      .ok (db', sub)) :
    ∃ plan providerId, issueSubscription loc plan id userId providerId now = .ok sub ∧
      db' = { db with subscriptions := db.subscriptions ++ [sub] } := by
  rw [createUserSubscriptionFromPlan] at h
  split at h
  · cases h
  split at h
  · cases h
  split at h
  · cases h
  rename_i lockedUser _
  split at h
  · cases h
  split at h
  · cases h
  obtain ⟨plan, -, h⟩ := bind_eq_ok.1 h
  obtain ⟨sub', hissue, h⟩ := bind_eq_ok.1 h
  obtain ⟨hdb, rfl⟩ := Prod.mk.inj (ok.inj h)
  exact ⟨plan, lockedUser.providerId, hissue, hdb.symm⟩

end

end Allrouter
