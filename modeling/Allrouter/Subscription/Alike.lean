import Allrouter.Library.TwoRuns
import Allrouter.Subscription.Effect

/-!
# Two runs of a charge in advance

The same request is charged on two databases, where what differs is not to matter: the
catalogs (`PlansAgree`), or records that no window counts.

* `UserSubscription.Intact`: the snapshot says all of the policy, up to what a policy of windows
  does not use (`SubscriptionQuotaPolicy.Agrees`);
* `agree_attemptSubscriptions`: the subscriptions are tried alike, if the request is charged to each
  of them alike (`ChargesAlike`).
-/

namespace Allrouter

open Civil Text TwoRuns SubscriptionPlan

/-! ## Snapshots -/

/-- The snapshot of the row can be read, and a row of windows has no resets of a counter. -/
structure UserSubscription.Intact (sub : UserSubscription) : Prop where
  version : 0 < sub.planPolicySnapshotVersion
  nonneg : sub.hasNegativeScalar = false
  windows : quotaWindowListHasInvalidEntry sub.quotaWindowsSnapshot = false
  mode : subscriptionQuotaWindowModeIsKnown sub.snapshotMode = true
  period : subscriptionResetPeriodIsKnown sub.quotaResetPeriodSnapshot = true
  resets : normalizedQuotaWindowPolicies sub.quotaWindowsSnapshot ≠ [] → sub.lastResetTime = 0 ∧
    sub.nextResetTime = 0

/-- The policies decide alike: what differs are the scalars of policies of windows. -/
structure SubscriptionQuotaPolicy.Agrees (policy policy' : SubscriptionQuotaPolicy) : Prop where
  mode : policy'.mode = policy.mode
  windows : policy'.windows = policy.windows
  invalid : policy'.invalid = policy.invalid
  eq : policy.mode ≠ .generic → policy' = policy

section

variable {loc : Location} {now : ℤ} {sub : UserSubscription}
    {policy policy' : SubscriptionQuotaPolicy}

lemma SubscriptionQuotaPolicy.Agrees.refl (policy : SubscriptionQuotaPolicy) :
    policy.Agrees policy :=
  ⟨rfl, rfl, rfl, fun _ => rfl⟩

namespace UserSubscription.Intact

variable (h : sub.Intact)
include h

lemma policy_of_windows (hne : normalizedQuotaWindowPolicies sub.quotaWindowsSnapshot ≠ [])
    (plan : Option SubscriptionPlan) :
      quotaPolicyForSubscription sub plan = { quotaPolicyFromPlan plan with
        windows := normalizedQuotaWindowPolicies sub.quotaWindowsSnapshot, mode :=
          .generic, invalid := false } := by
  simp [quotaPolicyForSubscription, h.nonneg, h.windows, hne]

lemma policy_of_scalars (hnil : normalizedQuotaWindowPolicies sub.quotaWindowsSnapshot = [])
    (plan plan' : Option SubscriptionPlan) :
      quotaPolicyForSubscription sub plan' = quotaPolicyForSubscription sub plan := by
  have hversion := h.version
  have hsnapshot : ∀ policy policy' : SubscriptionQuotaPolicy, sub.snapshotPolicy policy' =
      sub.snapshotPolicy policy :=
    fun policy policy' => by simp only [UserSubscription.snapshotPolicy, if_pos hversion]
  simp [quotaPolicyForSubscription, h.nonneg, h.windows, hnil, h.mode, h.period, not_le.2 hversion,
    hsnapshot (quotaPolicyFromPlan plan) (quotaPolicyFromPlan plan')]

lemma agrees (plan plan' : Option SubscriptionPlan) :
    (quotaPolicyForSubscription sub plan).Agrees (quotaPolicyForSubscription sub plan') := by
  by_cases hnil : normalizedQuotaWindowPolicies sub.quotaWindowsSnapshot = []
  · rw [h.policy_of_scalars hnil plan plan']
    exact .refl _
  · rw [h.policy_of_windows hnil, h.policy_of_windows hnil]
    exact ⟨rfl, rfl, rfl, fun hne => absurd rfl hne⟩

lemma resetSubscription_of_windows
    (hne : normalizedQuotaWindowPolicies sub.quotaWindowsSnapshot ≠ [])
    (plan : Option SubscriptionPlan) :
    resetSubscription loc sub (quotaPolicyForSubscription sub plan) now = none := by
  obtain ⟨hlast, hnext⟩ := h.resets hne
  have htracks : policyTracksAggregate (quotaPolicyForSubscription sub plan) = false := by
    rw [h.policy_of_windows hne]
    rfl
  rw [resetSubscription, htracks, hlast, hnext]
  simp

lemma resetSubscription_eq (plan plan' : Option SubscriptionPlan) :
    resetSubscription loc sub (quotaPolicyForSubscription sub plan') now =
      resetSubscription loc sub (quotaPolicyForSubscription sub plan) now := by
  by_cases hnil : normalizedQuotaWindowPolicies sub.quotaWindowsSnapshot = []
  · rw [h.policy_of_scalars hnil plan plan']
  · rw [h.resetSubscription_of_windows hnil, h.resetSubscription_of_windows hnil]

lemma withCounters {used last next : ℤ} (hused : 0 ≤ sub.amountUsed → 0 ≤ used)
    (hresets : normalizedQuotaWindowPolicies sub.quotaWindowsSnapshot ≠ [] → last = 0 ∧ next = 0) :
    (sub.withCounters used last next).Intact := by
  refine ⟨h.version, ?_, h.windows, h.mode, h.period, hresets⟩
  have hnonneg := h.nonneg
  simp only [hasNegativeScalar, Bool.or_eq_false_iff, decide_eq_false_iff_not, not_lt] at hnonneg ⊢
  exact ⟨⟨⟨⟨⟨hnonneg.1.1.1.1.1, hused hnonneg.1.1.1.1.2⟩, hnonneg.1.1.1.2⟩, hnonneg.1.1.2⟩,
    hnonneg.1.2⟩, hnonneg.2⟩

lemma reset {plan : Option SubscriptionPlan} {sub' : UserSubscription}
    (hreset : resetSubscription loc sub (quotaPolicyForSubscription sub plan) now = some sub') :
      sub'.Intact := by
  by_cases hnil : normalizedQuotaWindowPolicies sub.quotaWindowsSnapshot = []
  · obtain ⟨used, last, next, rfl, hused⟩ := resetSubscription_eq_some hreset
    exact h.withCounters (by omega) fun hne => absurd hnil hne
  · rw [h.resetSubscription_of_windows hnil] at hreset
    cases hreset

end UserSubscription.Intact

/-! ## Policies that agree -/

namespace SubscriptionQuotaPolicy.Agrees

variable (h : policy.Agrees policy')
include h

/-- What a policy of windows decides does not depend on its scalars. -/
lemma congr {β : Sort*} (f : SubscriptionQuotaPolicy → β)
    (hf : policy.mode = .generic → policy'.mode = .generic → f policy' = f policy) :
      f policy' = f policy := by
  by_cases hmode : policy.mode = .generic
  · exact hf hmode (h.mode.trans hmode)
  · rw [h.eq hmode]

lemma tracks : policyTracksAggregate policy' = policyTracksAggregate policy :=
  policyTracksAggregate_congr h.mode

lemma weeklyLimit (sub : UserSubscription) :
    policyWeeklyLimit policy' sub = policyWeeklyLimit policy sub :=
  h.congr (policyWeeklyLimit · sub) fun hmode hmode' => by
    simp [policyWeeklyLimit, policyHasWeekly, hmode, hmode']

lemma genericAvailable (db : Database) (sub : UserSubscription) (now amount : ℤ) :
    genericQuotaAvailableTx db sub policy' now amount =
      genericQuotaAvailableTx db sub policy now amount := by
  simp only [genericQuotaAvailableTx, policyHasGenericWindows, h.windows]

lemma fiveHourAvailable (db : Database) (sub : UserSubscription) (now amount : ℤ) :
    fiveHourQuotaAvailableTx db sub policy' now amount =
      fiveHourQuotaAvailableTx db sub policy now amount :=
  h.congr (fiveHourQuotaAvailableTx db sub · now amount) fun hmode hmode' => by
    simp [fiveHourQuotaAvailableTx, policyHasFiveHour_generic hmode,
      policyHasFiveHour_generic hmode']

lemma chargeCounter (db : Database) (sub : UserSubscription) (amount : ℤ) :
    Allrouter.chargeCounter db sub policy' amount =
      Allrouter.chargeCounter db sub policy amount := by
  simp only [Allrouter.chargeCounter, h.tracks]

lemma settleOnSubscription (loc : Location) (db : Database) (sub : UserSubscription)
    (record : SubscriptionPreConsumeRecord) (target now : ℤ) :
    Allrouter.settleOnSubscription loc db sub policy' record target now =
      Allrouter.settleOnSubscription loc db sub policy record target now :=
  h.congr (Allrouter.settleOnSubscription loc db sub · record target now) fun hmode hmode' => by
    simp only [Allrouter.settleOnSubscription, checkSettlement, checkAggregate, checkFiveHour,
      genericQuotaTargetAllowedTx, policyHasGenericWindows, h.windows, h.invalid,
      policyTracksAggregate_generic hmode, policyTracksAggregate_generic hmode',
      policyHasFiveHour_generic hmode, policyHasFiveHour_generic hmode', Bool.false_and,
        Bool.false_eq_true,
      if_false, false_and]
    rfl

lemma uncharge (db : Database) (sub : UserSubscription)
    (record : SubscriptionPreConsumeRecord) (now : ℤ) :
    Allrouter.uncharge db sub policy' record now = Allrouter.uncharge db sub policy record now :=
  h.congr (Allrouter.uncharge db sub · record now) fun hmode hmode' => by
    simp [Allrouter.uncharge, policyTracksAggregate_generic hmode,
      policyTracksAggregate_generic hmode']

/-- The usage is reported by both or by none; what differs is the five-hour limit of a policy of
    windows. -/
lemma populate (db : Database) (result : SubscriptionPreConsumeResult)
    (sub : UserSubscription) (now : ℤ) :
      Agree (fun _ _ => True) (populatePreConsumeResultTx db result sub policy now)
      (populatePreConsumeResultTx db result sub policy' now) := by
  by_cases hmode : policy.mode = .generic
  · have hmode' := h.mode.trans hmode
    simp only [populatePreConsumeResultTx, policyHasFiveHour_generic hmode,
      policyHasFiveHour_generic hmode', Bool.false_eq_true, false_and, if_false, h.windows]
    exact Agree.bind_eq rfl fun _ => Agree.bind_eq rfl fun _ => .ok trivial
  · rw [h.eq hmode]
    exact .of_eq rfl fun _ => trivial

end SubscriptionQuotaPolicy.Agrees

/-! ## Plans that agree -/

/-- The plans that the row is found to have in the two catalogs. -/
inductive PlansAgree (sub : UserSubscription) : Option SubscriptionPlan →
    Option SubscriptionPlan → Prop
  | same (plan : Option SubscriptionPlan) : PlansAgree sub plan plan
  | edited {plan plan' : SubscriptionPlan} (h : sub.Intact)
      (hprovider : plan'.providerId = plan.providerId)
      (hmodels : plan'.modelLimits = plan.modelLimits) : PlansAgree sub (some plan) (some plan')

variable {plan plan' : Option SubscriptionPlan}

namespace PlansAgree

variable (h : PlansAgree sub plan plan')
include h

lemma policy_agrees :
    (quotaPolicyForSubscription sub plan).Agrees (quotaPolicyForSubscription sub plan') := by
  cases h with
  | same => exact .refl _
  | edited h => exact h.agrees _ _

lemma resetSubscription_eq : resetSubscription loc sub (quotaPolicyForSubscription sub plan') now =
      resetSubscription loc sub (quotaPolicyForSubscription sub plan) now := by
  cases h with
  | same => rfl
  | edited h => exact h.resetSubscription_eq _ _

lemma reset {sub' : UserSubscription}
    (hreset : resetSubscription loc sub (quotaPolicyForSubscription sub plan) now = some sub') :
    PlansAgree sub' plan plan' := by
  cases h with
  | same => exact .same _
  | edited h hprovider hmodels => exact .edited (h.reset hreset) hprovider hmodels

/-- Neither of the plans is there, or both are for the same provider and models. -/
lemma none_or_some : plan = none ∧ plan' = none ∨
    ∃ p p', plan = some p ∧ plan' = some p' ∧ p'.providerId = p.providerId ∧
      p'.modelLimits = p.modelLimits := by
  cases h with
  | same plan =>
    cases plan with
    | none => exact .inl ⟨rfl, rfl⟩
    | some plan => exact .inr ⟨plan, plan, rfl, rfl, rfl, rfl⟩
  | edited _ hprovider hmodels => exact .inr ⟨_, _, rfl, rfl, hprovider, hmodels⟩

end PlansAgree

/-! ## Charges -/

/-- The request is charged alike to the row, whatever its counters are. -/
structure ChargesAlike (R : Attempt → Attempt → Prop) (request : PreConsumeRequest) (now clock : ℤ)
    (sub : UserSubscription) (policy policy' : SubscriptionQuotaPolicy) (db db' : Database) :
      Prop where
  generic : genericQuotaAvailableTx db' sub policy now request.amount =
    genericQuotaAvailableTx db sub policy now request.amount
  fiveHour : fiveHourQuotaAvailableTx db' sub policy now request.amount =
    fiveHourQuotaAvailableTx db sub policy now request.amount
  charge (used last next : ℤ) : Agree (fun r r' => R (.charged r.1 r.2) (.charged r'.1 r'.2))
    (chargeSubscription db (sub.withCounters used last next) policy request now clock)
    (chargeSubscription db' (sub.withCounters used last next) policy' request now clock)

variable {clock : ℤ} {db db' : Database} {request : PreConsumeRequest}
    {R : Attempt → Attempt → Prop}

lemma ChargesAlike.agree_admission (h : ChargesAlike R request now clock sub policy policy' db db')
    (hpolicy : policy.Agrees policy') (hskip : R (.skipped db) (.skipped db'))
    (used last next : ℤ) :
    Agree R (admitToSubscription db (sub.withCounters used last next) policy request now clock)
      (admitToSubscription db' (sub.withCounters used last next) policy' request now clock) := by
  have hskip : Agree R (.ok (.skipped db) : Except Error Attempt) (.ok (.skipped db')) := .ok hskip
  rw [admitToSubscription, admitToSubscription]
  simp only [hpolicy.tracks, hpolicy.weeklyLimit, hpolicy.genericAvailable,
    hpolicy.fiveHourAvailable]
  generalize policyWeeklyLimit policy (sub.withCounters used last next) = limit
  -- The row that is charged, with the counter cut down to the limit.
  obtain ⟨used', hcapped⟩ : ∃ used', (if (policyTracksAggregate policy = true ∧ limit > 0) ∧
      (sub.withCounters used last next).amountUsed > limit then
        { sub.withCounters used last next with amountUsed := limit }
          else sub.withCounters used last next) =
      sub.withCounters used' last next := by
    split_ifs
    exacts [⟨_, rfl⟩, ⟨_, rfl⟩]
  rw [hcapped]
  split_ifs
  · exact .error _
  · exact hskip
  refine Agree.bind_eq h.generic fun available => ?_
  cases available with
  | false => exact hskip
  | true =>
    refine Agree.bind_eq h.fiveHour fun available => ?_
    cases available with
    | false => exact hskip
    | true => exact Agree.bind (h.charge used' last next) fun _ _ hcharged => .ok hcharged

/-- A subscription is tried alike, if the plan it is found to have is, and it is charged alike once
    it is up to date. -/
lemma agree_attemptSubscription (hskip : R (.skipped db) (.skipped db'))
    (hplans : Agree (PlansAgree sub) (getSubscriptionPlanOrSnapshotTx db sub)
      (getSubscriptionPlanOrSnapshotTx db' sub))
    (hsave : ∀ row : UserSubscription, R (.skipped (db.saveSubscription row))
      (.skipped (db'.saveSubscription row)))
    (hcharge : ∀ {d d' : Database} {plan plan' : SubscriptionPlan}, R (.skipped d) (.skipped d') →
      getSubscriptionPlanOrSnapshotTx db sub = .ok (some plan) →
      getSubscriptionPlanOrSnapshotTx db' sub = .ok (some plan') →
      (quotaPolicyForSubscription sub (some plan)).invalid = false →
      (quotaPolicyForSubscription sub (some plan)).Agrees
        (quotaPolicyForSubscription sub (some plan')) →
      ChargesAlike R request now clock sub (quotaPolicyForSubscription sub (some plan))
        (quotaPolicyForSubscription sub (some plan')) d d') :
    Agree R (attemptSubscription loc db sub request now clock)
      (attemptSubscription loc db' sub request now clock) := by
  have hskip' : Agree R (.ok (.skipped db) : Except Error Attempt) (.ok (.skipped db')) := .ok hskip
  rw [attemptSubscription, attemptSubscription]
  obtain ⟨_, _, hx, hy, hplan⟩ | ⟨e, hx, hy⟩ := hplans.cases
  all_goals rw [hx, hy]
  · obtain ⟨rfl, rfl⟩ | ⟨plan, plan', rfl, rfl, hprovider, hmodels⟩ := hplan.none_or_some
    · exact hskip'
    dsimp only
    rw [hprovider, allowsModel, allowsModel, hmodels]
    split_ifs
    · exact hskip'
    have hpolicy := hplan.policy_agrees
    have hinvalid := hpolicy.invalid
    rw [maybeResetUserSubscriptionWithPlanTx, maybeResetUserSubscriptionWithPlanTx, hinvalid,
      hplan.resetSubscription_eq]
    cases hvalid : (quotaPolicyForSubscription sub (some plan)).invalid with
    | true => exact .error _
    | false =>
      have hadmit {d d' : Database} (hd : R (.skipped d) (.skipped d')) :=
        (hcharge hd hx hy hvalid hpolicy).agree_admission hpolicy hd
      cases hreset : resetSubscription loc sub (quotaPolicyForSubscription sub (some plan)) now with
      | none =>
        simp only [bind, Except.bind, hvalid, hinvalid, Bool.false_eq_true, if_false]
        exact hadmit hskip _ _ _
      | some row =>
        obtain ⟨used, last, next, rfl, hused⟩ := resetSubscription_eq_some hreset
        have hnonneg := amountUsed_nonneg_of_valid hvalid
        have hsame := policy_withCounters hnonneg (show 0 ≤ used by omega) last next
        simp only [bind, Except.bind, hsame, hvalid, hinvalid, Bool.false_eq_true, if_false]
        exact hadmit (hsave _) _ _ _
  · cases e with
    | recordNotFound => exact hskip'
    | _ => exact .error _

lemma agree_attemptSubscriptions {subs : List UserSubscription}
    (hapart : ∀ {d d' : Database} {result : SubscriptionPreConsumeResult},
      ¬R (.skipped d) (.charged d' result) ∧ ¬R (.charged d result) (.skipped d'))
    (hattempt : ∀ sub ∈ subs, ∀ {d d' : Database}, R (.skipped d) (.skipped d') →
      Agree R (attemptSubscription loc d sub request now clock)
        (attemptSubscription loc d' sub request now clock))
    (hskip : R (.skipped db) (.skipped db')) :
    Agree (fun r r' => R (.charged r.1 r.2) (.charged r'.1 r'.2))
      (attemptSubscriptions loc request now clock db subs)
      (attemptSubscriptions loc request now clock db' subs) := by
  induction subs generalizing db db' with
  | nil => exact .error _
  | cons sub subs ih =>
    obtain ⟨hsub, hsubs⟩ := List.forall_mem_cons.1 hattempt
    refine Agree.bind (hsub hskip) fun attempt attempt' h => ?_
    cases attempt <;> cases attempt'
    · exact ih hsubs h
    · exact absurd h hapart.1
    · exact absurd h hapart.2
    · exact .ok h

end

end Allrouter
