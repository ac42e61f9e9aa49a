import Allrouter.Subscription.Account
import Allrouter.Subscription.Alike
import Allrouter.Subscription.Issue

/-!
# What becomes of a subscription when its plan is edited

An issued subscription has a snapshot of its plan, and what users can do with it is
decided by the snapshot. Two runs of the same calls are compared, on catalogs that differ in one
plan: the calls are accepted or refused alike, and count the same usage.

* `UserSubscription.Issued.intact`: the snapshot of an issued subscription says all of its policy;
* `usage_independent_of_plan`: the two runs.
-/

namespace Allrouter

open Civil Text TwoRuns List Agree Table SubscriptionQuotaPolicy Database Location

/-! ## Issued rows -/

/-- The rows that become of an issued one: it is reset and counted on, and its status and its
    times may be changed. -/
inductive UserSubscription.Issued : UserSubscription → Prop
  | issue {loc : Location} {plan : SubscriptionPlan} {id userId providerId now : ℤ}
      {sub : UserSubscription}
      (h : issueSubscription loc plan id userId providerId now = .ok sub) : Issued sub
  | reset {sub sub' : UserSubscription} {loc : Location} {plan : Option SubscriptionPlan} {now : ℤ}
    (h : Issued sub)
      (hreset : resetSubscription loc sub (quotaPolicyForSubscription sub plan) now =
        some sub') : Issued sub'
  | count {sub : UserSubscription} (h : Issued sub) {used : ℤ} (hused : 0 ≤ used) :
      Issued (sub.withCounters used sub.lastResetTime sub.nextResetTime)
  | edit {sub : UserSubscription} (h : Issued sub) (status : SubscriptionStatus)
    (startTime endTime : ℤ) :
      Issued { sub with status := status, startTime := startTime, endTime := endTime }

/-- The scalars of a valid policy of a plan are not negative. -/
structure SubscriptionQuotaPolicy.NonnegScalars (policy : SubscriptionQuotaPolicy) : Prop where
  fiveHourAmount : 0 ≤ policy.fiveHourAmount
  fiveHourWindowSeconds : 0 ≤ policy.fiveHourWindowSeconds
  weeklyAmount : 0 ≤ policy.weeklyAmount
  resetCustomSeconds : 0 ≤ policy.resetCustomSeconds

section

variable {loc : Location} {now : ℤ} {sub : UserSubscription} {plan : SubscriptionPlan}

lemma SubscriptionPlan.NonnegScalars.scalarPolicy (h : plan.NonnegScalars) :
    plan.scalarPolicy.NonnegScalars := by
  refine ⟨h.fiveHourAmount, ?_, ?_, h.quotaResetCustomSeconds⟩
  · have := h.fiveHourWindowSeconds
    simp only [SubscriptionPlan.scalarPolicy, checked,
      withFiveHourDefault, SubscriptionPlan.describedPolicy, defaultFiveHourWindowSeconds]
    split_ifs <;> omega
  · have h₁ := h.weeklyAmount
    have h₂ := h.totalAmount
    rw [SubscriptionPlan.scalarPolicy]
    split_ifs
    · exact h₂
    · exact h₁

lemma nonnegScalars_quotaPolicyFromPlan
    (hvalid : (quotaPolicyFromPlan (some plan)).invalid = false) :
    plan.NonnegScalars ∧ (quotaPolicyFromPlan (some plan)).NonnegScalars := by
  obtain ⟨⟨h₁, h₂, h₃, h₄, h₅⟩, -, ⟨-, hpolicy⟩ | ⟨-, hpolicy⟩⟩ := quotaPolicyFromPlan_valid hvalid
  all_goals
    have hplan : plan.NonnegScalars := ⟨h₁, h₂, h₃, h₄, h₅⟩
    have hcopy := hplan.normalizeQuotaWindows
    rw [hpolicy]
  · exact ⟨hplan, hcopy.fiveHourAmount, hcopy.fiveHourWindowSeconds, hcopy.weeklyAmount,
      hcopy.quotaResetCustomSeconds⟩
  · exact ⟨hplan, hcopy.scalarPolicy⟩

lemma intact_of_issue {id userId providerId : ℤ}
    (h : issueSubscription loc plan id userId providerId now = .ok sub) : sub.Intact := by
  obtain ⟨hvalid, endUnix, rfl⟩ := issueSubscription_eq_ok h
  obtain ⟨hplan, hpolicy⟩ := nonnegScalars_quotaPolicyFromPlan hvalid
  obtain ⟨htrim, hne⟩ := trimSpace_text (quotaPolicyFromPlan (some plan)).mode
  refine ⟨by simp [issuedSubscription], ?_, quotaWindowListHasInvalidEntry_normalized _, ?_, ?_,
    fun hwindows => ?_⟩
  · simp [UserSubscription.hasNegativeScalar, issuedSubscription, hplan.totalAmount,
      hpolicy.fiveHourAmount, hpolicy.fiveHourWindowSeconds, hpolicy.weeklyAmount,
        hpolicy.resetCustomSeconds]
  · simp only [UserSubscription.snapshotMode, issuedSubscription, htrim, if_neg hne,
      modeIsKnown_text]
  · simp only [issuedSubscription]
    cases (quotaPolicyFromPlan (some plan)).resetPeriod <;> decide +kernel
  · have htracks : ¬ policyTracksAggregate (quotaPolicyFromPlan (some plan)) = true :=
      fun htracks => by
      obtain ⟨-, -, -, -, hlist⟩ := quotaPolicyFromPlan_of_tracks hvalid htracks
      refine hwindows ?_
      rw [issuedSubscription, hlist]
      rfl
    simp [issuedSubscription, htracks]

lemma UserSubscription.Issued.intact (h : sub.Issued) : sub.Intact := by
  induction h with
  | issue h => exact intact_of_issue h
  | reset _ hreset ih => exact ih.reset hreset
  | count _ hused ih => exact ih.withCounters (fun _ => hused) ih.resets
  | edit _ status startTime endTime ih => exact ⟨ih.version, ih.nonneg, ih.windows, ih.mode,
    ih.period, ih.resets⟩

lemma UserSubscription.Issued.count_upToDate (h : sub.Issued) (plan : Option SubscriptionPlan)
    (counts : Bool) (delta : ℤ) : ((sub.upToDate loc plan now).count counts delta).Issued := by
  have hreset : (sub.upToDate loc plan now).Issued := by
    cases plan with
    | none => exact h
    | some plan =>
      rw [UserSubscription.upToDate]
      cases hreset : resetSubscription loc sub (quotaPolicyForSubscription sub (some plan)) now with
      | none => exact h
      | some sub' => exact h.reset hreset
  rw [UserSubscription.count]
  split_ifs
  · exact hreset.count (le_max_left _ _)
  · exact hreset

end

/-! ## Two catalogs -/

def Database.withPlans (db : Database) (plans : List SubscriptionPlan) : Database :=
  { db with plans := plans }

@[simp] lemma Database.findRecord_withPlans (db : Database) (plans : List SubscriptionPlan) :
    (db.withPlans plans).findRecord = db.findRecord := rfl

@[simp] lemma Database.findSubscription_withPlans (db : Database) (plans : List SubscriptionPlan) :
    (db.withPlans plans).findSubscription = db.findSubscription := rfl

/-- The catalog is that of the database, but for the plan: it may be edited, deleted or restored. -/
def Database.SameBut (db : Database) (planId : ℤ) (plans : List SubscriptionPlan) : Prop :=
  ∀ id ≠ planId, get? SubscriptionPlan.id id plans = db.findPlan id

section

variable {loc : Location} {now clock planId : ℤ} {db : Database} {plans : List SubscriptionPlan}
  {sub : UserSubscription} {plan plan' : Option SubscriptionPlan} {request : PreConsumeRequest}
  {policy policy' : SubscriptionQuotaPolicy}

/-- A versioned row always has a plan, with the provider and the models of its snapshot. -/
lemma planOrSnapshot_of_versioned (hversion : 0 < sub.planPolicySnapshotVersion)
    (hid : 0 < sub.planId) (db : Database) : ∃ plan, getSubscriptionPlanOrSnapshotTx db sub =
      .ok (some plan) ∧
      plan.providerId = sub.providerId ∧ plan.modelLimits = sub.modelLimitsSnapshot := by
  rw [getSubscriptionPlanOrSnapshotTx, if_neg (not_le.2 hid), getSubscriptionPlanByIdTx,
    if_neg (not_le.2 hid)]
  cases db.findPlan sub.planId with
  | none =>
    refine ⟨subscriptionPlanSnapshotFallback sub, ?_, rfl, rfl⟩
    simp [not_le.2 hversion]
  | some plan => exact ⟨_, if_pos hversion, rfl, rfl⟩

lemma planOrSnapshot_agree (hsame : db.SameBut planId plans)
    (hsub : sub.planId = planId → sub.Intact) :
      Agree (PlansAgree sub) (getSubscriptionPlanOrSnapshotTx db sub)
      (getSubscriptionPlanOrSnapshotTx (db.withPlans plans) sub) := by
  by_cases hid : sub.planId = planId
  · have hintact := hsub hid
    by_cases hpos : sub.planId ≤ 0
    · simp only [getSubscriptionPlanOrSnapshotTx, if_pos hpos, if_pos hintact.version]
      exact .error _
    · obtain ⟨plan, hplan, hprovider, hmodels⟩ :=
        planOrSnapshot_of_versioned hintact.version (not_le.1 hpos) db
      obtain ⟨plan', hplan', hprovider', hmodels'⟩ :=
        planOrSnapshot_of_versioned hintact.version (not_le.1 hpos) (db.withPlans plans)
      rw [hplan, hplan']
      exact .ok (.edited hintact (hprovider'.trans hprovider.symm) (hmodels'.trans hmodels.symm))
  · refine of_eq ?_ .same
    have hfind : (db.withPlans plans).findPlan sub.planId = db.findPlan sub.planId := hsame _ hid
    rw [getSubscriptionPlanOrSnapshotTx, getSubscriptionPlanOrSnapshotTx, getSubscriptionPlanByIdTx,
      getSubscriptionPlanByIdTx, hfind]

lemma planForSettlement_agree (hsame : db.SameBut planId plans)
    (hsub : sub.planId = planId → sub.Intact) :
    Agree (PlansAgree sub) (planForSettlement db sub)
      (planForSettlement (db.withPlans plans) sub) := by
  rw [planForSettlement, planForSettlement]
  obtain ⟨_, _, hx, hy, h⟩ | ⟨e, hx, hy⟩ := (planOrSnapshot_agree hsame hsub).cases
  all_goals rw [hx, hy]
  · exact .ok h
  · cases e with
    | recordNotFound => exact .ok (.same none)
    | _ => exact .error _

/-! ## Resets -/

/-- The row is brought up to date alike; only its table is written. -/
structure ResetsAgree (db : Database) (sub : UserSubscription) (plans : List SubscriptionPlan)
    (plan plan' : Option SubscriptionPlan) (r r' : Database × UserSubscription) : Prop where
  eq : r' = (r.1.withPlans plans, r.2)
  plans_eq : r.1.plans = db.plans
  records_eq : r.1.records = db.records
  id_eq : r.2.id = sub.id
  agree : PlansAgree r.2 plan plan'

lemma maybeReset_agree {plan plan' : SubscriptionPlan}
    (h : PlansAgree sub (some plan) (some plan')) :
    Agree (ResetsAgree db sub plans (some plan) (some plan'))
      (maybeResetUserSubscriptionWithPlanTx loc db sub plan now)
      (maybeResetUserSubscriptionWithPlanTx loc (db.withPlans plans) sub plan' now) := by
  rw [maybeResetUserSubscriptionWithPlanTx, maybeResetUserSubscriptionWithPlanTx,
    h.policy_agrees.invalid, h.resetSubscription_eq]
  split_ifs
  · exact .error _
  · cases hreset : resetSubscription loc sub (quotaPolicyForSubscription sub (some plan)) now with
    | none => exact .ok ⟨rfl, rfl, rfl, rfl, h⟩
    | some sub' =>
      obtain ⟨used, last, next, rfl, -⟩ := resetSubscription_eq_some hreset
      exact .ok ⟨rfl, rfl, rfl, rfl, h.reset hreset⟩

lemma maybeResetForSettlement_agree (h : PlansAgree sub plan plan') :
    Agree (ResetsAgree db sub plans plan plan') (maybeResetForSettlement loc db sub plan now)
      (maybeResetForSettlement loc (db.withPlans plans) sub plan' now) := by
  cases h with
  | same plan =>
    cases plan with
    | none => exact .ok ⟨rfl, rfl, rfl, rfl, .same none⟩
    | some plan => exact maybeReset_agree (.same _)
  | edited h hprovider hmodels => exact maybeReset_agree (.edited h hprovider hmodels)

/-! ## Charges -/

lemma chargeCounter_agree (h : policy.Agrees policy') (db : Database)
    (plans : List SubscriptionPlan) (amount : ℤ) :
    Agree (fun r r' => r' = (r.1.withPlans plans, r.2) ∧ r.1.records = db.records)
      (chargeCounter db sub policy amount)
        (chargeCounter (db.withPlans plans) sub policy' amount) := by
  rw [h.chargeCounter, chargeCounter, chargeCounter]
  split_ifs
  · cases subscriptionSafeAddInt64 sub.amountUsed amount with
    | none => exact .error _
    | some nextUsed => exact .ok ⟨rfl, rfl⟩
  · exact .ok ⟨rfl, rfl⟩

lemma chargeSubscription_agree (h : policy.Agrees policy')
    (hnew : db.findRecord request.requestId = none) :
    Agree (fun r r' => r'.1 = r.1.withPlans plans ∧
      r.1.records = db.records ++ [request.record sub.id now clock])
      (chargeSubscription db sub policy request now clock)
      (chargeSubscription (db.withPlans plans) sub policy' request now clock) := by
  rw [chargeSubscription, chargeSubscription, db.findRecord_withPlans, hnew]
  refine bind (chargeCounter_agree h (db.createRecord (request.record sub.id now clock)) plans
    request.amount) ?_
  rintro ⟨d, charged⟩ _ ⟨rfl, hrecords⟩
  exact bind (h.populate d _ charged now) fun _ _ _ => .ok ⟨rfl, hrecords⟩

/-- The request is skipped or charged alike; a charge leaves the record of the request. -/
inductive AttemptsAgree (db : Database) (plans : List SubscriptionPlan)
    (request : PreConsumeRequest) (id now clock : ℤ) : Attempt → Attempt → Prop
  | skipped {d : Database} (hplans : d.plans = db.plans) (hrecords : d.records = db.records) :
      AttemptsAgree db plans request id now clock (.skipped d) (.skipped (d.withPlans plans))
  | charged {d : Database} {result result' : SubscriptionPreConsumeResult}
      (hrecords : d.records = db.records ++ [request.record id now clock]) :
      AttemptsAgree db plans request id now clock (.charged d result)
        (.charged (d.withPlans plans) result')

variable {id : ℤ} {record : SubscriptionPreConsumeRecord}

lemma attemptSubscriptions_agree {subs : List UserSubscription} (hsame : db.SameBut planId plans)
    (hsubs : ∀ s ∈ subs, s.planId = planId → s.Intact)
    (hnew : db.findRecord request.requestId = none) :
    Agree (fun r r' => r'.1 = r.1.withPlans plans ∧
        ∃ s ∈ subs, r.1.records = db.records ++ [request.record s.id now clock])
      (attemptSubscriptions loc request now clock db subs)
      (attemptSubscriptions loc request now clock (db.withPlans plans) subs) := by
  by_cases hnil : subs = []
  · subst hnil
    exact .error _
  obtain ⟨first, hfirst⟩ := exists_mem_of_ne_nil subs hnil
  refine (agree_attemptSubscriptions (R := fun a a' => ∃ s ∈ subs,
    AttemptsAgree db plans request s.id now clock a a')
    ⟨fun ⟨_, _, h⟩ => (nomatch h), fun ⟨_, _, h⟩ => (nomatch h)⟩ ?_ ⟨first, hfirst,
      .skipped rfl rfl⟩).imp ?_
  · rintro sub hsub d _ ⟨s, hs, hd⟩
    cases hd with
    | skipped hplans hrecords =>
    have hsame' : d.SameBut planId plans := fun id hid => by
      rw [findPlan, hplans]
      exact hsame id hid
    refine agree_attemptSubscription ⟨s, hs, .skipped hplans hrecords⟩
      (planOrSnapshot_agree hsame' (hsubs sub hsub)) (fun _ => ⟨s, hs, .skipped hplans hrecords⟩) ?_
    rintro d₁ _ plan plan' ⟨s, hs, hd⟩ - - - hpolicy
    cases hd with
    | skipped hplans hrecords =>
    have hnew' : d₁.findRecord request.requestId = none := by rw [findRecord, hrecords]; exact hnew
    refine ⟨rfl, rfl, fun used last next => (chargeSubscription_agree hpolicy hnew').imp ?_⟩
    rintro ⟨d, result⟩ ⟨_, result'⟩ - ⟨rfl, hcharged⟩
    exact ⟨sub, hsub, .charged (by rw [hcharged, hrecords]; rfl)⟩
  · rintro ⟨d, result⟩ ⟨_, result'⟩ - ⟨s, hs, h⟩
    cases h with
    | charged hrecords => exact ⟨rfl, s, hs, hrecords⟩

/-- The subscriptions under the key, if they are of the plan, were issued with a snapshot. -/
def Database.Seals (db : Database) (planId id : ℤ) : Prop :=
  ∀ sub ∈ db.subscriptions, sub.id = id → sub.planId = planId → sub.Issued

def Database.SealsRequest (db : Database) (planId : ℤ) (requestId : String) : Prop :=
  ∀ record ∈ db.records, record.requestId = requestId → db.Seals planId record.userSubscriptionId

lemma Database.Seals.intact (h : db.Seals planId id) (hfind : db.findSubscription id = some sub)
    (hplan : sub.planId = planId) : sub.Intact := by
  obtain ⟨hsub, hid⟩ := get?_eq_some hfind
  exact (h sub hsub hid hplan).intact

lemma retryPreConsume_agree (hsame : db.SameBut planId plans)
    (hseals : db.Seals planId record.userSubscriptionId) :
    Agree (fun _ _ => True) (retryPreConsume db record request clock)
      (retryPreConsume (db.withPlans plans) record request clock) := by
  refine bind_eq rfl fun _ => ?_
  rw [populateIdempotentPreConsumeResultTx, populateIdempotentPreConsumeResultTx,
    db.findSubscription_withPlans]
  cases hsub : db.findSubscription record.userSubscriptionId with
  | none => exact .error _
  | some sub =>
    obtain ⟨_, _, hx, hy, h⟩ | ⟨e, hx, hy⟩ :=
      (planOrSnapshot_agree hsame (hseals.intact hsub)).cases
    all_goals simp only [hx, hy]
    · exact h.policy_agrees.populate db _ sub clock
    · exact .ok trivial

/-- A charge in advance: the tables are the same, and a new record is of a subscription of the
    user. -/
lemma preConsumeUserSubscription_agree (hsame : db.SameBut planId plans)
    (hsubs : ∀ sub ∈ db.subscriptions, sub.userId = request.userId → db.Seals planId sub.id)
    (hrecord : db.SealsRequest planId request.requestId) :
    Agree (fun r r' => r'.1 = r.1.withPlans plans ∧ (r.1.records = db.records ∨
        ∃ s ∈ db.subscriptions, s.userId = request.userId ∧
          ∃ record, record.userSubscriptionId = s.id ∧
          r.1.records = db.records ++ [record]))
            (preConsumeUserSubscription loc db request now clock)
      (preConsumeUserSubscription loc (db.withPlans plans) request now clock) := by
  rw [preConsumeUserSubscription, preConsumeUserSubscription]
  split_ifs
  · exact .error _
  · exact .error _
  · exact .error _
  dsimp only
  have hactive : (db.withPlans plans).activeSubscriptions = db.activeSubscriptions := rfl
  rw [db.findRecord_withPlans, hactive]
  cases hfound : db.findRecord request.requestId with
  | some existing =>
    obtain ⟨hmem, hid⟩ := get?_eq_some hfound
    exact (retryPreConsume_agree hsame (hrecord existing hmem hid)).map fun _ _ _ => ⟨rfl, .inl rfl⟩
  | none =>
    have hmem : ∀ s ∈ db.activeSubscriptions request.userId now, s ∈ db.subscriptions ∧
        s.userId = request.userId := by
      intro s hs
      rw [activeSubscriptions, mem_insertionSort, mem_filter] at hs
      exact ⟨hs.1, (of_decide_eq_true hs.2).1⟩
    dsimp only
    split
    · exact .error _
    · refine (attemptSubscriptions_agree hsame (fun s hs hplan => ?_) ?_).imp fun r r' _ h => ?_
      · obtain ⟨hsub, huser⟩ := hmem s hs
        exact (hsubs s hsub huser s hsub rfl hplan).intact
      · exact hfound
      · obtain ⟨heq, s, hs, hrecords⟩ := h
        obtain ⟨hsub, huser⟩ := hmem s hs
        exact ⟨heq, .inr ⟨s, hsub, huser, _, rfl, hrecords⟩⟩

/-! ## Settlements and refunds -/

lemma settleOnSubscription_agree (db : Database) (record : SubscriptionPreConsumeRecord)
    (target : ℤ) :
    Agree (fun d d' => d' = d.withPlans plans)
      (settleOnSubscription loc db sub policy record target now)
      (settleOnSubscription loc (db.withPlans plans) sub policy record target now) := by
  rw [settleOnSubscription, settleOnSubscription]
  split_ifs
  · exact .error _
  · exact .error _
  refine bind_eq rfl fun _ => ?_
  rw [writeSettlement, writeSettlement]
  split_ifs
  · cases subscriptionSafeAddInt64 sub.amountUsed (target - effectivePreConsumeAmount record) with
    | none => exact .error _
    | some nextUsed => exact .ok rfl
  · exact .ok rfl

lemma settleSubscriptionPreConsumeTx_agree {target : ℤ}
    (hsame : db.SameBut planId plans) (hseals : db.Seals planId record.userSubscriptionId) :
    Agree (fun d d' => d' = d.withPlans plans)
      (settleSubscriptionPreConsumeTx loc db record target now)
      (settleSubscriptionPreConsumeTx loc (db.withPlans plans) record target now) := by
  rw [settleSubscriptionPreConsumeTx, settleSubscriptionPreConsumeTx]
  split_ifs
  · exact .error _
  · exact .ok rfl
  · exact .ok rfl
  rw [db.findSubscription_withPlans]
  cases hsub : db.findSubscription record.userSubscriptionId with
  | none => exact .error _
  | some sub =>
    refine bind (planForSettlement_agree hsame (hseals.intact hsub)) fun plan plan' hplan => ?_
    refine bind (maybeResetForSettlement_agree hplan) ?_
    rintro ⟨d, sub'⟩ _ ⟨rfl, -, -, -, hplan'⟩
    dsimp only at hplan' ⊢
    rw [hplan'.policy_agrees.settleOnSubscription]
    exact settleOnSubscription_agree d record target

lemma uncharge_agree (db : Database) (record : SubscriptionPreConsumeRecord) :
    Agree (fun d d' => d' = d.withPlans plans) (uncharge db sub policy record now)
      (uncharge (db.withPlans plans) sub policy record now) := by
  rw [uncharge, uncharge]
  split_ifs
  · exact .error _
  · cases subscriptionSafeAddInt64 sub.amountUsed (-effectivePreConsumeAmount record) with
    | none => exact .error _
    | some nextUsed => exact .ok rfl
  · exact .ok rfl

section

variable {requestId : String} (hsame : db.SameBut planId plans)
    (hrecord : db.SealsRequest planId requestId)

include hsame hrecord

lemma settleSubscriptionPreConsume_agree {actualAmount : ℤ} :
    Agree (fun d d' => d' = d.withPlans plans)
      (settleSubscriptionPreConsume loc db requestId actualAmount now)
      (settleSubscriptionPreConsume loc (db.withPlans plans) requestId actualAmount now) := by
  rw [settleSubscriptionPreConsume, settleSubscriptionPreConsume, db.findRecord_withPlans]
  split_ifs
  · exact .error _
  · exact .error _
  cases hfound : db.findRecord requestId with
  | none => exact .error _
  | some record =>
    obtain ⟨hmem, hid⟩ := get?_eq_some hfound
    dsimp only
    split_ifs
    · exact .error _
    · exact settleSubscriptionPreConsumeTx_agree hsame (hrecord record hmem hid)

lemma adjustSubscriptionPreConsume_agree {delta : ℤ} :
    Agree (fun d d' => d' = d.withPlans plans)
      (adjustSubscriptionPreConsume loc db requestId delta now)
      (adjustSubscriptionPreConsume loc (db.withPlans plans) requestId delta now) := by
  rw [adjustSubscriptionPreConsume, adjustSubscriptionPreConsume, db.findRecord_withPlans]
  split_ifs
  · exact .error _
  · exact .ok rfl
  cases hfound : db.findRecord requestId with
  | none => exact .error _
  | some record =>
    obtain ⟨hmem, hid⟩ := get?_eq_some hfound
    dsimp only
    split_ifs
    · exact .error _
    · cases subscriptionSafeAddInt64 (effectivePreConsumeAmount record) delta with
      | none => exact .error _
      | some target => exact settleSubscriptionPreConsumeTx_agree hsame (hrecord record hmem hid)

lemma refundSubscriptionPreConsume_agree :
    Agree (fun d d' => d' = d.withPlans plans) (refundSubscriptionPreConsume loc db requestId now)
      (refundSubscriptionPreConsume loc (db.withPlans plans) requestId now) := by
  rw [refundSubscriptionPreConsume, refundSubscriptionPreConsume, refundSubscriptionPreConsumeTx,
    refundSubscriptionPreConsumeTx, db.findRecord_withPlans]
  split_ifs
  · exact .error _
  cases hfound : db.findRecord requestId with
  | none => exact .error _
  | some record =>
    obtain ⟨hmem, hid⟩ := get?_eq_some hfound
    dsimp only
    split_ifs
    · exact .ok rfl
    rw [db.findSubscription_withPlans]
    cases hsub : db.findSubscription record.userSubscriptionId with
    | none => exact .ok rfl
    | some sub =>
      refine bind (planForSettlement_agree hsame ((hrecord record hmem hid).intact hsub)) fun plan
        plan' hplan => ?_
      refine bind (maybeResetForSettlement_agree hplan) ?_
      rintro ⟨d, sub'⟩ _ ⟨rfl, -, -, -, hplan'⟩
      rw [hplan'.policy_agrees.uncharge]
      refine bind (uncharge_agree d record) ?_
      rintro d _ rfl
      exact .ok rfl

end

/-! ## The periodic reset -/

variable {db' start : Database} {id : ℤ} {requestId : String}

lemma resetDueSubscription_agree (hsame : db.SameBut planId plans) (hseals : db.Seals planId id) :
    Agree (fun r r' => r' = (r.1.withPlans plans, r.2) ∧ r.1.plans = db.plans ∧
      r.1.records = db.records)
      (resetDueSubscription loc db id now)
        (resetDueSubscription loc (db.withPlans plans) id now) := by
  rw [resetDueSubscription, resetDueSubscription, db.findSubscription_withPlans]
  cases hlocked : (db.findSubscription id).filter (·.resetDue now) with
  | none => exact .ok ⟨rfl, rfl, rfl⟩
  | some locked =>
    obtain ⟨_, _, hx, hy, hplan⟩ | ⟨e, hx, hy⟩ := (planOrSnapshot_agree hsame
      (hseals.intact (Option.filter_eq_some_iff.1 hlocked).1)).cases
    all_goals simp only [hx, hy]
    · obtain ⟨rfl, rfl⟩ | ⟨plan, plan', rfl, rfl, -, -⟩ := hplan.none_or_some
      · exact .ok ⟨rfl, rfl, rfl⟩
      refine bind (maybeReset_agree hplan) ?_
      rintro ⟨d, sub'⟩ _ ⟨rfl, hplans, hrecords, -, -⟩
      exact .ok ⟨rfl, hplans, hrecords⟩
    · exact .ok ⟨rfl, rfl, rfl⟩

/-! ## What the calls keep -/

lemma Effect.seals (h : Effect loc now clock db db') (hseals : db.Seals planId id) :
    db'.Seals planId id := by
  intro s' hs' hid hplan
  rcases h.mem_subscriptions hs' with hs' | ⟨s, hs, plan, counts, delta, rfl⟩
  · exact hseals s' hs' hid hplan
  · obtain ⟨used, last, next, heq, -⟩ := count_upToDate_eq_withCounters s loc plan now counts delta
    rw [heq] at hid hplan
    exact (hseals s hs hid hplan).count_upToDate plan counts delta

lemma RecordEffect.sameKeys {record r' : SubscriptionPreConsumeRecord}
    (h : RecordEffect loc now db record db') (hrecord : record ∈ db.records)
    (hr : r' ∈ db'.records) :
    ∃ r ∈ db.records, r.requestId = r'.requestId ∧
      r.userSubscriptionId = r'.userSubscriptionId := by
  have hput {new : SubscriptionPreConsumeRecord} (hr : r' ∈ put (·.requestId) new db.records)
      (hid : record.requestId = new.requestId)
      (hof : record.userSubscriptionId = new.userSubscriptionId) :
      ∃ r ∈ db.records, r.requestId = r'.requestId ∧
          r.userSubscriptionId = r'.userSubscriptionId := by
    rcases mem_put hr with rfl | ⟨hmem, -⟩
    · exact ⟨record, hrecord, hid, hof⟩
    · exact ⟨r', hmem, rfl, rfl⟩
  cases h <;> exact hput hr rfl rfl

/-- The rows are those of the start, counted on: a sealed one is still sealed. -/
structure Database.Counts (start : Database) (planId : ℤ) (db : Database) : Prop where
  wellFormed : db.WellFormed
  plans_eq : db.plans = start.plans
  users : ∀ sub ∈ db.subscriptions, ∃ s ∈ start.subscriptions, s.id = sub.id ∧ s.userId = sub.userId
  seals : ∀ id, start.Seals planId id → db.Seals planId id

lemma Database.Counts.effects (h : start.Counts planId db)
    (heffects : Effects loc now clock db db') : start.Counts planId db' := by
  induction heffects with
  | refl => exact h
  | tail _ hlast ih =>
    refine ⟨hlast.wellFormed ih.wellFormed, hlast.plans_eq.trans ih.plans_eq, fun sub' hsub' => ?_,
      fun id hid => hlast.seals (ih.seals id hid)⟩
    obtain ⟨sub, hsub, used, last, next, rfl, -⟩ := hlast.rows sub' hsub'
    exact ih.users sub hsub

/-- The records are those of the start, and new ones of sealed subscriptions. -/
structure Database.Follows (start : Database) (planId : ℤ) (db : Database) : Prop extends
    start.Counts planId db where
  records : ∀ record ∈ db.records, start.Seals planId record.userSubscriptionId ∨
    ∃ r ∈ start.records, r.requestId = record.requestId ∧
      r.userSubscriptionId = record.userSubscriptionId

lemma Database.Follows.refl (hdb : db.WellFormed) : db.Follows planId db where
  wellFormed := hdb
  plans_eq := rfl
  users sub hsub := ⟨sub, hsub, rfl, rfl⟩
  seals _ h := h
  records record hrecord := .inr ⟨record, hrecord, rfl, rfl⟩

/-- A request that was of a sealed subscription at the start, or was not there, is of one. -/
lemma Database.Follows.seals_record (h : start.Follows planId db)
    (hstart : start.SealsRequest planId requestId) : db.SealsRequest planId requestId := by
  intro record hrecord hid
  obtain hseals | ⟨r, hr, hrid, hof⟩ := h.records record hrecord
  · exact h.seals _ hseals
  · exact h.seals _ (hof ▸ hstart r hr (hrid.trans hid))

lemma Database.Follows.of_touches (h : start.Follows planId db)
    (htouches : Touches loc now requestId db db') : start.Follows planId db' := by
  have heffects : Effects loc now now db db' := htouches.effects
  refine ⟨h.toCounts.effects heffects, fun record' hrecord' => ?_⟩
  obtain rfl | ⟨record, hfind, -, heffect⟩ := htouches
  · exact h.records record' hrecord'
  obtain ⟨r, hr, hid, hof⟩ := heffect.sameKeys (get?_eq_some hfind).1 hrecord'
  rw [← hid, ← hof]
  exact h.records r hr

section

variable (hsame : start.SameBut planId plans) (h : start.Follows planId db)
include hsame h

lemma Database.Follows.sameBut : db.SameBut planId plans := fun id hid => by
  rw [findPlan, h.plans_eq]
  exact hsame id hid

/-- A charge in advance is of a subscription of the user. -/
lemma preConsumeUserSubscription_follows
    (hsubs : ∀ sub ∈ start.subscriptions, sub.userId = request.userId → start.Seals planId sub.id)
    (hrecord : start.SealsRequest planId request.requestId) :
    Agree (fun r r' => r'.1 = r.1.withPlans plans ∧ start.Follows planId r.1)
      (preConsumeUserSubscription loc db request now clock)
      (preConsumeUserSubscription loc (db.withPlans plans) request now clock) := by
  have hsubs' : ∀ sub ∈ db.subscriptions, sub.userId = request.userId →
      start.Seals planId sub.id := by
    intro sub hsub huser
    obtain ⟨s, hs, hid, huser'⟩ := h.users sub hsub
    exact hid ▸ hsubs s hs (huser'.trans huser)
  refine (preConsumeUserSubscription_agree (h.sameBut hsame) (fun sub hsub huser =>
    h.seals _ (hsubs' sub hsub huser))
    (h.seals_record hrecord)).imp fun r r' hok ⟨heq, hrecords⟩ => ⟨heq, ?_⟩
  obtain ⟨db₁, hupdates, hlast⟩ := effects_of_preConsume h.wellFormed hok
  refine ⟨h.toCounts.effects (hupdates.effects.trans hlast.to_reflTransGen),
    fun record' hrecord' => ?_⟩
  obtain hsameRecords | ⟨s, hs, huser, new, hof, hnew⟩ := hrecords
  · rw [hsameRecords] at hrecord'
    exact h.records record' hrecord'
  · rw [hnew, mem_append, mem_singleton] at hrecord'
    obtain hrecord' | rfl := hrecord'
    · exact h.records record' hrecord'
    · exact .inl (hof ▸ hsubs' s hs huser)

lemma resetDueSubscription_follows (hseals : start.Seals planId id) :
    Agree (fun r r' => r' = (r.1.withPlans plans, r.2) ∧ start.Follows planId r.1)
      (resetDueSubscription loc db id now)
        (resetDueSubscription loc (db.withPlans plans) id now) := by
  refine (resetDueSubscription_agree (h.sameBut hsame) (h.seals id hseals)).imp
    fun r r' hok ⟨heq, _, hrecords⟩ => ?_
  have heffects : Effects loc now now db r.1 := effects_of_resetDueSubscription h.wellFormed hok
  exact ⟨heq, h.toCounts.effects heffects, by rw [hrecords]; exact h.records⟩

lemma resetEach_agree {ids : List ℤ} (hseals : ∀ id ∈ ids, start.Seals planId id) (count : ℕ) :
    resetEach loc now ids (db.withPlans plans) count =
        ((resetEach loc now ids db count).1.withPlans plans, (resetEach loc now ids db count).2) ∧
      start.Follows planId (resetEach loc now ids db count).1 := by
  induction ids generalizing db count with
  | nil => exact ⟨rfl, h⟩
  | cons id ids ih =>
    obtain ⟨hid, hids⟩ := forall_mem_cons.1 hseals
    rw [resetEach, resetEach]
    obtain ⟨r, _, hx, hy, rfl, hfollows⟩ | ⟨e, hx, hy⟩ :=
      (resetDueSubscription_follows hsame h hid).cases
    all_goals rw [hx, hy]
    · exact ih hfollows hids _
    · exact ⟨rfl, h⟩

end

end

/-! ## Runs -/

/-- The operations on subscriptions: the periodic reset may be of one of them, or of all that are
    due. -/
inductive UsageCall
  | preConsume (request : PreConsumeRequest) (now clock : ℤ)
  | settle (requestId : String) (actualAmount now : ℤ)
  | adjust (requestId : String) (delta now : ℤ)
  | refund (requestId : String) (now : ℤ)
  | reset (id now : ℤ)
  | resetDue (limit now : ℤ)

/-- The tables after the call, and the error if it is rejected. -/
def UsageCall.perform (loc : Location) : UsageCall → Database → Database × Option Error
  | preConsume request now clock, db =>
    respond db ((preConsumeUserSubscription loc db request now clock).map Prod.fst)
  | settle requestId actualAmount now, db =>
    respond db (settleSubscriptionPreConsume loc db requestId actualAmount now)
  | adjust requestId delta now, db =>
    respond db (adjustSubscriptionPreConsume loc db requestId delta now)
  | refund requestId now, db => respond db (refundSubscriptionPreConsume loc db requestId now)
  | reset id now, db => respond db ((resetDueSubscription loc db id now).map Prod.fst)
  | resetDue limit now, db =>
    ((resetDueSubscriptions loc db limit now).1, (resetDueSubscriptions loc db limit now).2.2)

/-- The subscriptions that the call can reach: those of the user who makes a request, that of the
    request if it has a record, and all of them for the periodic reset. -/
def UsageCall.Reaches (p : ℤ → Prop) (db : Database) : UsageCall → Prop
  | preConsume request _ _ =>
    (∀ sub ∈ db.subscriptions, sub.userId = request.userId → p sub.id) ∧
      ∀ record ∈ db.records, record.requestId = request.requestId → p record.userSubscriptionId
  | settle requestId _ _ | adjust requestId _ _ | refund requestId _ =>
    ∀ record ∈ db.records, record.requestId = requestId → p record.userSubscriptionId
  | reset id _ => p id
  | resetDue _ _ => ∀ sub ∈ db.subscriptions, p sub.id

section

variable {loc : Location} {planId : ℤ} {start : Database} {plans : List SubscriptionPlan}

lemma UsageCall.perform_agree (hsame : start.SameBut planId plans) {call : UsageCall}
    (hreach : call.Reaches (start.Seals planId) start) {db db' : Database}
    (h : db' = db.withPlans plans ∧ start.Follows planId db) :
    ((call.perform loc db').1 = (call.perform loc db).1.withPlans plans ∧
      start.Follows planId (call.perform loc db).1) ∧
        (call.perform loc db).2 = (call.perform loc db').2 := by
  obtain ⟨rfl, hfollows⟩ := h
  have hsame' := hfollows.sameBut hsame
  have hrespond {x y : Except Error Database}
      (hagree : Agree (fun d d' => d' = d.withPlans plans ∧ start.Follows planId d) x y) :=
    hagree.respond ⟨rfl, hfollows⟩
  -- What the calls on one record have in common.
  have htouch {x y : Except Error Database} {requestId : String} {now : ℤ}
      (hagree : Agree (fun d d' => d' = d.withPlans plans) x y)
      (htouches : ∀ d, x = .ok d → Touches loc now requestId db d) :=
    hrespond (hagree.imp fun d d' hok heq => ⟨heq, hfollows.of_touches (htouches d hok)⟩)
  cases call with
  | preConsume request now clock =>
    exact hrespond ((preConsumeUserSubscription_follows hsame hfollows hreach.1 hreach.2).map fun r
      r' hr => hr)
  | settle requestId actualAmount now =>
    exact htouch (settleSubscriptionPreConsume_agree hsame' (hfollows.seals_record hreach))
      fun d => touches_of_settle hfollows.wellFormed
  | adjust requestId delta now =>
    exact htouch (adjustSubscriptionPreConsume_agree hsame' (hfollows.seals_record hreach))
      fun d => touches_of_adjust hfollows.wellFormed
  | refund requestId now =>
    exact htouch (refundSubscriptionPreConsume_agree hsame' (hfollows.seals_record hreach))
      fun d => touches_of_refund hfollows.wellFormed
  | reset id now =>
    exact hrespond ((resetDueSubscription_follows hsame hfollows hreach).map
      fun r r' ⟨heq, hr⟩ => ⟨by rw [heq], hr⟩)
  | resetDue limit now =>
    have hdue : ∀ id ∈ (((db.subscriptions.filter (·.resetDue now)).insertionSort
        fun s s' => s.nextResetTime ≤ s'.nextResetTime).take (if limit ≤ 0 then 200
          else limit).toNat).map (·.id),
        start.Seals planId id := by
      intro id hid
      obtain ⟨sub, hsub, rfl⟩ := mem_map.1 hid
      have hsub := (mem_filter.1 ((mem_insertionSort _).1 (mem_of_mem_take hsub))).1
      obtain ⟨s, hs, hid, -⟩ := hfollows.users sub hsub
      exact hid ▸ hreach s hs
    obtain ⟨heq, hfollows'⟩ : resetDueSubscriptions loc (db.withPlans plans) limit now =
        ((resetDueSubscriptions loc db limit now).1.withPlans plans,
          (resetDueSubscriptions loc db limit now).2) ∧
        start.Follows planId (resetDueSubscriptions loc db limit now).1 :=
          resetEach_agree hsame hfollows hdue 0
    simp only [UsageCall.perform, heq]
    exact ⟨⟨trivial, hfollows'⟩, trivial⟩

/-- **Entitlements.** On two catalogs that differ in a plan, which may be edited in any way or
    deleted in one of them, calls have the same answers, and leave the same subscriptions, with what
    is counted on them, and the same records; provided that they reach no subscription of the plan
    but those issued with a snapshot. -/
theorem usage_independent_of_plan {db : Database} (hdb : db.WellFormed)
    (hsame : db.SameBut planId plans) {calls : List UsageCall}
    (hreach : ∀ call ∈ calls, call.Reaches (db.Seals planId) db) :
    (play (UsageCall.perform loc) calls db).2 =
      (play (UsageCall.perform loc) calls { db with plans := plans }).2 ∧
      (play (UsageCall.perform loc) calls { db with plans := plans }).1.subscriptions =
        (play (UsageCall.perform loc) calls db).1.subscriptions ∧
      (play (UsageCall.perform loc) calls { db with plans := plans }).1.records =
        (play (UsageCall.perform loc) calls db).1.records := by
  have hstep : ∀ call ∈ calls, ∀ d d', (d' = d.withPlans plans ∧ db.Follows planId d) →
      ((call.perform loc d').1 = (call.perform loc d).1.withPlans plans ∧
        db.Follows planId (call.perform loc d).1) ∧
        (call.perform loc d).2 = (call.perform loc d').2 :=
    fun call hcall d d' h => UsageCall.perform_agree hsame (hreach call hcall) h
  have hstart : { db with plans := plans } = db.withPlans plans ∧ db.Follows planId db :=
    ⟨rfl, .refl hdb⟩
  obtain ⟨⟨heq, -⟩, hanswers⟩ :=
    play_agree (R := fun d d' => d' = d.withPlans plans ∧ db.Follows planId d) hstep hstart
  refine ⟨hanswers, ?_, ?_⟩
  · rw [heq]
    rfl
  · rw [heq]
    rfl

end

/-! ### A plan that is edited -/

namespace Lasting

def plan : SubscriptionPlan where
  id := 1
  totalAmount := 100
  quotaResetPeriod := "daily"

def sold : UserSubscription where
  id := 1
  userId := 1
  planId := 1
  amountTotal := 100
  startTime := 1000
  endTime := 2679400
  lastResetTime := 1000
  nextResetTime := 86400
  quotaWindowMode := "legacy"
  quotaResetPeriodSnapshot := "daily"
  planPolicySnapshotVersion := 1

/-- An old subscription of another user, which goes by the plan as it is. -/
def old : UserSubscription where
  id := 2
  userId := 2
  planId := 1
  amountTotal := 100
  startTime := 1000
  endTime := 2679400

def database : Database where
  users := [{ id := 1 }, { id := 2 }]
  plans := [plan]
  subscriptions := [sold, old]
  records := []

/-- The catalog after the plan has lost its resets and its models. -/
def edited : List SubscriptionPlan :=
  [{ plan with totalAmount := 5, quotaResetPeriod := "never", modelLimits := "none" }]

def calls : List UsageCall :=
  [.preConsume { requestId := "a", userId := 1, amount := 60 } 2000 2000,
    .preConsume { requestId := "b", userId := 1, amount := 60 } 3000 3000,
    .settle "a" 30 4000, .adjust "a" 5 5000, .reset 1 90000,
    .preConsume { requestId := "c", userId := 1, amount := 100 } 91000 91000, .refund "a" 92000]

lemma issued : issueSubscription (fixed 0) plan 1 1 0 1000 = .ok sold := by
  decide +kernel

lemma reaches : ∀ call ∈ calls, call.Reaches (database.Seals 1) database := by
  have hsold : database.Seals 1 1 := by
    intro sub hsub hid _
    obtain rfl | hsub := mem_cons.1 hsub
    · exact .issue issued
    · obtain rfl := mem_singleton.1 hsub
      exact absurd hid (by decide)
  have huser : ∀ sub ∈ database.subscriptions, sub.userId = 1 → database.Seals 1 sub.id := by
    intro sub hsub huser
    obtain rfl | hsub := mem_cons.1 hsub
    · exact hsold
    · obtain rfl := mem_singleton.1 hsub
      exact absurd huser (by decide)
  have hrecord {requestId : String} : ∀ record ∈ database.records, record.requestId = requestId →
      database.Seals 1 record.userSubscriptionId := fun record hrecord => absurd hrecord not_mem_nil
  simp only [calls, forall_mem_cons]
  exact ⟨⟨huser, hrecord⟩, ⟨huser, hrecord⟩, hrecord, hrecord, hsold, ⟨huser, hrecord⟩, hrecord,
    fun _ h => absurd h not_mem_nil⟩

end Lasting

/-- The requests have the same answers after the plan was edited. -/
theorem usage_of_lasting :
    (play (UsageCall.perform (fixed 0)) Lasting.calls Lasting.database).1.subscriptions.map
      (·.amountUsed) =
        [100, 0] ∧ (play (UsageCall.perform (fixed 0)) Lasting.calls Lasting.database).2 =
        (play (UsageCall.perform (fixed 0)) Lasting.calls
          { Lasting.database with plans := Lasting.edited }).2 :=
  ⟨by decide +kernel, (usage_independent_of_plan ⟨by decide, by decide⟩
    (fun id hid => by simp [get?, findPlan, Lasting.edited, Lasting.database, Lasting.plan,
      Ne.symm hid])
    Lasting.reaches).1⟩

end Allrouter
