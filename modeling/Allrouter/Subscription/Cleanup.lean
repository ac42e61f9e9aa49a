import Allrouter.Subscription.Alike
import Allrouter.Subscription.Settlement

/-!
# Cleaning up the records

Old records are deleted by a periodic cleanup: those of a subscription that were not written for
some time, and that were created before every window the subscription is in at the time of the
cleanup (`subscriptionRecordSafeBefore`).

Two runs are compared, on the tables with the records that were deleted and without them.

* `preConsume_of_cleaned`: a new request is charged or refused alike, at any time after the cleanup;
* `settlement_of_cleaned`: so is a settlement of a record that is left, if none of the deleted
  records is in a window or period that the settlement looks at (`Consults`). It looks at those
  around the creation of the record, and not only at those of the cleanup.
-/

namespace Allrouter

open Civil Text TwoRuns Database List Location Agree UserSubscription Except

/-! ## The cleanup -/

def defaultSubscriptionPreConsumeRetentionSeconds : ℤ := 7 * 24 * 60 * 60

/-- The earliest time that counts in a window of the subscription, as of `now`. -/
def subscriptionRecordSafeBefore (sub : UserSubscription) (plan : Option SubscriptionPlan)
    (now : ℤ) : ℤ :=
  if sub.status ≠ .active ∨ (sub.endTime > 0 ∧ sub.endTime ≤ now) then now
  else (quotaRecordBackedWindows (quotaPolicyForSubscription sub plan)).foldl
    (fun safeBefore window =>
      if window.windowSeconds ≤ 0 ∨
        window.windowSeconds > maxSubscriptionQuotaWindowSeconds then safeBefore
      else
        let start := (quotaWindowBounds window now sub.startTime).1
        if start < safeBefore then start else safeBefore) now

/-- The plan that the windows of a subscription are read from. -/
def planForCleanup (db : Database) (sub : UserSubscription) : Option SubscriptionPlan :=
  let plan := if sub.planId ≤ 0 then none
    else (db.findPlan sub.planId).map (·.normalizeQuotaWindows)
  if plan = none ∧ sub.planPolicySnapshotVersion >
    0 then some (subscriptionPlanSnapshotFallback sub) else plan

/-- Records last written before are old enough to be deleted. -/
def idempotencyCutoff (olderThanSeconds now : ℤ) : ℤ :=
  let olderThanSeconds :=
    if olderThanSeconds ≤ 0 then defaultSubscriptionPreConsumeRetentionSeconds else olderThanSeconds
  (subscriptionSafeSubInt64 now olderThanSeconds).getD minInt64

def Database.withRecords (db : Database) (records : List SubscriptionPreConsumeRecord) : Database :=
  { db with records := records }

abbrev Database.keeping (db : Database) (keeps : SubscriptionPreConsumeRecord → Bool) : Database :=
  db.withRecords (db.records.filter keeps)

/-- The record is of the subscription, was last written before the cutoff, and counts in no
    window. -/
def SubscriptionPreConsumeRecord.isOld (record : SubscriptionPreConsumeRecord) (db : Database)
    (updatedAt : String → ℤ) (cutoff now : ℤ) (sub : UserSubscription) : Bool :=
  record.userSubscriptionId = sub.id ∧ updatedAt record.requestId < cutoff ∧
    record.createdAt < subscriptionRecordSafeBefore sub (planForCleanup db sub) now

/-- The subscription of the record was deleted, and the record was last written before the
    cutoff. -/
def SubscriptionPreConsumeRecord.isOrphan (record : SubscriptionPreConsumeRecord) (db : Database)
    (updatedAt : String → ℤ) (cutoff : ℤ) : Bool :=
  updatedAt record.requestId < cutoff ∧ ∀ sub ∈ db.subscriptions, sub.id ≠ record.userSubscriptionId

/-- The conditions of the deletions: one for each subscription, then that of the records without
    one. The time `updatedAt` a record was written last is a column that nothing else reads. -/
def cleanupConditions (db : Database) (updatedAt : String → ℤ) (cutoff now : ℤ) :
    List (SubscriptionPreConsumeRecord → Bool) :=
  db.subscriptions.map (fun sub record => record.isOld db updatedAt cutoff now sub) ++
    [fun record => record.isOrphan db updatedAt cutoff]

/-- Deletes the records that meet the conditions, and counts them. -/
def deleteEach : List (SubscriptionPreConsumeRecord → Bool) → Database → ℕ → Database × ℕ
  | [], db, deleted => (db, deleted)
  | condition :: conditions, db, deleted =>
    deleteEach conditions (db.withRecords (db.records.filter fun r => !condition r))
      (deleted + db.records.countP condition)

/-- Deletes the records that are old and count in no window any more, one deletion after the other;
    the first `executed` of them take place, an error of the database ends the cleanup early. -/
def cleanupSubscriptionPreConsumeRecords (db : Database) (updatedAt : String → ℤ)
    (olderThanSeconds now : ℤ) (executed : ℕ) : Database × ℕ :=
  deleteEach ((cleanupConditions db updatedAt (idempotencyCutoff olderThanSeconds now) now).take
    executed) db 0

section

variable {loc : Location} {now later clock cutoff olderThanSeconds : ℤ} {db d : Database}
  {updatedAt : String → ℤ} {executed : ℕ} {sub : UserSubscription} {plan : Option SubscriptionPlan}
  {policy : SubscriptionQuotaPolicy} {w : SubscriptionQuotaWindowPolicy}
  {record r : SubscriptionPreConsumeRecord}

/-! ### What is left -/

lemma deleteEach_fst (conditions : List (SubscriptionPreConsumeRecord → Bool)) (db : Database)
    (deleted : ℕ) :
    (deleteEach conditions db deleted).1 =
      db.withRecords (db.records.filter fun r => conditions.all fun condition => !condition r) := by
  induction conditions generalizing db deleted with
  | nil => simp [deleteEach, withRecords]
  | cons condition conditions ih =>
    rw [deleteEach, ih]
    simp only [withRecords, filter_filter, all_cons, Bool.and_comm]

/-- A record that may be deleted: it is not in a window of its subscription, or has none. -/
inductive Deletable (db : Database) (now : ℤ) (r : SubscriptionPreConsumeRecord) : Prop
  | old {sub : UserSubscription} (hsub : sub ∈ db.subscriptions)
      (hid : r.userSubscriptionId = sub.id)
      (hcreated : r.createdAt < subscriptionRecordSafeBefore sub (planForCleanup db sub) now)
  | orphan (hnone : ∀ sub ∈ db.subscriptions, sub.id ≠ r.userSubscriptionId)

lemma deletable_of_condition {condition : SubscriptionPreConsumeRecord → Bool}
    (h : condition ∈ cleanupConditions db updatedAt cutoff now) (hr : condition r = true) :
      Deletable db now r := by
  rcases mem_append.1 h with h | h
  · obtain ⟨sub, hsub, rfl⟩ := mem_map.1 h
    obtain ⟨hid, -, hcreated⟩ := of_decide_eq_true hr
    exact .old hsub hid hcreated
  · obtain rfl := mem_singleton.1 h
    exact .orphan (of_decide_eq_true hr).2

/-- The cleanup leaves the records that it keeps, and everything else. -/
lemma cleanup_eq (db : Database) (updatedAt : String → ℤ) (olderThanSeconds now : ℤ)
    (executed : ℕ) :
    ∃ keeps : SubscriptionPreConsumeRecord → Bool,
      (cleanupSubscriptionPreConsumeRecords db updatedAt olderThanSeconds now executed).1 =
        db.keeping keeps ∧ ∀ r, keeps r = false → Deletable db now r := by
  refine ⟨_, deleteEach_fst _ db 0, fun r hr => ?_⟩
  obtain ⟨condition, hmem, hcondition⟩ := all_eq_false.1 hr
  exact deletable_of_condition (mem_of_mem_take hmem) (by simpa using hcondition)

/-! ## Records that are not in a window -/

lemma foldl_safeBefore_le (start : SubscriptionQuotaWindowPolicy → ℤ)
    (windows : List SubscriptionQuotaWindowPolicy) (safeBefore : ℤ) :
    let step := fun safeBefore (window : SubscriptionQuotaWindowPolicy) =>
      if window.windowSeconds ≤ 0 ∨
        window.windowSeconds > maxSubscriptionQuotaWindowSeconds then safeBefore
      else if start window < safeBefore then start window else safeBefore
    windows.foldl step safeBefore ≤ safeBefore ∧ ∀ w ∈ windows, w.Valid →
        windows.foldl step safeBefore ≤ start w := by
  intro step
  induction windows generalizing safeBefore with
  | nil => exact ⟨le_rfl, fun w hw => absurd hw not_mem_nil⟩
  | cons window windows ih =>
    obtain ⟨hle, hwindows⟩ := ih (step safeBefore window)
    have hstep : step safeBefore window ≤ safeBefore := by
      dsimp only [step]
      split_ifs <;> omega
    refine ⟨hle.trans hstep, fun w hw hvalid => ?_⟩
    rcases mem_cons.1 hw with rfl | hw
    · have hpos := hvalid.windowSeconds_pos
      have hmax := hvalid.windowSeconds_le
      have hstart : step safeBefore w ≤ start w := by
        dsimp only [step]
        split_ifs <;> omega
      exact hle.trans hstart
    · exact hwindows w hw hvalid

/-- Nothing is deleted from the windows that an active subscription is in. -/
lemma subscriptionRecordSafeBefore_le (hactive : sub.status = .active) (hend : now < sub.endTime)
    (hw : w ∈ quotaRecordBackedWindows (quotaPolicyForSubscription sub plan)) (hvalid : w.Valid) :
    subscriptionRecordSafeBefore sub plan now ≤ (quotaWindowBounds w now sub.startTime).1 := by
  have hopen : ¬(sub.status ≠ .active ∨ (sub.endTime > 0 ∧ sub.endTime ≤ now)) := by
    simp only [hactive, ne_eq, not_true_eq_false, false_or]
    omega
  rw [subscriptionRecordSafeBefore, if_neg hopen]
  exact (foldl_safeBefore_le (fun w => (quotaWindowBounds w now sub.startTime).1) _ now).2 w hw
    hvalid

/-- The interval of a window moves forward with time. -/
lemma quotaWindowBounds_mono {anchor : ℤ} (hw : w.Valid) (hnow : IsTimestamp now)
    (hlater : IsTimestamp later) (hle : now ≤ later) :
      (quotaWindowBounds w now anchor).1 ≤ (quotaWindowBounds w later anchor).1 := by
  cases hmode : w.resetMode with
  | rolling =>
    rw [quotaWindowBounds_rolling hmode hw.windowSeconds_pos hw.windowSeconds_le hnow,
      quotaWindowBounds_rolling hmode hw.windowSeconds_pos hw.windowSeconds_le hlater]
    exact sub_le_sub_right hle _
  | calendar =>
    exact quotaWindowBounds_calendar_mono ⟨w, hw.canonical_of_calendar hmode⟩ hmode hnow hlater hle

lemma le_createdAt_of_mem_windowRecords {id anchor : ℤ} (h : r ∈ windowRecords db id now w anchor) :
    r.userSubscriptionId = id ∧ (quotaWindowBounds w now anchor).1 ≤ r.createdAt := by
  simp only [windowRecords, liveRecords, mem_filter, decide_eq_true_eq] at h
  obtain ⟨⟨-, hid, -⟩, hbounds⟩ := h
  cases hmode : w.resetMode <;> simp only [hmode, decide_eq_true_eq] at hbounds <;> omega

/-- The windows that the cleanup goes by are those of the policy. -/
lemma quotaRecordBackedWindows_planForCleanup {plan : SubscriptionPlan}
    (hplan : getSubscriptionPlanOrSnapshotTx db sub = .ok (some plan))
    (hvalid : (quotaPolicyForSubscription sub (some plan)).invalid = false) :
    quotaRecordBackedWindows (quotaPolicyForSubscription sub (planForCleanup db sub)) =
      quotaRecordBackedWindows (quotaPolicyForSubscription sub (some plan)) := by
  by_cases hversion : 0 < sub.planPolicySnapshotVersion
  · exact quotaRecordBackedWindows_of_versioned hversion hvalid _
  · have hfound : planForCleanup db sub = some plan := by
      rw [getSubscriptionPlanOrSnapshotTx, getSubscriptionPlanByIdTx] at hplan
      rw [planForCleanup]
      cases hfind : db.findPlan sub.planId with
      | none =>
        split_ifs at hplan <;> simp_all
      | some found =>
        split_ifs at hplan <;> simp_all
    rw [hfound]

/-- The records of the windows that a subscription is in later were not deleted. -/
lemma keeps_of_mem_windowRecords {plan : SubscriptionPlan} (hdb : db.WellFormed)
    (hsub : sub ∈ db.subscriptions) (hactive : sub.status = .active) (hend : later < sub.endTime)
    (hnow : IsTimestamp now) (hlater : IsTimestamp later) (hle : now ≤ later)
    (hplan : getSubscriptionPlanOrSnapshotTx db sub = .ok (some plan))
    (hvalid : (quotaPolicyForSubscription sub (some plan)).invalid = false)
    (hw : w ∈ quotaRecordBackedWindows (quotaPolicyForSubscription sub (some plan)))
    (hr : r ∈ windowRecords db sub.id later w sub.startTime) : ¬Deletable db now r := by
  have hwvalid := valid_of_mem_recordBacked (fiveHourFits_quotaPolicyForSubscription hvalid) hw
  obtain ⟨hid, hcreated⟩ := le_createdAt_of_mem_windowRecords hr
  rintro (⟨hsub', hid', hold⟩ | hnone)
  · obtain rfl := hdb.subscriptions.eq_of_mem hsub hsub' (hid.symm.trans hid')
    rw [← quotaRecordBackedWindows_planForCleanup hplan hvalid] at hw
    have hsafe := subscriptionRecordSafeBefore_le hactive (hle.trans_lt hend) hw hwvalid
    have hmono : (quotaWindowBounds w now sub.startTime).1 ≤
        (quotaWindowBounds w later sub.startTime).1 :=
      quotaWindowBounds_mono hwvalid hnow hlater hle
    omega
  · exact hnone sub hsub hid.symm

/-! ## The same usage -/

lemma windowsAllow_congr {allows allows' : SubscriptionQuotaWindowPolicy → Except Error Bool}
    {windows : List CanonicalWindow} (h : ∀ w ∈ windows, allows' w.1 = allows w.1) :
    windowsAllow allows' windows = windowsAllow allows windows := by
  induction windows with
  | nil => rfl
  | cons window windows ih =>
    obtain ⟨hwindow, hwindows⟩ := forall_mem_cons.1 h
    rw [windowsAllow, windowsAllow, hwindow, ih hwindows]

lemma maybeReset_withRecords (loc : Location) (db : Database)
    (records : List SubscriptionPreConsumeRecord) (sub : UserSubscription)
    (plan : SubscriptionPlan) (now : ℤ) :
    Agree (fun r r' => r' = (r.1.withRecords records, r.2) ∧ r.1.plans = db.plans ∧
      r.1.records = db.records ∧
        (quotaPolicyForSubscription sub (some plan)).invalid = false ∧
          r.2 = sub.upToDate loc (some plan) now)
      (maybeResetUserSubscriptionWithPlanTx loc db sub plan now)
      (maybeResetUserSubscriptionWithPlanTx loc (db.withRecords records) sub plan now) := by
  rw [maybeResetUserSubscriptionWithPlanTx, maybeResetUserSubscriptionWithPlanTx]
  split_ifs with hvalid
  · exact .error _
  have hvalid : (quotaPolicyForSubscription sub (some plan)).invalid =
    false := by simpa using hvalid
  cases hreset : resetSubscription loc sub (quotaPolicyForSubscription sub (some plan)) now with
  | none | some sub' => exact .ok ⟨rfl, rfl, rfl, hvalid, by simp [upToDate, hreset]⟩

/-- The two databases differ in their records, but not in those of the windows `W`, given by the
    subscription and its start. -/
def Database.SameUsage (W : ℤ → ℤ → SubscriptionQuotaWindowPolicy → Prop) (now : ℤ)
    (db db' : Database) : Prop :=
  ∃ records, db' = db.withRecords records ∧ ∀ id anchor w, W id anchor w →
    windowRecords (db.withRecords records) id now w anchor = windowRecords db id now w anchor

/-- The windows of a policy are among those of `W`. -/
structure Covers (W : ℤ → ℤ → SubscriptionQuotaWindowPolicy → Prop) (id anchor : ℤ)
    (policy : SubscriptionQuotaPolicy) : Prop where
  windows : ∀ w ∈ policy.windows, W id anchor w.1
  fiveHour : policyHasFiveHour policy = true →
    W id anchor (fiveHourWindow policy.fiveHourAmount policy.fiveHourWindowSeconds)

/-- The windows of a valid policy are those counted on the records. -/
lemma covers_of_valid {W : ℤ → ℤ → SubscriptionQuotaWindowPolicy → Prop} {id anchor : ℤ}
    (hvalid : (quotaPolicyForSubscription sub plan).invalid = false)
    (hW : ∀ w ∈ quotaRecordBackedWindows (quotaPolicyForSubscription sub plan), W id anchor w) :
    Covers W id anchor (quotaPolicyForSubscription sub plan) := by
  have hmode := quotaPolicyForSubscription_generic hvalid
  generalize quotaPolicyForSubscription sub plan = policy at hW hmode ⊢
  rw [quotaRecordBackedWindows, policyHasGenericWindows] at hW
  by_cases hnil : policy.windows = []
  · refine ⟨fun w hw => absurd hw (by simp [hnil]), fun h5 => ?_⟩
    simp only [hnil, if_pos h5] at hW
    exact hW _ (mem_singleton.2 rfl)
  · refine ⟨fun w hw => ?_, fun h5 => ?_⟩
    · rw [if_pos (by simpa using hnil)] at hW
      exact hW _ (mem_map_of_mem hw)
    · rw [policyHasFiveHour_generic (hmode hnil)] at h5
      cases h5

section

variable {W : ℤ → ℤ → SubscriptionQuotaWindowPolicy → Prop} {db' : Database}
  {request : PreConsumeRequest} {id anchor amount : ℤ}

/-- Two attempts have one outcome. -/
inductive AttemptsAlike (W : ℤ → ℤ → SubscriptionQuotaWindowPolicy → Prop) (now : ℤ)
    (db db' : Database) :
    Attempt → Attempt → Prop
  | skipped {d d' : Database} (h : d.SameUsage W now d') (hplans : d.plans = db.plans)
      (hrecords : d.records = db.records) (hrecords' : d'.records = db'.records) :
      AttemptsAlike W now db db' (.skipped d) (.skipped d')
  | charged {d d' : Database} (h : d.SameUsage W now d') (result : SubscriptionPreConsumeResult) :
      AttemptsAlike W now db db' (.charged d result) (.charged d' result)

/-- The windows of the subscription, whatever plan it is found to have, are among `W`. -/
def Reads (W : ℤ → ℤ → SubscriptionQuotaWindowPolicy → Prop) (db : Database)
    (sub : UserSubscription) : Prop :=
  ∀ plan, getSubscriptionPlanOrSnapshotTx db sub = .ok (some plan) →
    (quotaPolicyForSubscription sub (some plan)).invalid = false →
    ∀ w ∈ quotaRecordBackedWindows (quotaPolicyForSubscription sub (some plan)),
      W sub.id sub.startTime w

lemma planOrSnapshot_congr {d : Database} (h : d.plans = db.plans) :
    getSubscriptionPlanOrSnapshotTx d sub = getSubscriptionPlanOrSnapshotTx db sub := by
  rw [getSubscriptionPlanOrSnapshotTx, getSubscriptionPlanOrSnapshotTx, getSubscriptionPlanByIdTx,
    getSubscriptionPlanByIdTx, findPlan, findPlan, h]

namespace Database.SameUsage

variable (h : db.SameUsage W now db')
include h

lemma recentSubscriptionWindowUsageTx (hW : W id anchor w) :
    Allrouter.recentSubscriptionWindowUsageTx db' id now w anchor =
      Allrouter.recentSubscriptionWindowUsageTx db id now w anchor := by
  obtain ⟨records, rfl, hsame⟩ := h
  rw [Allrouter.recentSubscriptionWindowUsageTx, Allrouter.recentSubscriptionWindowUsageTx,
    hsame id anchor w hW]

lemma recentSubscriptionUsageTx {seconds : ℤ} (hW : W id anchor (fiveHourWindow amount seconds)) :
    Allrouter.recentSubscriptionUsageTx db' id now seconds =
      Allrouter.recentSubscriptionUsageTx db id now seconds := by
  -- The window is read without its limit and its anchor, which do not matter.
  have hread (d : Database) : Allrouter.recentSubscriptionUsageTx d id now seconds =
      Allrouter.recentSubscriptionWindowUsageTx d id now (fiveHourWindow amount seconds) anchor :=
        rfl
  rw [hread, hread, h.recentSubscriptionWindowUsageTx hW]

lemma saveSubscription (sub : UserSubscription) :
    (db.saveSubscription sub).SameUsage W now (db'.saveSubscription sub) := by
  obtain ⟨records, rfl, hsame⟩ := h
  exact ⟨records, rfl, hsame⟩

lemma createRecord (record : SubscriptionPreConsumeRecord) :
    (db.createRecord record).SameUsage W now (db'.createRecord record) := by
  obtain ⟨records, rfl, hsame⟩ := h
  refine ⟨records ++ [record], rfl, fun id anchor w hW => ?_⟩
  have := hsame id anchor w hW
  simp only [windowRecords, liveRecords, withRecords, createRecord, filter_append]
    at this ⊢
  rw [this]

lemma genericQuotaAvailableTx (hcovers : Covers W sub.id sub.startTime policy) :
    Allrouter.genericQuotaAvailableTx db' sub policy now amount =
      Allrouter.genericQuotaAvailableTx db sub policy now amount := by
  rw [Allrouter.genericQuotaAvailableTx, Allrouter.genericQuotaAvailableTx]
  split_ifs
  · rfl
  · rfl
  · exact windowsAllow_congr fun w hw => by rw [h.recentSubscriptionWindowUsageTx
      (hcovers.windows w hw)]

lemma fiveHourQuotaAvailableTx (hcovers : Covers W sub.id sub.startTime policy) :
    Allrouter.fiveHourQuotaAvailableTx db' sub policy now amount =
      Allrouter.fiveHourQuotaAvailableTx db sub policy now amount := by
  rw [Allrouter.fiveHourQuotaAvailableTx, Allrouter.fiveHourQuotaAvailableTx]
  cases h5 : policyHasFiveHour policy with
  | false => rfl
  | true => rw [h.recentSubscriptionUsageTx (hcovers.fiveHour h5)]

lemma populatePreConsumeResultTx (hcovers : Covers W sub.id sub.startTime policy)
    (result : SubscriptionPreConsumeResult) :
      Allrouter.populatePreConsumeResultTx db' result sub policy now =
      Allrouter.populatePreConsumeResultTx db result sub policy now := by
  have hwindows : ∀ w ∈ policy.windows, Allrouter.recentSubscriptionWindowUsageTx db' sub.id now w.1
    sub.startTime =
      Allrouter.recentSubscriptionWindowUsageTx db sub.id now w.1 sub.startTime :=
    fun w hw => h.recentSubscriptionWindowUsageTx (hcovers.windows w hw)
  have hfive : policyHasFiveHour policy = true →
      Allrouter.recentSubscriptionUsageTx db' sub.id now policy.fiveHourWindowSeconds =
        Allrouter.recentSubscriptionUsageTx db sub.id now policy.fiveHourWindowSeconds :=
    fun h5 => h.recentSubscriptionUsageTx (hcovers.fiveHour h5)
  rw [Allrouter.populatePreConsumeResultTx, Allrouter.populatePreConsumeResultTx]
  by_cases hid : sub.id > 0
  · simp only [hid]
    cases h5 : policyHasFiveHour policy with
    | true =>
      simp only [hfive h5]
      exact bind_congr fun used => congrArg (· >>= _) (mapM_congr fun w hw => by rw [hwindows w hw])
    | false => exact bind_congr fun used => congrArg (· >>= _) (mapM_congr fun w
      hw => by rw [hwindows w hw])
  · simp only [hid, and_false, if_false]

/-! ## Charges -/

lemma chargeCounter_agree :
    Agree (fun r r' => r'.2 = r.2 ∧ r.1.SameUsage W now r'.1 ∧ r.2.id = sub.id ∧
      r.2.startTime = sub.startTime)
      (chargeCounter db sub policy amount) (chargeCounter db' sub policy amount) := by
  rw [chargeCounter, chargeCounter]
  split_ifs
  · cases subscriptionSafeAddInt64 sub.amountUsed amount with
    | none => exact .error _
    | some nextUsed => exact .ok ⟨rfl, h.saveSubscription _, rfl, rfl⟩
  · exact .ok ⟨rfl, h, rfl, rfl⟩

variable (hnew : db.findRecord request.requestId = none)
    (hnew' : db'.findRecord request.requestId = none)
include hnew hnew'

lemma chargeSubscription_agree (hcovers : Covers W sub.id sub.startTime policy) :
    Agree (fun r r' => r'.2 = r.2 ∧ r.1.SameUsage W now r'.1)
      (chargeSubscription db sub policy request now clock)
      (chargeSubscription db' sub policy request now clock) := by
  rw [chargeSubscription, chargeSubscription, hnew, hnew']
  refine bind ((h.createRecord (request.record sub.id now clock)).chargeCounter_agree) ?_
  rintro ⟨d, charged⟩ ⟨d', _⟩ ⟨rfl, hd, hid, hstart⟩
  dsimp only at hid hstart hd ⊢
  rw [← hid, ← hstart] at hcovers
  rw [hd.populatePreConsumeResultTx hcovers]
  refine bind (of_eq (R := Eq) rfl fun _ => rfl) ?_
  rintro result _ rfl
  exact .ok ⟨rfl, hd⟩

lemma attemptSubscriptions_agree {subs : List UserSubscription}
    (hreads : ∀ sub ∈ subs, Reads W db sub) :
    Agree (fun r r' => r'.2 = r.2 ∧ r.1.SameUsage W now r'.1)
      (attemptSubscriptions loc request now clock db subs)
      (attemptSubscriptions loc request now clock db' subs) := by
  refine (agree_attemptSubscriptions (R := AttemptsAlike W now db db') ⟨nofun, nofun⟩ ?_
    (.skipped h rfl rfl rfl)).imp ?_
  · rintro sub hsub d d' ⟨hd, hplans, hrecords, hrecords'⟩
    have hsame : getSubscriptionPlanOrSnapshotTx d' sub =
        getSubscriptionPlanOrSnapshotTx d sub := by
      obtain ⟨_, rfl, -⟩ := hd
      rfl
    refine agree_attemptSubscription (.skipped hd hplans hrecords hrecords')
      (.of_eq hsame.symm .same)
      (fun row => .skipped (hd.saveSubscription row) hplans hrecords hrecords') ?_
    rintro d₁ d₁' plan plan' ⟨h₁, -, hrecords, hrecords'⟩ hplan hplan' hvalid -
    rw [hsame, hplan] at hplan'
    cases hplan'
    rw [planOrSnapshot_congr hplans] at hplan
    have hcovers := covers_of_valid hvalid (hreads sub hsub plan hplan hvalid)
    have hnew₁ : d₁.findRecord request.requestId = none := by rw [findRecord, hrecords]; exact hnew
    have hnew₁' : d₁'.findRecord request.requestId =
      none := by rw [findRecord, hrecords']; exact hnew'
    refine ⟨h₁.genericQuotaAvailableTx hcovers, h₁.fiveHourQuotaAvailableTx hcovers,
      fun used last next => ?_⟩
    have hrow : Covers W (sub.withCounters used last next).id sub.startTime _ := hcovers
    refine (h₁.chargeSubscription_agree hnew₁ hnew₁' hrow).imp ?_
    rintro ⟨d, result⟩ ⟨d', _⟩ - ⟨rfl, hd⟩
    exact .charged hd _
  · rintro ⟨d, result⟩ ⟨d', _⟩ - h
    cases h with
    | charged h => exact ⟨rfl, h⟩

lemma preConsumeUserSubscription_agree (hreads : ∀ sub ∈ db.activeSubscriptions request.userId now,
    Reads W db sub) :
    Agree (fun r r' => r'.2 = r.2 ∧ r.1.SameUsage W now r'.1)
      (preConsumeUserSubscription loc db request now clock)
      (preConsumeUserSubscription loc db' request now clock) := by
  have hactive : db'.activeSubscriptions request.userId now =
      db.activeSubscriptions request.userId now := by
    obtain ⟨records, rfl, -⟩ := h
    rfl
  rw [preConsumeUserSubscription, preConsumeUserSubscription]
  dsimp only
  rw [hnew, hnew', hactive]
  split_ifs
  · exact .error _
  · exact .error _
  · exact .error _
  dsimp only
  split
  · exact .error _
  · refine h.attemptSubscriptions_agree ?_ ?_ hreads
    · exact hnew
    · exact hnew'

end Database.SameUsage

end

/-! ## New requests after the cleanup -/

/-- The windows of the user's subscriptions that are active. -/
def ActiveWindow (db : Database) (userId now id anchor : ℤ) (w : SubscriptionQuotaWindowPolicy) :
    Prop :=
  ∃ sub ∈ db.activeSubscriptions userId now, sub.id = id ∧ sub.startTime = anchor ∧
    ∃ plan, getSubscriptionPlanOrSnapshotTx db sub = .ok (some plan) ∧
      (quotaPolicyForSubscription sub (some plan)).invalid = false ∧
      w ∈ quotaRecordBackedWindows (quotaPolicyForSubscription sub (some plan))

lemma sameUsage_of_cleaned (hdb : db.WellFormed) (hnow : IsTimestamp now)
    (hlater : IsTimestamp later) (hle : now ≤ later) (userId : ℤ) :
      db.SameUsage (ActiveWindow db userId later) later
      (cleanupSubscriptionPreConsumeRecords db updatedAt olderThanSeconds now executed).1 := by
  obtain ⟨keeps, heq, hkeeps⟩ := cleanup_eq db updatedAt olderThanSeconds now executed
  refine ⟨db.records.filter keeps, heq, ?_⟩
  rintro id anchor w ⟨sub, hactive, rfl, rfl, plan, hplan, hvalid, hw⟩
  simp only [activeSubscriptions, mem_insertionSort, mem_filter, decide_eq_true_eq] at hactive
  obtain ⟨hsub, -, -, hstatus, -, hend⟩ := hactive
  have hkept : ∀ r ∈ windowRecords db sub.id later w sub.startTime, keeps r = true := fun r hr => by
    have := mt (hkeeps r) (keeps_of_mem_windowRecords hdb hsub hstatus hend hnow hlater hle hplan
      hvalid hw hr)
    simpa using this
  rw [← filter_eq_self.2 hkept]
  simp only [windowRecords, liveRecords, withRecords, filter_filter]
  ac_rfl

/-- A new request is answered as if the records were still there. -/
theorem preConsume_of_cleaned (hdb : db.WellFormed) (hnow : IsTimestamp now)
    (hlater : IsTimestamp later) (hle : now ≤ later) (updatedAt : String → ℤ) (olderThanSeconds : ℤ)
    (executed : ℕ) (loc : Location) (clock : ℤ) {request : PreConsumeRequest}
    (hnew : db.findRecord request.requestId = none) :
    (preConsumeUserSubscription loc
      (cleanupSubscriptionPreConsumeRecords db updatedAt olderThanSeconds now executed).1
        request later clock).map Prod.snd =
          (preConsumeUserSubscription loc db request later clock).map Prod.snd := by
  have hsame : db.SameUsage (ActiveWindow db request.userId later) later
      (cleanupSubscriptionPreConsumeRecords db updatedAt olderThanSeconds now executed).1 :=
    sameUsage_of_cleaned hdb hnow hlater hle request.userId
  have hreads : ∀ sub ∈ db.activeSubscriptions request.userId later,
      Reads (ActiveWindow db request.userId later) db sub :=
    fun sub hsub plan hplan hvalid w hw => ⟨sub, hsub, rfl, rfl, plan, hplan, hvalid, hw⟩
  have hnew' : (cleanupSubscriptionPreConsumeRecords db updatedAt olderThanSeconds now
    executed).1.findRecord
      request.requestId = none := by
    obtain ⟨keeps, heq, -⟩ := cleanup_eq db updatedAt olderThanSeconds now executed
    rw [heq]
    exact Table.get?_eq_none.2 fun r hr => Table.get?_eq_none.1 hnew r (mem_filter.1 hr).1
  exact eq (map (S := fun result result' => result' = result)
    (hsame.preConsumeUserSubscription_agree hnew hnew' hreads) fun _ _ h => h.1)

end

/-! ### A window of 30 days -/

namespace Monthly

def sub : UserSubscription where
  id := 1
  userId := 1
  planId := 1
  startTime := 1000
  endTime := 31536000
  quotaWindowMode := "generic"
  quotaWindowsSnapshot := [{ type := "day", amount := 100, duration := 30, resetMode := "rolling" }]
  planPolicySnapshotVersion := 1

def charged (requestId : String) (amount hour : ℤ) : SubscriptionPreConsumeRecord where
  requestId := requestId
  userId := 1
  userSubscriptionId := 1
  preConsumed := amount
  settledAmount := some amount
  settledAt := hour * 3600
  status := .consumed
  createdAt := hour * 3600

def database : Database where
  users := [{ id := 1 }]
  plans := [{ id := 1 }]
  subscriptions := [sub]
  records := [charged "a" 80 216, charged "b" 10 264, charged "c" 5 948]

/-- The records were written last when they were created. -/
def updatedAt (requestId : String) : ℤ := ((database.findRecord requestId).map (·.createdAt)).getD 0

def cleaned : Database :=
  (cleanupSubscriptionPreConsumeRecords database updatedAt 0 (960 * 3600) 2).1

lemma wellFormed : database.WellFormed := ⟨by decide, by decide⟩

lemma cleaned_records :
    cleaned.records = [charged "b" 10 264, charged "c" 5 948] := by decide +kernel

lemma policy {plan : Option SubscriptionPlan} (hplan : planForSettlement database sub = .ok plan) :
    policyTracksAggregate (quotaPolicyForSubscription sub plan) = false ∧
      quotaRecordBackedWindows (quotaPolicyForSubscription sub plan) =
        [{ unit := .day, amount := 100, duration := 30, windowSeconds := 2592000,
           resetMode := .rolling, name := "" }] := by
  have h : (planForSettlement database sub).map (fun plan =>
      (policyTracksAggregate (quotaPolicyForSubscription sub plan),
        quotaRecordBackedWindows (quotaPolicyForSubscription sub plan))) =
      .ok (false,
        [{ unit := .day, amount := 100, duration := 30, windowSeconds := 2592000,
           resetMode := .rolling, name := "" }]) := by
    decide +kernel
  rw [hplan] at h
  exact Prod.mk.inj (ok.inj h)

end Monthly

/-- A request on the day after the cleanup. -/
theorem preConsume_of_cleaned_monthly : ((preConsumeUserSubscription (fixed 0) Monthly.cleaned
        { requestId := "d", userId := 1, amount := 85 } (961 * 3600) (961 * 3600)).map
          Prod.snd).isOk = true ∧
      (preConsumeUserSubscription (fixed 0) Monthly.cleaned
        { requestId := "d", userId := 1, amount := 85 } (961 * 3600) (961 * 3600)).map Prod.snd =
      (preConsumeUserSubscription (fixed 0) Monthly.database
        { requestId := "d", userId := 1, amount := 85 } (961 * 3600) (961 * 3600)).map Prod.snd :=
  ⟨by decide +kernel, preConsume_of_cleaned Monthly.wellFormed (by decide) (by decide) (by decide)
    _ _ _ _ _ (by decide +kernel)⟩

/-! ## Settlements after the cleanup -/

section

variable {loc : Location} {now later : ℤ} {db d : Database} {sub : UserSubscription}
  {plan : Option SubscriptionPlan} {policy : SubscriptionQuotaPolicy}
  {w : SubscriptionQuotaWindowPolicy} {record r : SubscriptionPreConsumeRecord}

/-- The settlement of the record at more than it amounts to counts what was created at `created`: in
    one of the windows around the record, or in the period of the record, if the counter has left
    it. -/
inductive Consults (loc : Location) (sub : UserSubscription) (policy : SubscriptionQuotaPolicy)
    (record : SubscriptionPreConsumeRecord) (now created : ℤ) : Prop
  | rolling {w : SubscriptionQuotaWindowPolicy} (hw : w ∈ quotaRecordBackedWindows policy)
      (hmode : w.resetMode = .rolling) (hfrom : record.createdAt - w.windowSeconds < created)
      (hto : created < record.createdAt + w.windowSeconds)
  | calendar {w : SubscriptionQuotaWindowPolicy} (hw : w ∈ quotaRecordBackedWindows policy)
      (hmode : w.resetMode = .calendar)
      (hcontains : w.Contains sub.startTime record.createdAt created)
  | period {start stop : ℤ} (htracks : policyTracksAggregate policy = true)
      (hleft : countsRecord sub policy record now = false)
      (hlimit : 0 < policyWeeklyLimit policy sub)
      (hbounds : aggregateQuotaPeriodBounds loc sub policy record.createdAt = .ok (start, stop))
      (hfrom : start ≤ created) (hto : stop > 0 → created < stop)

/-- None of the records that are left out counts. -/
def Unconsulted (loc : Location) (db : Database) (keeps : SubscriptionPreConsumeRecord → Bool)
    (sub : UserSubscription) (policy : SubscriptionQuotaPolicy)
    (record : SubscriptionPreConsumeRecord) (now : ℤ) : Prop :=
  ∀ r ∈ db.records, r.userSubscriptionId = sub.id → r.status ≠ .refunded → keeps r = false →
    ¬Consults loc sub policy record now r.createdAt

section

variable {keeps : SubscriptionPreConsumeRecord → Bool} {target delta : ℤ}

/-- The records around a time are those within the length of the window. -/
lemma around_of_saturated {c seconds created : ℤ} (hpos : 0 < seconds)
    (hlower : (subscriptionSafeSubInt64 c seconds).getD minInt64 < created)
    (hupper : created < (subscriptionSafeAddInt64 c seconds).getD maxInt64) :
    c - seconds < created ∧ created < c + seconds := by
  have hmin : minInt64 < 0 := by decide
  rw [subscriptionSafeSubInt64, subscriptionSafeAddInt64] at hlower
  rw [subscriptionSafeAddInt64] at hupper
  constructor
  · split_ifs at hlower <;> simp only [Option.getD_none, Option.getD_some] at hlower <;> omega
  · split_ifs at hupper <;> simp only [Option.getD_none, Option.getD_some] at hupper <;> omega

section

variable (h : Unconsulted loc db keeps sub policy record now)
include h

/-- The other records that satisfy `p` are the same if they all count. -/
lemma otherLiveRecords_filter {requestId : String} {p : SubscriptionPreConsumeRecord → Bool}
    (hconsults : ∀ r, p r = true → Consults loc sub policy record now r.createdAt) :
    ((db.keeping keeps).otherLiveRecords sub.id requestId).filter p =
      (db.otherLiveRecords sub.id requestId).filter p := by
  simp only [otherLiveRecords, withRecords, filter_filter]
  refine filter_congr fun r hr => ?_
  by_cases hother : r.userSubscriptionId = sub.id ∧ r.status ≠ .refunded ∧ r.requestId ≠ requestId
  · cases hp : p r with
    | false => rfl
    | true =>
      have hkept : keeps r = true := by
        by_contra hdeleted
        exact h r hr hother.1 hother.2.1 (by simpa using hdeleted) (hconsults r hp)
      simp [hkept]
  · simp [hother]

lemma aggregateQuotaHistoricalTargetAllowedTx_filter (htracks : policyTracksAggregate policy = true)
    (hleft : countsRecord sub policy record now = false) :
    aggregateQuotaHistoricalTargetAllowedTx loc (db.keeping keeps) sub policy record target now =
      aggregateQuotaHistoricalTargetAllowedTx loc db sub policy record target now := by
  rw [aggregateQuotaHistoricalTargetAllowedTx, aggregateQuotaHistoricalTargetAllowedTx]
  split_ifs with hlimit
  · rfl
  · rfl
  · rfl
  cases hbounds : aggregateQuotaPeriodBounds loc sub policy record.createdAt with
  | error e => rfl
  | ok bounds =>
    refine congrArg (fun l => ok (recordsFit _ l)) (otherLiveRecords_filter h fun r hp => ?_)
    have hp := of_decide_eq_true hp
    exact .period htracks hleft (not_le.1 hlimit) hbounds hp.1 hp.2.2

lemma quotaWindowTargetAllowedTx_filter (hw : w ∈ quotaRecordBackedWindows policy) :
    quotaWindowTargetAllowedTx (db.keeping keeps) sub.id w sub.startTime record target now =
      quotaWindowTargetAllowedTx db sub.id w sub.startTime record target now := by
  -- the checks do not read the records
  refine ite_congr rfl (fun _ => rfl) fun _ => ite_congr rfl (fun _ => rfl) fun _ =>
    ite_congr rfl (fun _ => rfl) fun _ => ite_congr rfl (fun _ => rfl) fun hseconds =>
    ite_congr rfl (fun _ => rfl) fun _ => ite_congr rfl (fun _ => rfl) fun _ =>
    ite_congr rfl (fun _ => rfl) fun _ => ?_
  cases hmode : w.resetMode with
  | calendar =>
    refine congrArg (fun l => ok (recordsFit _ l)) (otherLiveRecords_filter h fun r hp => ?_)
    obtain ⟨hfrom, hto, -⟩ := of_decide_eq_true hp
    exact .calendar hw hmode ((contains_calendar hmode).2 ⟨hfrom, hto⟩)
  | rolling =>
    refine congrArg (fun l => ok (rollingFits _ _ _ l)) ?_
    rw [surroundingRecords, surroundingRecords, otherLiveRecords_filter h fun r hp => ?_]
    obtain ⟨hlower, hupper, -⟩ := of_decide_eq_true hp
    obtain ⟨hfrom, hto⟩ := around_of_saturated (by omega) hlower hupper
    exact .rolling hw hmode hfrom hto

lemma genericQuotaTargetAllowedTx_filter :
    genericQuotaTargetAllowedTx (db.keeping keeps) sub policy record target now =
      genericQuotaTargetAllowedTx db sub policy record target now := by
  rw [genericQuotaTargetAllowedTx, genericQuotaTargetAllowedTx]
  split_ifs with hgeneric
  · rfl
  · rfl
  · refine windowsAllow_congr fun w hw => quotaWindowTargetAllowedTx_filter h ?_
    rw [quotaRecordBackedWindows, if_pos (by simpa using hgeneric)]
    exact mem_map_of_mem hw

lemma checkSettlement_filter (hmode : policy.windows ≠ [] → policy.mode = .generic) :
    checkSettlement loc (db.keeping keeps) sub policy record target delta now
        (countsRecord sub policy record now) =
      checkSettlement loc db sub policy record target delta now
        (countsRecord sub policy record now) := by
  have haggregate : checkAggregate loc (db.keeping keeps) sub policy record target delta now
      (countsRecord sub policy record now) =
        checkAggregate loc db sub policy record target delta now
            (countsRecord sub policy record now) := by
    rw [checkAggregate, checkAggregate]
    split_ifs with htracks hcurrent
    · rfl
    · rw [aggregateQuotaHistoricalTargetAllowedTx_filter h htracks (by simpa using hcurrent)]
    · rfl
  have hfive : checkFiveHour (db.keeping keeps) sub policy record target delta now =
      checkFiveHour db sub policy record target delta now := by
    rw [checkFiveHour, checkFiveHour]
    split_ifs with h5
    · have hnil : policy.windows = [] := by
        by_contra hne
        rw [policyHasFiveHour_generic (hmode hne)] at h5
        cases h5
      rw [quotaWindowTargetAllowedTx_filter h ?_]
      simp [quotaRecordBackedWindows, policyHasGenericWindows, hnil, h5]
    · rfl
  rw [checkSettlement, checkSettlement, haggregate, hfive, genericQuotaTargetAllowedTx_filter h]

end

lemma settleOnSubscription_filter
    (hmode : policy.invalid = false → policy.windows ≠ [] → policy.mode = .generic)
    (h : target ≤ effectivePreConsumeAmount record ∨
      Unconsulted loc db keeps sub policy record now) :
    Agree (fun _ _ => True) (settleOnSubscription loc db sub policy record target now)
      (settleOnSubscription loc (db.keeping keeps) sub policy record target now) := by
  rw [settleOnSubscription, settleOnSubscription]
  split_ifs with hinvalid
  · exact .error _
  · exact .error _
  have hcheck : checkSettlement loc (db.keeping keeps) sub policy record target
      (target - effectivePreConsumeAmount record) now (countsRecord sub policy record now) =
        checkSettlement loc db sub policy record target
          (target - effectivePreConsumeAmount record) now
          (countsRecord sub policy record now) := by
    rcases h with h | h
    · rw [checkSettlement, checkSettlement, if_neg (by omega), if_neg (by omega)]
    · exact checkSettlement_filter h (hmode (by simpa using hinvalid))
  refine bind (of_eq (R := Eq) hcheck.symm fun _ => rfl) fun _ _ _ => ?_
  rw [writeSettlement, writeSettlement]
  split_ifs
  · cases subscriptionSafeAddInt64 sub.amountUsed (target - effectivePreConsumeAmount record) with
    | none => exact .error _
    | some nextUsed => exact .ok trivial
  · exact .ok trivial

end

/-- None of the records that are not `left` counts when the record is settled. -/
def NoneConsulted (loc : Location) (db : Database) (left : List SubscriptionPreConsumeRecord)
    (record : SubscriptionPreConsumeRecord) (now : ℤ) : Prop :=
  ∀ sub plan, db.findSubscription record.userSubscriptionId = some sub →
    planForSettlement db sub = .ok plan →
    ∀ r ∈ db.records, r ∉ left → r.userSubscriptionId = sub.id → r.status ≠ .refunded →
      ¬Consults loc (sub.upToDate loc plan now) (quotaPolicyForSubscription sub plan) record
        now r.createdAt

section

variable {keeps : SubscriptionPreConsumeRecord → Bool} {target : ℤ}

lemma maybeResetForSettlement_withRecords (loc : Location) (db : Database)
    (records : List SubscriptionPreConsumeRecord) (sub : UserSubscription)
    (plan : Option SubscriptionPlan) (now : ℤ) :
    Agree (fun r r' => r' = (r.1.withRecords records, r.2) ∧ r.1.records = db.records ∧
        (plan ≠ none → (quotaPolicyForSubscription sub plan).invalid = false) ∧
          r.2 = sub.upToDate loc plan now)
      (maybeResetForSettlement loc db sub plan now)
      (maybeResetForSettlement loc (db.withRecords records) sub plan now) := by
  cases plan with
  | none => exact .ok ⟨rfl, rfl, fun h => absurd rfl h, rfl⟩
  | some plan =>
    refine (maybeReset_withRecords loc db records sub plan now).imp fun r r' _ ⟨heq, _, hrecords,
      hvalid, hrow⟩ => ?_
    exact ⟨heq, hrecords, fun _ => hvalid, hrow⟩

lemma settleSubscriptionPreConsumeTx_filter
    (h : target ≤ effectivePreConsumeAmount record ∨
      NoneConsulted loc db (db.records.filter keeps) record later) :
    Agree (fun _ _ => True) (settleSubscriptionPreConsumeTx loc db record target later)
      (settleSubscriptionPreConsumeTx loc (db.keeping keeps) record target later) := by
  rw [settleSubscriptionPreConsumeTx, settleSubscriptionPreConsumeTx]
  split_ifs
  · exact .error _
  · exact .ok trivial
  · exact .ok trivial
  have hfind : (db.keeping keeps).findSubscription record.userSubscriptionId =
      db.findSubscription record.userSubscriptionId := rfl
  rw [hfind]
  cases hsub : db.findSubscription record.userSubscriptionId with
  | none => exact .error _
  | some sub =>
    have hplans : planForSettlement (db.keeping keeps) sub = planForSettlement db sub := rfl
    dsimp only
    rw [hplans]
    cases hplan : planForSettlement db sub with
    | error e => exact .error e
    | ok plan =>
      show Agree _ (maybeResetForSettlement loc db sub plan later >>= _)
        (maybeResetForSettlement loc (db.withRecords _) sub plan later >>= _)
      refine bind (maybeResetForSettlement_withRecords loc db _ sub plan later) ?_
      rintro ⟨d, _⟩ _ ⟨rfl, hrecords, hvalid, rfl⟩
      rw [policy_upToDate hvalid, ← hrecords]
      refine settleOnSubscription_filter quotaPolicyForSubscription_generic
        (h.imp_right fun h r hr hid hlive hgone => ?_)
      rw [sub.upToDate_id] at hid
      rw [hrecords] at hr
      exact h sub plan hsub hplan r hr (fun hleft => by simp [hgone] at hleft) hid hlive

end

/-- A record that is left is settled, and adjusted, as if the others were still there, unless it is
    raised and the check would look at one of them. -/
theorem settlement_of_cleaned (hdb : db.WellFormed) (updatedAt : String → ℤ)
    (olderThanSeconds now : ℤ) (executed : ℕ) (loc : Location) (later : ℤ)
    (hleft : record ∈
      (cleanupSubscriptionPreConsumeRecords db updatedAt olderThanSeconds now executed).1.records) :
    let cleaned :=
      (cleanupSubscriptionPreConsumeRecords db updatedAt olderThanSeconds now executed).1
    (∀ actual, actual ≤ effectivePreConsumeAmount record ∨
      NoneConsulted loc db cleaned.records record later →
      (settleSubscriptionPreConsume loc cleaned record.requestId actual later).map (fun _ => ()) =
        (settleSubscriptionPreConsume loc db record.requestId actual later).map fun _ => ()) ∧
    (∀ delta, delta ≤ 0 ∨ NoneConsulted loc db cleaned.records record later →
      (adjustSubscriptionPreConsume loc cleaned record.requestId delta later).map (fun _ => ()) =
        (adjustSubscriptionPreConsume loc db record.requestId delta later).map fun _ => ()) := by
  obtain ⟨keeps, heq, -⟩ := cleanup_eq db updatedAt olderThanSeconds now executed
  rw [heq] at hleft ⊢
  have hrecord := (mem_filter.1 hleft).1
  have hfind : db.findRecord record.requestId = some record := hdb.records.get?_of_mem hrecord
  have hfind' : (db.keeping keeps).findRecord record.requestId = some record :=
    Table.Keyed.get?_of_mem (hdb.records.sublist (filter_sublist.map _)) hleft
  have hanswer {x y : Except Error Database} (h : Agree (fun _ _ => True) x y) :
      y.map (fun _ => ()) = x.map fun _ => () :=
    eq (h.map (S := fun u u' : Unit => u' = u) fun _ _ _ => rfl)
  refine ⟨fun actual h => hanswer ?_, fun delta h => hanswer ?_⟩
  · rw [settleSubscriptionPreConsume, settleSubscriptionPreConsume, hfind, hfind']
    split_ifs
    · exact .error _
    · exact .error _
    dsimp only
    split_ifs
    · exact .error _
    · exact settleSubscriptionPreConsumeTx_filter h
  · rw [adjustSubscriptionPreConsume, adjustSubscriptionPreConsume, hfind, hfind']
    split_ifs
    · exact .error _
    · exact .ok trivial
    dsimp only
    split_ifs
    · exact .error _
    cases htarget : subscriptionSafeAddInt64 (effectivePreConsumeAmount record) delta with
    | none => exact .error _
    | some target =>
      refine settleSubscriptionPreConsumeTx_filter (h.imp_left fun h => ?_)
      have hsum := eq_add_of_safeAdd htarget
      have hnonneg := effective_nonneg record
      omega

end

/-- The record of day 11 was made two days after the one that is deleted, and there is no room for
    30 with both. -/
theorem settlement_differs_monthly : (planForSettlement Monthly.database Monthly.sub).map
        (fun plan => (quotaPolicyForSubscription Monthly.sub plan).invalid) = .ok false ∧
      Monthly.charged "b" 10 264 ∈ Monthly.cleaned.records ∧
      (settleSubscriptionPreConsume (fixed 0) Monthly.cleaned "b" 30 (961 * 3600)).isOk = true ∧
      (settleSubscriptionPreConsume (fixed 0) Monthly.database "b" 30 (961 * 3600)).map
        (fun _ => ()) =
        .error (.text "subscription quota insufficient, window limit reached, need=20") := by
  decide +kernel

lemma Monthly.noneConsulted :
    NoneConsulted (fixed 0) Monthly.database Monthly.cleaned.records (Monthly.charged "c" 5 948)
      (961 * 3600) := by
  intro sub plan hsub hplan r hr hgone _ _ hconsults
  obtain rfl : Monthly.sub = sub := Option.some.inj hsub
  have hr : r = Monthly.charged "a" 80 216 := by
    rw [Monthly.cleaned_records] at hgone
    simp only [Monthly.database, mem_cons] at hr hgone
    tauto
  subst hr
  obtain ⟨htracks, hwindows⟩ := Monthly.policy hplan
  cases hconsults with
  | rolling hw _ hfrom _ =>
    rw [hwindows] at hw
    obtain rfl := mem_singleton.1 hw
    revert hfrom
    decide
  | calendar hw hmode =>
    rw [hwindows] at hw
    obtain rfl := mem_singleton.1 hw
    cases hmode
  | period htracks' => simp [htracks] at htracks'

/-- The record that is raised is far from the one that was deleted. -/
theorem settlement_of_cleaned_monthly : Monthly.cleaned.records ≠ Monthly.database.records ∧
      (adjustSubscriptionPreConsume (fixed 0) Monthly.cleaned "c" 50 (961 * 3600)).map
        (fun _ => ()) =
        (adjustSubscriptionPreConsume (fixed 0) Monthly.database "c" 50 (961 * 3600)).map fun _ =>
          () := by
  have hleft : Monthly.charged "c" 5 948 ∈
    Monthly.cleaned.records := by simp [Monthly.cleaned_records]
  have h := settlement_of_cleaned Monthly.wellFormed Monthly.updatedAt 0 (960 * 3600) 2 (fixed 0)
    (961 * 3600)
    hleft
  exact ⟨by simp [Monthly.cleaned_records, Monthly.database], h.2 50 (.inr Monthly.noneConsulted)⟩

end Allrouter
