import Allrouter.Subscription.Account

/-!
# The limits of the windows

No window of a subscription, wherever it lies, is used above its limit. Admission
only looks at the window that ends now; it is enough because a new record is the
latest one, so that what it shares a window with lies in that window
(`contains_now`). A settlement raises a record among later ones, and looks at all
windows around it (`windowUsage_le_of_allowed`).

The windows themselves are intervals, and buckets of a grid (`IsWindow`); what the operations
compute are these windows (`exists_isWindow`, `IsWindow.exists_contains`).

* `Effect.windowInvariant`: an effect keeps the limits, if the operation saw every
  record of the subscription;
* `withinWindowLimits_of_run`: operations that run one after the other keep them.
-/

namespace Allrouter

open Civil TimedSum SubscriptionPreConsumeRecord Database List

/-! ## One effect -/

/-- The times of one window of the policy: an interval of a rolling one, or a bucket of the grid of
    a calendar one. The buckets of a custom window are counted from the issuance at `anchor`. -/
inductive SubscriptionQuotaWindowPolicy.IsWindow (w : SubscriptionQuotaWindowPolicy) (anchor : ℤ) :
    Finset ℤ → Prop
  | interval (hmode : w.resetMode = .rolling) (t : ℤ) :
      IsWindow w anchor (.Ioc (t - w.windowSeconds) t)
  | bucket (hmode : w.resetMode = .calendar) (hw : w.Canonical) (k : ℤ)
      (hcustom : w.unit = .custom → 0 < anchor ∧
        anchor ≤ (CanonicalWindow.grid ⟨w, hw⟩ anchor).bound k) :
      IsWindow w anchor (.Ico ((CanonicalWindow.grid ⟨w, hw⟩ anchor).bound k)
        ((CanonicalWindow.grid ⟨w, hw⟩ anchor).bound (k + 1)))

/-- Every window of the policy is used within its limit. -/
def Database.WithinWindowLimits (db : Database) (id anchor : ℤ) (policy : SubscriptionQuotaPolicy) :
    Prop :=
  ∀ w ∈ quotaRecordBackedWindows policy, ∀ window, w.IsWindow anchor window →
    db.usage id (· ∈ window) ≤ w.amount

/-- The window that the operations compute for any time is used within its limit. -/
def Database.WindowsBounded (db : Database) (id anchor : ℤ) (policy : SubscriptionQuotaPolicy) :
    Prop :=
  ∀ w ∈ quotaRecordBackedWindows policy, ∀ t, (w.resetMode = .calendar → IsTimestamp t) →
    windowUsage w anchor t (db.liveRecords id) ≤ w.amount

/-- The limits are kept, by records created up to `time`. -/
structure WindowInvariant (id anchor : ℤ) (policy : SubscriptionQuotaPolicy) (time : ℤ)
    (db : Database) :
    Prop where
  wellFormed : db.WellFormed
  hasPolicy : db.HasPolicy id anchor policy
  created : ∀ r ∈ db.liveRecords id, IsTimestamp r.createdAt ∧ r.createdAt ≤ time
  limits : db.WindowsBounded id anchor policy

section

variable {loc : Location} {now clock id anchor t : ℤ} {db db' : Database}
  {policy : SubscriptionQuotaPolicy} {w : SubscriptionQuotaWindowPolicy}

/-- A window with a timestamp in it is the one that is computed for some time. -/
lemma SubscriptionQuotaWindowPolicy.IsWindow.exists_contains {window : Finset ℤ} {c : ℤ}
    (h : w.IsWindow anchor window) (hc : c ∈ window) (htime : IsTimestamp c) :
    ∃ t, (w.resetMode = .calendar → IsTimestamp t) ∧ ∀ u, w.Contains anchor t u ↔ u ∈ window := by
  cases h with
  | interval hmode t =>
    refine ⟨t, by simp [hmode], fun u => ?_⟩
    rw [contains_rolling hmode, Finset.mem_Ioc]
  | bucket hmode hw k hcustom =>
    obtain ⟨h₁, h₂⟩ := Finset.mem_Ico.1 hc
    have hbounds := quotaWindowBounds_calendar ⟨w, hw⟩ hmode htime
      fun hunit => (hcustom hunit).imp_right h₁.trans'
    refine ⟨c, fun _ => htime, fun u => ?_⟩
    rw [contains_calendar hmode, hbounds, Grid.start, Grid.stop, (Grid.index_eq_iff _).2 ⟨h₁, h₂⟩,
      Finset.mem_Ico]

/-- The window that is computed for a time is empty, or a window of the policy. -/
lemma exists_isWindow {c : ℤ} (hw : w.Valid) (ht : w.resetMode = .calendar → IsTimestamp t)
    (hc : w.Contains anchor t c) :
    ∃ window, w.IsWindow anchor window ∧ ∀ u, w.Contains anchor t u ↔ u ∈ window := by
  cases hmode : w.resetMode with
  | rolling => exact ⟨_, .interval hmode t, fun u => by rw [contains_rolling hmode, Finset.mem_Ioc]⟩
  | calendar =>
    let w' : CanonicalWindow := ⟨w, hw.canonical_of_calendar hmode⟩
    have hbounds : quotaWindowBounds w t anchor = _ :=
      quotaWindowBounds_calendar w' hmode (ht hmode)
      fun hunit => anchor_le_of_contains hmode hunit hc
    refine ⟨_, .bucket hmode w'.2 ((w'.grid anchor).index t) fun hunit => ?_, fun u => ?_⟩
    · obtain ⟨hpos, hle⟩ := anchor_le_of_contains hmode hunit hc
      exact ⟨hpos, (w'.start_anchor hunit).ge.trans ((w'.grid anchor).start_mono hle)⟩
    · rw [contains_calendar hmode, hbounds, Finset.mem_Ico]
      rfl

lemma Database.WithinWindowLimits.windowsBounded (hfits : policy.FiveHourFits)
    (h : db.WithinWindowLimits id anchor policy) : db.WindowsBounded id anchor policy := by
  intro w hmem t ht
  have hw := valid_of_mem_recordBacked hfits hmem
  by_cases hc : ∃ c, w.Contains anchor t c
  · obtain ⟨c, hc⟩ := hc
    obtain ⟨window, hwindow, hiff⟩ := exists_isWindow hw ht hc
    exact (total_congr fun r _ => hiff r.createdAt).trans_le (h w hmem window hwindow)
  · rw [windowUsage, total_eq_zero fun r _ hr => hc ⟨_, hr⟩]
    exact hw.amount_pos.le

lemma Database.WindowsBounded.withinWindowLimits (hfits : policy.FiveHourFits)
    (hcreated : ∀ r ∈ db.liveRecords id, IsTimestamp r.createdAt)
    (h : db.WindowsBounded id anchor policy) : db.WithinWindowLimits id anchor policy := by
  intro w hmem window hwindow
  by_cases hr : ∃ r ∈ db.liveRecords id, r.createdAt ∈ window
  · obtain ⟨r, hr, hin⟩ := hr
    obtain ⟨t, ht, hiff⟩ := hwindow.exists_contains hin (hcreated r hr)
    exact (total_congr fun r _ => (hiff r.createdAt).symm).trans_le (h w hmem t ht)
  · rw [usage, total_eq_zero fun r hmem hin => hr ⟨r, hmem, hin⟩]
    exact (valid_of_mem_recordBacked hfits hmem).amount_pos.le

lemma contains_now {r c : ℤ} (hw : w.Valid) (hnow : IsTimestamp now)
    (ht : w.resetMode = .calendar → IsTimestamp t)
    (hanchor : w.unit = .custom → w.resetMode = .calendar → 0 < anchor ∧ anchor ≤ now)
    (hr : r ≤ now) (hc : now ≤ c) (hcr : w.Contains anchor t r) (hcc : w.Contains anchor t c) :
    w.Contains anchor now r := by
  cases hmode : w.resetMode
  · rw [contains_rolling hmode] at *
    omega
  · have hcn : w.Contains anchor t now := by
      rw [contains_calendar hmode] at *
      omega
    have hbounds := bounds_eq_of_contains hw hmode (ht hmode) hnow (fun hu => hanchor hu hmode) hcn
    rw [contains_calendar hmode] at hcr ⊢
    rwa [hbounds]

lemma anchor_le_of_recent {used resetAt : ℤ} (hid : 0 < id)
    (h : recentSubscriptionWindowUsageTx db id now w anchor = .ok (used, resetAt)) :
    w.unit = .custom → w.resetMode = .calendar → 0 < anchor ∧ anchor ≤ now := by
  intro hunit hmode
  rw [recentSubscriptionWindowUsageTx, if_neg (not_le.2 hid)] at h
  split_ifs at h with h₁ h₂
  exact by_contra fun hn => h₂ ⟨hunit, hmode, by omega⟩

/-- If the operation sees every record, the usage it compares with the limit covers
    that of any window a new record may fall into. -/
lemma windowUsage_le_of_recent {used resetAt : ℤ} (hid : 0 < id) (hw : w.Valid)
    (hamount : w.amount ≤ maxInt64) (hnow : IsTimestamp now) (hclock : now ≤ clock)
    (ht : w.resetMode = .calendar → IsTimestamp t) (hcontains : w.Contains anchor t clock)
    (hseen : ∀ r ∈ db.liveRecords id, r.createdAt ≤ now)
    (h : recentSubscriptionWindowUsageTx db id now w anchor = .ok (used, resetAt))
    (hused : used < w.amount) : windowUsage w anchor t (db.liveRecords id) ≤ used := by
  have hall : (db.liveRecords id).filter (·.createdAt ≤ now) = db.liveRecords id :=
    filter_eq_self.2 fun r hr => by simpa using hseen r hr
  have heq := recentSubscriptionWindowUsageTx_fst hid hw hnow h
  rw [hall] at heq
  have hmono : windowUsage w anchor t (db.liveRecords id) ≤
      windowUsage w anchor now (db.liveRecords id) :=
    total_mono (fun r _ => effective_nonneg r) fun r hr hcr =>
      contains_now hw hnow ht (anchor_le_of_recent hid h) (hseen r hr) hclock hcr hcontains
  omega

variable (hid : 0 < id) (hfits : policy.FiveHourFits) (hvalid : policy.invalid = false)
  (hint : ∀ w ∈ quotaRecordBackedWindows policy, w.amount ≤ maxInt64)

include hid hfits hint in
lemma windowsBounded_charge (sub : UserSubscription) {request : PreConsumeRequest}
    (hpolicy : sub.id = id → sub.startTime = anchor ∧ Admits db sub policy now request.amount)
    (hamount : 0 < request.amount) (hnow : IsTimestamp now) (hclock : now ≤ clock)
    (hseen : ∀ r ∈ db.liveRecords id, r.createdAt ≤ now)
    (hlimits : db.WindowsBounded id anchor policy) :
    (db.createRecord (request.record sub.id now clock)).WindowsBounded id anchor policy := by
  intro w hmem t ht
  have hw := valid_of_mem_recordBacked hfits hmem
  have hbefore := hlimits w hmem t ht
  change usage _ id (w.Contains anchor t) ≤ _
  rw [usage_createRecord, share]
  split_ifs with hcontains
  · obtain ⟨⟨rfl, -⟩, hcontains⟩ := hcontains
    obtain ⟨rfl, hadmits⟩ := hpolicy rfl
    obtain ⟨used, resetAt, hrecent, hroom⟩ := hadmits.windows w hmem
    have hroom := le_of_hasRoom hroom
    have husage := windowUsage_le_of_recent hid hw (hint w hmem) hnow hclock ht hcontains
      hseen hrecent
      (by omega)
    have heff : effectivePreConsumeAmount (request.record sub.id now clock) = request.amount :=
      effective_of_settled rfl hamount.le
    change windowUsage w _ t (db.liveRecords _) + _ ≤ _
    omega
  · rw [add_zero]
    exact hbefore

include hid hfits in
lemma windowsBounded_settle (sub : UserSubscription) {record : SubscriptionPreConsumeRecord}
    {target : ℤ} (hdb : db.WellFormed) (hrecord : record ∈ db.records)
    (hof : record.userSubscriptionId = sub.id) (htarget : 0 ≤ target)
    (hpolicy : sub.id = id → effectivePreConsumeAmount record < target →
      sub.startTime = anchor ∧ ∀ w ∈ quotaRecordBackedWindows policy,
        quotaWindowTargetAllowedTx db sub.id w sub.startTime record target now = .ok true)
    (hnow : IsTimestamp now)
    (hseen : ∀ r ∈ db.liveRecords id, IsTimestamp r.createdAt ∧ r.createdAt ≤ now)
    (hlimits : db.WindowsBounded id anchor policy) :
    (db.saveRecord (record.settle target now)).WindowsBounded id anchor policy := by
  intro w hmem t ht
  have hw := valid_of_mem_recordBacked hfits hmem
  have hbefore : db.usage id (w.Contains anchor t) ≤ w.amount := hlimits w hmem t ht
  change usage _ id (w.Contains anchor t) ≤ _
  rw [usage_eq_other_add hdb hrecord, share] at hbefore
  rw [usage_saveRecord hdb hrecord (record.settle target now) rfl, share_settle htarget]
  split_ifs at hbefore ⊢ with hcontains
  · obtain ⟨⟨rfl, hlive⟩, hcontains⟩ := hcontains
    by_cases hlt : effectivePreConsumeAmount record < target
    · obtain ⟨rfl, hadmits⟩ := hpolicy hof.symm hlt
      have hallowed := hadmits w hmem
      rw [← hof] at hallowed
      have hin : record ∈ db.liveRecords record.userSubscriptionId := by
        simp [liveRecords, hrecord, hlive]
      have hall : (db.otherLiveRecords record.userSubscriptionId record.requestId).filter
          (·.createdAt ≤ now) = db.otherLiveRecords record.userSubscriptionId record.requestId := by
        refine filter_eq_self.2 fun r hr => ?_
        simp only [otherLiveRecords, mem_filter, decide_eq_true_eq] at hr
        simpa using (hseen r (by simp [liveRecords, hr])).2
      have := windowUsage_le_of_allowed hid hw (hseen record hin).1 hnow hallowed ht hcontains
      rwa [hall] at this
    · omega
  · exact hbefore

lemma windowsBounded_of_share_le {record record' : SubscriptionPreConsumeRecord}
    (hdb : db.WellFormed) (hrecord : record ∈ db.records)
    (hkey : record.requestId = record'.requestId)
      (hshare : ∀ (w : SubscriptionQuotaWindowPolicy) (t : ℤ),
        record'.share id (w.Contains anchor t) ≤ record.share id (w.Contains anchor t))
    (hlimits : db.WindowsBounded id anchor policy) :
    (db.saveRecord record').WindowsBounded id anchor policy := by
  intro w hmem t ht
  have hbefore : db.usage id (w.Contains anchor t) ≤ w.amount := hlimits w hmem t ht
  change usage _ id (w.Contains anchor t) ≤ _
  have := hshare w t
  rw [usage_eq_other_add hdb hrecord] at hbefore
  rw [usage_saveRecord hdb hrecord record' hkey]
  omega

include hid hfits hvalid hint in
lemma Effect.windowInvariant (h : Effect loc now clock db db') (hnow : IsTimestamp now)
    (hclock : IsTimestamp clock) (hle : now ≤ clock)
    (hseen : ∀ r ∈ db.liveRecords id, r.createdAt ≤ now)
    (hinv : WindowInvariant id anchor policy clock db) :
    WindowInvariant id anchor policy clock db' := by
  obtain ⟨hdb, hpolicy, hcreated, hlimits⟩ := hinv
  refine ⟨h.wellFormed hdb, h.hasPolicy hvalid hpolicy, fun r hr => ?_, ?_⟩
  · rcases h.createdAt hr with ⟨r₀, hr₀, heq⟩ | heq
    · rw [← heq]
      exact hcreated r₀ hr₀
    · rw [heq]
      exact ⟨hclock, le_rfl⟩
  -- The row brought up to date keeps its id and its start.
  have hrow {sub : UserSubscription} (hsub : sub ∈ db.subscriptions)
    (plan : Option SubscriptionPlan)
      (hid : (sub.upToDate loc plan now).id = id) :
      sub.id = id ∧ (sub.upToDate loc plan now).startTime = anchor := by
    obtain ⟨_, _, _, heq, -⟩ := sub.upToDate_eq_withCounters loc plan now
    rw [heq] at hid ⊢
    exact ⟨hid, (hpolicy sub hsub hid).1⟩
  have hseen' : ∀ r ∈ db.liveRecords id, IsTimestamp r.createdAt ∧ r.createdAt ≤ now :=
    fun r hr => ⟨(hcreated r hr).1, hseen r hr⟩
  cases h with
  | update => exact hlimits
  | @charge sub plan request hsub hplan _ _ _ hamount hadmits =>
    have := windowsBounded_charge hid hfits hint (sub.upToDate loc (some plan) now)
      (fun heq => ?_) hamount hnow hle hseen hlimits
    · rwa [UserSubscription.upToDate_id] at this
    · obtain ⟨heq, hstart⟩ := hrow hsub _ heq
      rw [hpolicy.policy_eq hsub heq (by rw [planForSettlement, hplan])] at hadmits
      exact ⟨hstart, hadmits⟩
  | @record _ record hrecord _ h =>
    cases h with
    | @settle sub plan target hsub hplan hof _ htarget hadmits =>
      refine windowsBounded_settle hid hfits (sub.upToDate loc plan now) hdb hrecord
        (by simpa using hof) htarget (fun heq hlt => ?_) hnow hseen' hlimits
      obtain ⟨heq, hstart⟩ := hrow hsub _ heq
      rw [hpolicy.policy_eq hsub heq hplan] at hadmits
      exact ⟨hstart, (hadmits hlt).windows⟩
    | complete =>
      exact windowsBounded_of_share_le hdb hrecord rfl (fun w t => (share_complete now).le) hlimits
    | refund | orphan =>
      refine windowsBounded_of_share_le hdb hrecord rfl (fun w t => ?_) hlimits
      rw [share_refund]
      exact share_nonneg _ _

include hid hfits hvalid hint in
lemma Effects.windowInvariant (h : Effects loc now now db db') (hnow : IsTimestamp now)
    (hinv : WindowInvariant id anchor policy now db) :
      WindowInvariant id anchor policy now db' := by
  induction h with
  | refl => exact hinv
  | tail _ hlast ih =>
    exact hlast.windowInvariant hid hfits hvalid hint hnow hnow le_rfl (fun r hr =>
      (ih.created r hr).2) ih

end

/-! ## Operations one after the other -/

/-- The calls on the records. -/
inductive SubscriptionCall
  | preConsume (request : PreConsumeRequest)
  | settle (requestId : String) (actualAmount : ℤ)
  | adjust (requestId : String) (delta : ℤ)
  | refund (requestId : String)

/-- The tables an operation commits; all of it happens at one time. -/
def SubscriptionCall.run (loc : Location) (db : Database) (now : ℤ) : SubscriptionCall →
    Except Error Database
  | preConsume request => (preConsumeUserSubscription loc db request now now).map Prod.fst
  | settle requestId actualAmount => settleSubscriptionPreConsume loc db requestId actualAmount now
  | adjust requestId delta => adjustSubscriptionPreConsume loc db requestId delta now
  | refund requestId => refundSubscriptionPreConsume loc db requestId now

/-- An operation at a time that the clock can show; one that fails changes nothing. -/
def SubscriptionCall.Step (loc : Location) (now : ℤ) (db db' : Database) : Prop :=
  IsTimestamp now ∧ ∃ call : SubscriptionCall, db' = commit db (call.run loc db now)

lemma SubscriptionCall.effects {loc : Location} {now : ℤ} {db db' : Database}
    (call : SubscriptionCall) (hdb : db.WellFormed) (h : call.run loc db now = .ok db') :
      Effects loc now now db db' := by
  cases call with
  | preConsume request =>
    obtain ⟨⟨db', result⟩, hcharge, rfl⟩ := Except.map_eq_ok.1 h
    obtain ⟨db₁, hupdates, hlast⟩ := effects_of_preConsume hdb hcharge
    exact (Updates.effects hupdates).trans hlast.to_reflTransGen
  | settle requestId actualAmount => exact (touches_of_settle hdb h).effects
  | adjust requestId delta => exact (touches_of_adjust hdb h).effects
  | refund requestId => exact (touches_of_refund hdb h).effects

section

variable {loc : Location} {id anchor start stop : ℤ} {db db' : Database}
    {policy : SubscriptionQuotaPolicy}

lemma Database.HasPolicy.fiveHourFits {sub : UserSubscription} (h : db.HasPolicy id anchor policy)
    (hsub : sub ∈ db.subscriptions) (hid : sub.id = id) (hvalid : policy.invalid = false) :
      policy.FiveHourFits := by
  obtain ⟨-, plan, -, rfl⟩ := h sub hsub hid
  exact fiveHourFits_quotaPolicyForSubscription hvalid

/-- Operations that run one after the other keep every window of the policy within its limit. -/
theorem withinWindowLimits_of_run {sub : UserSubscription} (hdb : db.WellFormed)
    (hsub : sub ∈ db.subscriptions) (hid : 0 < sub.id) (hpolicy : db.HasPolicy sub.id anchor policy)
    (hvalid : policy.invalid = false)
    (hint : ∀ w ∈ quotaRecordBackedWindows policy, w.amount ≤ maxInt64)
    (hcreated : ∀ r ∈ db.liveRecords sub.id, IsTimestamp r.createdAt ∧ r.createdAt ≤ start)
    (hlimits : db.WithinWindowLimits sub.id anchor policy)
    (hrun : Timed.Run (SubscriptionCall.Step loc) start db stop db') :
    db'.WithinWindowLimits sub.id anchor policy := by
  have hfits := hpolicy.fiveHourFits hsub rfl hvalid
  have hinv := hrun.invariant (WindowInvariant sub.id anchor policy) (fun hinv hle hstep => ?_)
    ⟨hdb, hpolicy, hcreated, hlimits.windowsBounded hfits⟩
  · exact hinv.limits.withinWindowLimits hfits fun r hr => (hinv.created r hr).1
  · obtain ⟨htime, call, rfl⟩ := hstep
    have hinv' := WindowInvariant.mk hinv.wellFormed hinv.hasPolicy
      (fun r hr => ⟨(hinv.created r hr).1, (hinv.created r hr).2.trans hle⟩) hinv.limits
    exact commit_invariant hinv' fun db' h =>
      (call.effects hinv.wellFormed h).windowInvariant hid hfits hvalid hint htime hinv'

end

/-! ### A subscription by the hour and by the day -/

namespace Hourly

/-- Ten in any hour, and fifteen on a day. -/
def windows : List SubscriptionQuotaWindow :=
  [{ type := "hour", amount := 10 }, { type := "day", amount := 15, resetMode := "calendar" }]

def plan : SubscriptionPlan where
  id := 1
  quotaWindowMode := "generic"
  quotaWindows := windows

def subscription : UserSubscription where
  id := 1
  userId := 1
  planId := 1
  startTime := 50
  endTime := 1000000
  quotaWindowMode := "generic"
  quotaWindowsSnapshot := windows
  planPolicySnapshotVersion := 1

def database : Database where
  users := [{ id := 1 }]
  plans := [plan]
  subscriptions := [subscription]
  records := []

def policy : SubscriptionQuotaPolicy :=
  quotaPolicyForSubscription subscription (some plan.normalizeQuotaWindows)

def request (requestId : String) (amount : ℤ) : PreConsumeRequest where
  requestId := requestId
  userId := 1
  amount := amount

lemma database_wellFormed : database.WellFormed :=
  ⟨by decide +kernel, by decide +kernel⟩

lemma database_hasPolicy : database.HasPolicy 1 50 policy := by
  intro sub hsub _
  obtain rfl := mem_singleton.1 hsub
  exact ⟨rfl, _, rfl, by decide +kernel⟩

lemma policy_valid : policy.invalid = false := by decide +kernel

lemma policy_fits : ∀ w ∈ quotaRecordBackedWindows policy, w.amount ≤ maxInt64 := by decide +kernel

lemma database_withinWindowLimits : database.WithinWindowLimits 1 50 policy :=
  -- there are no records yet
  fun _ hw _ _ => (valid_of_mem_recordBacked
    (database_hasPolicy.fiveHourFits mem_cons_self rfl policy_valid) hw).amount_pos.le

/-- The tables after a call. -/
def after (call : SubscriptionCall) (db : Database) (now : ℤ) : Database :=
  commit db (call.run (Location.fixed 0) db now)

/-- The first of two records is settled late, when its hour is over; one above the limit of its hour
    is refused. -/
def settled : Database :=
  let charged :=
    after (.preConsume (request "b" 4)) (after (.preConsume (request "a" 4)) database 100) 2000
  after (.settle "a" 6) (after (.settle "a" 7) charged 5000) 6000

end Hourly

/-- Two requests within an hour, under a rolling and a calendar window. -/
theorem hourly_withinWindowLimits :
    (quotaRecordBackedWindows Hourly.policy).map (·.resetMode) = [.rolling, .calendar] ∧
      (Hourly.settled.liveRecords 1).map (fun r => (r.createdAt, effectivePreConsumeAmount r)) =
        [(100, 6), (2000, 4)] ∧
      Hourly.settled.WithinWindowLimits 1 50 Hourly.policy := by
  refine ⟨by decide +kernel, by decide +kernel, ?_⟩
  exact withinWindowLimits_of_run (show Hourly.database.WellFormed from Hourly.database_wellFormed)
    (show Hourly.subscription ∈ _ from mem_cons_self) (by decide) Hourly.database_hasPolicy
    Hourly.policy_valid Hourly.policy_fits (fun _ h => absurd h not_mem_nil)
    Hourly.database_withinWindowLimits
    (((((.refl : Timed.Run _ 99 _ 99 _).tail (show (99 : ℤ) ≤ 100 by decide)
      ⟨by decide, _, rfl⟩).tail
      (show (100 : ℤ) ≤ 2000 by decide) ⟨by decide, _, rfl⟩).tail
      (show (2000 : ℤ) ≤ 5000 by decide) ⟨by decide, _, rfl⟩).tail
      (show (5000 : ℤ) ≤ 6000 by decide) ⟨by decide, _, rfl⟩)

end Allrouter
