import Allrouter.Library.Transaction
import Allrouter.Subscription.PreConsume

/-!
# What an operation can do

Every operation on the tables is a sequence of *effects*: a subscription is
brought up to date, charged for a new request, or a record of it is settled or
refunded (`Effect`). An effect carries what the operation checked before it, so
that the invariants of the tables are proved of the few effects, and hold of all
operations.

* `effects_of_preConsume`: a charge in advance, as effects; all but the last of them only bring
  subscriptions up to date (`Update`);
* `touches_of_settle`, `touches_of_adjust`, `touches_of_refund`: those on one record;
* `Effect.wellFormed`: the tables keep their keys.
-/

namespace Allrouter

open Civil Text UserSubscription Except Database Table

/-- The tables have unique keys: the id of a subscription and the request id. -/
structure Database.WellFormed (db : Database) : Prop where
  subscriptions : Table.Keyed (·.id) db.subscriptions
  records : Table.Keyed (·.requestId) db.records

/-- The row brought up to date under its policy, if the plan still exists. -/
def UserSubscription.upToDate (sub : UserSubscription) (loc : Location)
    (plan : Option SubscriptionPlan) (now : ℤ) : UserSubscription :=
  match plan with
  | none => sub
  | some plan =>
    (resetSubscription loc sub (quotaPolicyForSubscription sub (some plan)) now).getD sub

/-- The counter of the subscription has this record. -/
def countsRecord (sub : UserSubscription) (policy : SubscriptionQuotaPolicy)
    (record : SubscriptionPreConsumeRecord) (now : ℤ) : Bool :=
  policyTracksAggregate policy && aggregateRecordInCurrentPeriod sub policy record.createdAt now

/-- The row with the counter changed by `delta`, if it is one that counts. -/
def UserSubscription.count (sub : UserSubscription) (counts : Bool) (delta : ℤ) :
    UserSubscription :=
  if counts then { sub with amountUsed := max 0 (sub.amountUsed + delta) } else sub

/-- The policy has room for the amount: under the aggregate limit, and in every
    window counted on the records. -/
structure Admits (db : Database) (sub : UserSubscription) (policy : SubscriptionQuotaPolicy)
    (now amount : ℤ) : Prop where
  aggregate : policyTracksAggregate policy → 0 < policyWeeklyLimit policy sub →
    sub.amountUsed + amount ≤ policyWeeklyLimit policy sub
  windows : ∀ w ∈ quotaRecordBackedWindows policy, ∃ used resetAt,
    recentSubscriptionWindowUsageTx db sub.id now w sub.startTime = .ok (used, resetAt) ∧
      hasRoom w.amount used amount

/-- The policy has room for the record to amount to `target`: in the period it is
    counted in, and in every window it belongs to. -/
structure AdmitsTarget (loc : Location) (db : Database) (sub : UserSubscription)
    (policy : SubscriptionQuotaPolicy) (record : SubscriptionPreConsumeRecord) (target now : ℤ) :
      Prop where
  aggregate : countsRecord sub policy record now → 0 < policyWeeklyLimit policy sub →
    sub.amountUsed + (target - effectivePreConsumeAmount record) ≤ policyWeeklyLimit policy sub
  historical : policyTracksAggregate policy → countsRecord sub policy record now = false →
    aggregateQuotaHistoricalTargetAllowedTx loc db sub policy record target now = .ok true
  windows : ∀ w ∈ quotaRecordBackedWindows policy,
    quotaWindowTargetAllowedTx db sub.id w sub.startTime record target now = .ok true

/-- One change of a record, by an operation that read the clock at `now`. -/
inductive RecordEffect (loc : Location) (now : ℤ) (db : Database)
    (record : SubscriptionPreConsumeRecord) :
    Database → Prop
  /-- The record is settled. -/
  | settle {sub : UserSubscription} {plan : Option SubscriptionPlan} {target : ℤ}
      (hsub : sub ∈ db.subscriptions) (hplan : planForSettlement db sub = .ok plan)
      (hof : record.userSubscriptionId = sub.id)
      (hvalid : (quotaPolicyForSubscription sub plan).invalid = false) (htarget : 0 ≤ target)
      (hadmits : effectivePreConsumeAmount record < target →
        AdmitsTarget loc db (sub.upToDate loc plan now) (quotaPolicyForSubscription sub plan) record
          target now) :
      RecordEffect loc now db record
        ((db.saveRecord (record.settle target now)).saveSubscription
          ((sub.upToDate loc plan now).count
            (countsRecord (sub.upToDate loc plan now)
              (quotaPolicyForSubscription sub plan) record now)
            (target - effectivePreConsumeAmount record)))
  /-- The record is completed at its amount. -/
  | complete :
      RecordEffect loc now db record
        (db.saveRecord (record.settle (effectivePreConsumeAmount record) now))
  /-- The record is refunded. -/
  | refund {sub : UserSubscription} {plan : Option SubscriptionPlan}
      (hsub : sub ∈ db.subscriptions) (hplan : planForSettlement db sub = .ok plan)
      (hof : record.userSubscriptionId = sub.id)
      (hvalid : plan ≠ none → (quotaPolicyForSubscription sub plan).invalid = false) :
      RecordEffect loc now db record
        ((db.saveRecord (record.refund now)).saveSubscription
          ((sub.upToDate loc plan now).count
            (countsRecord (sub.upToDate loc plan now)
              (quotaPolicyForSubscription sub plan) record now)
            (-effectivePreConsumeAmount record)))
  /-- The record of a deleted subscription is marked. -/
  | orphan (hnone : ∀ s ∈ db.subscriptions, s.id ≠ record.userSubscriptionId) :
      RecordEffect loc now db record (db.saveRecord (record.refund now))

/-- One change of the tables, by an operation that read the clock at `now`, and at
    `clock` within its transaction. -/
inductive Effect (loc : Location) (now clock : ℤ) (db : Database) : Database → Prop
  /-- A subscription is brought up to date. -/
  | update {sub : UserSubscription} {plan : SubscriptionPlan} (hsub : sub ∈ db.subscriptions)
      (hplan : getSubscriptionPlanOrSnapshotTx db sub = .ok (some plan))
      (hvalid : (quotaPolicyForSubscription sub (some plan)).invalid = false) :
      Effect loc now clock db (db.saveSubscription (sub.upToDate loc (some plan) now))
  /-- A subscription is charged for a new request. -/
  | charge {sub : UserSubscription} {plan : SubscriptionPlan} {request : PreConsumeRequest}
      (hsub : sub ∈ db.subscriptions)
      (hplan : getSubscriptionPlanOrSnapshotTx db sub = .ok (some plan))
      (hvalid : (quotaPolicyForSubscription sub (some plan)).invalid = false)
      (hactive : sub.startTime ≤ now ∧ now < sub.endTime)
      (hnew : ∀ r ∈ db.records, r.requestId ≠ request.requestId) (hamount : 0 < request.amount)
      (hadmits : Admits db (sub.upToDate loc (some plan) now)
        (quotaPolicyForSubscription sub (some plan)) now request.amount) :
      Effect loc now clock db
        ((db.createRecord (request.record sub.id now clock)).saveSubscription
          ((sub.upToDate loc (some plan) now).count
            (policyTracksAggregate (quotaPolicyForSubscription sub (some plan))) request.amount))
  /-- A record that is not refunded is changed. -/
  | record {db' : Database} {record : SubscriptionPreConsumeRecord} (hrecord : record ∈ db.records)
      (hlive : record.status ≠ .refunded) (h : RecordEffect loc now db record db') :
      Effect loc now clock db db'

abbrev Effects (loc : Location) (now clock : ℤ) : Database → Database → Prop :=
  Relation.ReflTransGen (Effect loc now clock)

/-- A subscription is brought up to date, and nothing else changes. -/
inductive Update (loc : Location) (now : ℤ) (db : Database) : Database → Prop
  | mk {sub : UserSubscription} {plan : SubscriptionPlan} (hsub : sub ∈ db.subscriptions)
      (hplan : getSubscriptionPlanOrSnapshotTx db sub = .ok (some plan))
      (hvalid : (quotaPolicyForSubscription sub (some plan)).invalid = false) :
      Update loc now db (db.saveSubscription (sub.upToDate loc (some plan) now))

abbrev Updates (loc : Location) (now : ℤ) : Database → Database → Prop :=
  Relation.ReflTransGen (Update loc now)

variable {loc : Location} {now clock : ℤ} {db db' : Database}

/-! ## Counters -/

variable {amount delta target : ℤ} {attempt : Attempt} {plan : Option SubscriptionPlan}
  {policy : SubscriptionQuotaPolicy} {record : SubscriptionPreConsumeRecord}
  {request : PreConsumeRequest} {requestId : String} {result : SubscriptionPreConsumeResult}
  {sub sub' sub₁ : UserSubscription}

lemma resetSubscription_eq_some (h : resetSubscription loc sub policy now = some sub') :
    ∃ used last next, sub' = sub.withCounters used last next ∧
      (used = 0 ∨ used = sub.amountUsed) := by
  rw [resetSubscription] at h
  dsimp only at h
  split_ifs at h <;> obtain rfl := Option.some.inj h
  · exact ⟨_, _, _, rfl, .inr rfl⟩
  · exact ⟨_, _, _, rfl, .inl rfl⟩
  · exact ⟨_, _, _, rfl, .inr rfl⟩

lemma UserSubscription.upToDate_eq_withCounters (sub : UserSubscription) (loc : Location)
    (plan : Option SubscriptionPlan) (now : ℤ) :
    ∃ used last next, sub.upToDate loc plan now = sub.withCounters used last next ∧
      (used = 0 ∨ used = sub.amountUsed) := by
  cases plan with
  | none => exact ⟨_, _, _, rfl, .inr rfl⟩
  | some plan =>
    simp only [upToDate]
    cases h : resetSubscription loc sub (quotaPolicyForSubscription sub (some plan)) now with
    | none => exact ⟨_, _, _, rfl, .inr rfl⟩
    | some sub' => exact resetSubscription_eq_some h

@[simp]
lemma UserSubscription.upToDate_id (sub : UserSubscription) (plan : Option SubscriptionPlan) :
    (sub.upToDate loc plan now).id = sub.id := by
  obtain ⟨_, _, _, h, -⟩ := sub.upToDate_eq_withCounters loc plan now
  rw [h, withCounters]

lemma UserSubscription.count_eq_withCounters (sub : UserSubscription) (counts : Bool) (delta : ℤ) :
    ∃ used, sub.count counts delta = sub.withCounters used sub.lastResetTime sub.nextResetTime ∧
      (0 ≤ used ∨ used = sub.amountUsed) := by
  rw [count]
  split_ifs
  · exact ⟨_, rfl, .inl (le_max_left _ _)⟩
  · exact ⟨_, rfl, .inr rfl⟩

@[simp]
lemma UserSubscription.count_id (sub : UserSubscription) (counts : Bool) (delta : ℤ) :
    (sub.count counts delta).id = sub.id := by
  obtain ⟨_, h, -⟩ := sub.count_eq_withCounters counts delta
  rw [h, withCounters]

lemma policy_upToDate
    (h : plan ≠ none → (quotaPolicyForSubscription sub plan).invalid = false)
    (loc : Location) (now : ℤ) :
    quotaPolicyForSubscription (sub.upToDate loc plan now) plan =
      quotaPolicyForSubscription sub plan := by
  cases plan with
  | none => rfl
  | some plan =>
    have hnonneg := amountUsed_nonneg_of_valid (h (by simp))
    obtain ⟨used, last, next, heq, hused⟩ := sub.upToDate_eq_withCounters loc (some plan) now
    rw [heq, policy_withCounters hnonneg (by omega)]

lemma Database.WellFormed.saveSubscription_of_mem (hdb : db.WellFormed)
    (hsub : sub ∈ db.subscriptions) : db.saveSubscription sub = db := by
  rw [saveSubscription, put_of_mem hdb.subscriptions hsub]

lemma Database.saveSubscription_saveSubscription (h : sub.id = sub'.id) :
    (db.saveSubscription sub).saveSubscription sub' = db.saveSubscription sub' := by
  simp only [saveSubscription, put_put h]

lemma maybeReset_eq_ok (hdb : db.WellFormed)
    {plan : SubscriptionPlan} (hsub : sub ∈ db.subscriptions)
    (h : maybeResetUserSubscriptionWithPlanTx loc db sub plan now = .ok (db', sub₁)) :
    (quotaPolicyForSubscription sub (some plan)).invalid = false ∧
      sub₁ = sub.upToDate loc (some plan) now ∧
        db' = db.saveSubscription (sub.upToDate loc (some plan) now) := by
  simp only [maybeResetUserSubscriptionWithPlanTx] at h
  split_ifs at h with hinvalid
  refine ⟨by simpa using hinvalid, ?_⟩
  simp only [upToDate]
  cases hreset : resetSubscription loc sub (quotaPolicyForSubscription sub (some plan)) now with
  | none =>
    rw [hreset] at h
    obtain ⟨rfl, rfl⟩ : db = db' ∧ sub = sub₁ := by simpa using h
    exact ⟨rfl, (hdb.saveSubscription_of_mem hsub).symm⟩
  | some sub' =>
    rw [hreset] at h
    obtain ⟨rfl, rfl⟩ : db.saveSubscription sub' = db' ∧ sub' = sub₁ := by simpa using h
    exact ⟨rfl, rfl⟩

lemma maybeResetForSettlement_eq_ok (hdb : db.WellFormed) (hsub : sub ∈ db.subscriptions)
    (h : maybeResetForSettlement loc db sub plan now = .ok (db', sub₁)) :
    (plan ≠ none → (quotaPolicyForSubscription sub plan).invalid = false) ∧
      sub₁ = sub.upToDate loc plan now ∧ db' = db.saveSubscription (sub.upToDate loc plan now) := by
  cases plan with
  | none =>
    obtain ⟨rfl, rfl⟩ : db = db' ∧ sub = sub₁ := by simpa [maybeResetForSettlement] using h
    exact ⟨fun h => absurd rfl h, rfl, (hdb.saveSubscription_of_mem hsub).symm⟩
  | some plan =>
    obtain ⟨hvalid, hrow, hsave⟩ := maybeReset_eq_ok hdb hsub h
    exact ⟨fun _ => hvalid, hrow, hsave⟩

/-! ## Keys -/

lemma Database.WellFormed.saveSubscription (hdb : db.WellFormed) (sub : UserSubscription) :
    (db.saveSubscription sub).WellFormed :=
  ⟨hdb.subscriptions.put sub, hdb.records⟩

lemma Database.WellFormed.saveRecord (hdb : db.WellFormed) (record : SubscriptionPreConsumeRecord) :
    (db.saveRecord record).WellFormed :=
  ⟨hdb.subscriptions, hdb.records.put record⟩

lemma Database.WellFormed.createRecord (hdb : db.WellFormed)
    (h : ∀ r ∈ db.records, r.requestId ≠ record.requestId) : (db.createRecord record).WellFormed :=
  ⟨hdb.subscriptions, hdb.records.append_singleton h⟩

lemma RecordEffect.wellFormed (h : RecordEffect loc now db record db') (hdb : db.WellFormed) :
    db'.WellFormed := by
  cases h with
  | settle => exact (hdb.saveRecord _).saveSubscription _
  | complete => exact hdb.saveRecord _
  | refund => exact (hdb.saveRecord _).saveSubscription _
  | orphan => exact hdb.saveRecord _

lemma Effect.wellFormed (h : Effect loc now clock db db') (hdb : db.WellFormed) :
    db'.WellFormed := by
  cases h with
  | update => exact hdb.saveSubscription _
  | charge _ _ _ _ hnew => exact (hdb.createRecord hnew).saveSubscription _
  | record _ _ h => exact h.wellFormed hdb

lemma Effects.wellFormed (h : Effects loc now clock db db') (hdb : db.WellFormed) :
    db'.WellFormed := by
  induction h with
  | refl => exact hdb
  | tail _ hlast ih => exact hlast.wellFormed ih

lemma Update.effect (h : Update loc now db db') : Effect loc now clock db db' ∧
    db'.records = db.records := by
  obtain ⟨hsub, hplan, hvalid⟩ := h
  exact ⟨.update hsub hplan hvalid, rfl⟩

lemma Updates.effects (h : Updates loc now db db') : Effects loc now clock db db' := by
  induction h with
  | refl => exact .refl
  | tail _ hlast ih => exact ih.tail hlast.effect.1

/-! ## Charging in advance -/

lemma windowsAllow_eq_true {allows : SubscriptionQuotaWindowPolicy → Except Error Bool}
    {windows : List CanonicalWindow} (h : windowsAllow allows windows = .ok true) :
    ∀ w ∈ windows, allows w.1 = .ok true := by
  induction windows with
  | nil => simp
  | cons window windows ih =>
    rw [windowsAllow, if_neg (not_le.2 window.2.amount_pos)] at h
    split at h
    · cases h
    · cases h
    · rename_i hwindow
      exact List.forall_mem_cons.2 ⟨hwindow, ih h⟩

/-- The two checks of the windows are one check of those counted on the records. -/
lemma room_of_available (hgeneric : genericQuotaAvailableTx db sub policy now amount = .ok true)
    (hfive : fiveHourQuotaAvailableTx db sub policy now amount = .ok true) :
    ∀ w ∈ quotaRecordBackedWindows policy, ∃ used resetAt,
      recentSubscriptionWindowUsageTx db sub.id now w sub.startTime = .ok (used, resetAt) ∧
        hasRoom w.amount used amount := by
  intro w hw
  rw [quotaRecordBackedWindows] at hw
  split_ifs at hw with h₁ h₂
  · obtain ⟨w, hmem, rfl⟩ := List.mem_map.1 hw
    rw [genericQuotaAvailableTx, h₁] at hgeneric
    split_ifs at hgeneric
    · contradiction
    · obtain ⟨⟨used, resetAt⟩, hused, hroom⟩ :=
        map_eq_ok.1 (windowsAllow_eq_true hgeneric w hmem)
      exact ⟨used, resetAt, hused, hroom⟩
  · obtain rfl := List.mem_singleton.1 hw
    rw [fiveHourQuotaAvailableTx, h₂] at hfive
    obtain ⟨⟨used, resetAt⟩, hused, hroom⟩ := map_eq_ok.1 hfive
    -- A rolling window reads neither its limit nor the anchor.
    exact ⟨used, resetAt, hused, hroom⟩
  · cases hw

lemma le_of_hasRoom {limit used : ℤ} (h : hasRoom limit used amount) : used + amount ≤ limit := by
  simp only [hasRoom, Bool.not_eq_true', Bool.or_eq_false_iff, decide_eq_false_iff_not] at h
  omega

lemma chargeSubscription_eq_ok (hnone : db.findRecord request.requestId = none)
    (hamount : 0 < request.amount) (hused : 0 ≤ sub.amountUsed)
    (h : chargeSubscription db sub policy request now clock = .ok (db', result)) :
    db' = if policyTracksAggregate policy then
        (db.createRecord (request.record sub.id now clock)).saveSubscription
          (sub.count true request.amount)
      else db.createRecord (request.record sub.id now clock) := by
  simp only [chargeSubscription, hnone] at h
  obtain ⟨⟨db₁, charged⟩, hcharge, h⟩ := bind_eq_ok.1 h
  obtain ⟨result', -, h⟩ := bind_eq_ok.1 h
  obtain ⟨rfl, -⟩ : db₁ = db' ∧ result' = result := by simpa [pure, Except.pure] using h
  rw [chargeCounter] at hcharge
  split_ifs at hcharge ⊢
  · split at hcharge
    · cases hcharge
    · rename_i nextUsed hsum
      obtain ⟨rfl, -⟩ : _ = db₁ ∧ _ = charged := by simpa using hcharge
      rw [count, if_pos rfl, ← eq_add_of_safeAdd hsum,
        max_eq_right (by rw [eq_add_of_safeAdd hsum]; omega)]
  · obtain ⟨rfl, -⟩ : _ = db₁ ∧ _ = charged := by simpa using hcharge
    rfl

/-- A record that was made in the meantime is kept as it is. -/
lemma chargeSubscription_of_found (hfound : db.findRecord request.requestId ≠ none)
    (h : chargeSubscription db sub policy request now clock = .ok (db', result)) : db' = db := by
  obtain ⟨duplicate, hduplicate⟩ := Option.ne_none_iff_exists'.1 hfound
  rw [chargeSubscription, hduplicate] at h
  obtain ⟨_, -, h⟩ := map_eq_ok.1 h
  exact (Prod.mk.inj h).1.symm

/-- An admission either skips the subscription, and changes nothing, or charges it
    under the limits. -/
lemma admitToSubscription_eq_ok (hamount : 0 < request.amount) (hused : 0 ≤ sub.amountUsed)
    (h : admitToSubscription db sub policy request now clock = .ok attempt) :
    attempt = .skipped db ∨ (Admits db sub policy now request.amount ∧ ∃ db' result,
      attempt = .charged db' result ∧
        chargeSubscription db sub policy request now clock = .ok (db', result)) := by
  simp only [admitToSubscription] at h
  rw [if_neg (by omega)] at h
  by_cases hlimited : (policyTracksAggregate policy = true ∧ policyWeeklyLimit policy sub > 0) ∧
      sub.amountUsed > policyWeeklyLimit policy sub
  · -- The counter is at the limit, where there is no room.
    left
    simp only [if_pos hlimited] at h
    rw [if_pos ⟨hlimited.1, by simp [hasRoom]; omega⟩] at h
    exact (ok.inj h).symm
  · simp only [if_neg hlimited] at h
    split_ifs at h with hroom
    · exact .inl (ok.inj h).symm
    · obtain ⟨available, hgeneric, h⟩ := bind_eq_ok.1 h
      cases available with
      | false => exact .inl (ok.inj h).symm
      | true =>
        obtain ⟨available, hfive, h⟩ := bind_eq_ok.1 h
        cases available with
        | false => exact .inl (ok.inj h).symm
        | true =>
          obtain ⟨⟨db', result⟩, hcharge, h⟩ := bind_eq_ok.1 h
          refine .inr ⟨⟨fun htracks hlimit => ?_, room_of_available hgeneric hfive⟩, db', result,
            (ok.inj h).symm, hcharge⟩
          have : hasRoom (policyWeeklyLimit policy sub) sub.amountUsed request.amount = true := by
            by_contra hno
            exact hroom ⟨⟨htracks, hlimit⟩, by simpa using hno⟩
          exact le_of_hasRoom this

/-- What an attempt does that does not skip the subscription: it charges it, unless the request has
    been charged in the meantime. -/
def Charges (loc : Location) (request : PreConsumeRequest) (now clock : ℤ) (db db' : Database) :
    Prop :=
  if db.findRecord request.requestId = none then Effect loc now clock db db'
    else Updates loc now db db'

lemma Charges.effect (h : Charges loc request now clock db db')
    (hnone : db.findRecord request.requestId = none) : Effect loc now clock db db' := by
  rwa [Charges, if_pos hnone] at h

lemma Charges.updates (h : Charges loc request now clock db db')
    (hfound : db.findRecord request.requestId ≠ none) : Updates loc now db db' := by
  rwa [Charges, if_neg hfound] at h

/-- An attempt that skips the subscription may have brought it up to date. -/
lemma attemptSubscription_eq_ok (hamount : 0 < request.amount) (hdb : db.WellFormed)
    (hsub : sub ∈ db.subscriptions) (hactive : sub.startTime ≤ now ∧ now < sub.endTime)
    (h : attemptSubscription loc db sub request now clock = .ok attempt) :
    (∃ sub', sub'.id = sub.id ∧ attempt = .skipped (db.saveSubscription sub') ∧
      Updates loc now db (db.saveSubscription sub')) ∨
    ∃ db' result, attempt = .charged db' result ∧ Charges loc request now clock db db' := by
  have hself := hdb.saveSubscription_of_mem hsub
  have hskip (h : (.ok (.skipped db) : Except Error Attempt) = .ok attempt) :
      ∃ sub', sub'.id = sub.id ∧ attempt = .skipped (db.saveSubscription sub') ∧
        Updates loc now db (db.saveSubscription sub') :=
    ⟨sub, rfl, by rw [hself]; exact (ok.inj h).symm, by rw [hself]⟩
  rw [attemptSubscription] at h
  split at h
  · exact .inl (hskip h)
  · exact .inl (hskip h)
  · cases h
  · rename_i plan hplan
    split_ifs at h with hcovers
    · exact .inl (hskip h)
    obtain ⟨⟨db₁, sub₁⟩, hreset, h⟩ := bind_eq_ok.1 h
    obtain ⟨hvalid, rfl, rfl⟩ := maybeReset_eq_ok hdb hsub hreset
    have hpolicy := policy_upToDate (fun _ => hvalid) loc now
    have hused₁ := amountUsed_nonneg_of_valid (hpolicy ▸ hvalid)
    dsimp only at h
    rw [hpolicy, if_neg (by simp [hvalid])] at h
    have hupdate : Updates loc now db (db.saveSubscription (sub.upToDate loc (some plan) now)) :=
      .single (.mk hsub hplan hvalid)
    rcases admitToSubscription_eq_ok hamount hused₁ h with rfl | ⟨hadmits, db', result,
      rfl, hcharged⟩
    · exact .inl ⟨_, by simp, rfl, hupdate⟩
    refine .inr ⟨db', result, rfl, ?_⟩
    -- The records of the two databases are the same.
    have hfind : (db.saveSubscription (sub.upToDate loc (some plan) now)).findRecord
      request.requestId =
        db.findRecord request.requestId := rfl
    rw [Charges]
    split_ifs with hnone
    · obtain rfl := chargeSubscription_eq_ok (hfind.trans hnone) hamount hused₁ hcharged
      have hcharge : Effect loc now clock db _ :=
        .charge hsub hplan hvalid hactive (get?_eq_none.1 hnone) hamount
        -- The usage is read off the records, which are the same.
        ⟨hadmits.aggregate, hadmits.windows⟩
      cases htracks : policyTracksAggregate (quotaPolicyForSubscription sub (some plan)) with
      | true =>
        rw [htracks, ← saveSubscription_saveSubscription
          (show (sub.upToDate loc (some plan) now).id = _ by simp)] at hcharge
        simpa [createRecord, saveSubscription] using hcharge
      | false =>
        rw [htracks] at hcharge
        simpa [createRecord, saveSubscription, count] using hcharge
    · rw [chargeSubscription_of_found (hfind ▸ hnone) hcharged]
      exact hupdate

lemma effects_of_attemptSubscriptions {subs : List UserSubscription} (hamount : 0 < request.amount)
    (hdb : db.WellFormed)
    (hsubs : ∀ s ∈ subs, s ∈ db.subscriptions ∧ s.startTime ≤ now ∧ now < s.endTime)
    (hnodup : subs.Pairwise fun s s' => s.id ≠ s'.id)
    (h : attemptSubscriptions loc request now clock db subs = .ok (db', result)) :
    ∃ db₁, Updates loc now db db₁ ∧ db₁.findRecord request.requestId =
      db.findRecord request.requestId ∧
      Charges loc request now clock db₁ db' := by
  induction subs generalizing db with
  | nil => cases h
  | cons sub subs ih =>
    obtain ⟨attempt, hattempt, h⟩ := bind_eq_ok.1 h
    obtain ⟨⟨hsub, hactive⟩, hsubs⟩ := List.forall_mem_cons.1 hsubs
    obtain ⟨hne, hnodup⟩ := List.pairwise_cons.1 hnodup
    rcases attemptSubscription_eq_ok hamount hdb hsub hactive hattempt with
      ⟨sub', hid, rfl, hupdates⟩ | ⟨db₁, result₁, rfl, hcharges⟩
    · -- The rows to come are not the one that was brought up to date.
      have hsubs' : ∀ s ∈ subs, s ∈ (db.saveSubscription sub').subscriptions ∧ s.startTime ≤ now ∧
          now < s.endTime := by
        refine fun s hs => ⟨mem_put_of_ne (hsubs s hs).1 ?_, (hsubs s hs).2⟩
        rw [hid]
        exact (hne s hs).symm
      obtain ⟨db₁, hupdates₁, hfind, hlast⟩ := ih (hdb.saveSubscription sub') hsubs' hnodup h
      exact ⟨db₁, hupdates.trans hupdates₁, hfind, hlast⟩
    · obtain ⟨rfl, -⟩ : db₁ = db' ∧ result₁ = result := by simpa using h
      exact ⟨db, .refl, rfl, hcharges⟩

lemma mem_activeSubscriptions {userId : ℤ} (h : sub ∈ db.activeSubscriptions userId now) :
    sub ∈ db.subscriptions ∧ sub.startTime ≤ now ∧ now < sub.endTime := by
  simp only [activeSubscriptions, List.mem_insertionSort, List.mem_filter, decide_eq_true_eq] at h
  obtain ⟨hmem, -, -, -, hstart, hend⟩ := h
  exact ⟨hmem, hstart, hend⟩

lemma Database.WellFormed.activeSubscriptions_pairwise (hdb : db.WellFormed) (userId : ℤ) :
    (db.activeSubscriptions userId now).Pairwise fun s s' => s.id ≠ s'.id := by
  have hnodup := List.pairwise_map.1 hdb.subscriptions
  exact ((List.perm_insertionSort _ _).pairwise_iff Ne.symm).2 (hnodup.filter _)

/-- A charge in advance, as effects: only the last of them touches the records. -/
lemma effects_of_preConsume (hdb : db.WellFormed)
    (h : preConsumeUserSubscription loc db request now clock = .ok (db', result)) :
    ∃ db₁, Updates loc now db db₁ ∧ Relation.ReflGen (Effect loc now clock) db₁ db' := by
  simp only [preConsumeUserSubscription] at h
  split_ifs at h with h₁ h₂ h₃
  split at h
  · obtain ⟨result', -, h⟩ := map_eq_ok.1 h
    obtain ⟨rfl, -⟩ := Prod.mk.inj h
    exact ⟨db, .refl, .refl⟩
  · rename_i hnone
    split at h
    · cases h
    · obtain ⟨db₁, hupdates, hfind, hcharges⟩ :=
        effects_of_attemptSubscriptions (by exact not_le.1 h₃) hdb
        (fun s => mem_activeSubscriptions) (hdb.activeSubscriptions_pairwise _) h
      exact ⟨db₁, hupdates, .single (hcharges.effect (hfind.trans hnone))⟩

/-! ## Settling -/

lemma require_eq_ok {allowed : Except Error Bool} {message : String}
    (h : require allowed message = .ok ()) : allowed = .ok true := by
  obtain ⟨a, ha, h⟩ := bind_eq_ok.1 h
  cases a with
  | false => cases h
  | true => exact ha

lemma admitsTarget_of_checkSettlement (hlt : effectivePreConsumeAmount record < target)
    (h : checkSettlement loc db sub policy record target
      (target - effectivePreConsumeAmount record) now
      (countsRecord sub policy record now) = .ok ()) : AdmitsTarget loc db sub policy record
        target now := by
  rw [checkSettlement, if_pos (by omega)] at h
  obtain ⟨⟨⟩, haggregate, h⟩ := bind_eq_ok.1 h
  obtain ⟨⟨⟩, hfive, hgeneric⟩ := bind_eq_ok.1 h
  refine ⟨fun hcounts hlimit => ?_, fun htracks hcounts => ?_, fun w hw => ?_⟩
  · have htracks := (Bool.and_eq_true_iff.1 hcounts).1
    rw [checkAggregate, if_pos htracks, if_pos hcounts] at haggregate
    have := require_eq_ok haggregate
    simp only [ok.injEq, Bool.or_eq_true, decide_eq_true_eq] at this
    exact le_of_hasRoom (this.resolve_left (not_le.2 hlimit))
  · rw [checkAggregate, if_pos htracks, if_neg (by simp [hcounts])] at haggregate
    exact require_eq_ok haggregate
  · rw [quotaRecordBackedWindows] at hw
    split_ifs at hw with h₁ h₂
    · obtain ⟨w, hmem, rfl⟩ := List.mem_map.1 hw
      have hgeneric := require_eq_ok hgeneric
      rw [genericQuotaTargetAllowedTx, h₁] at hgeneric
      split_ifs at hgeneric
      · contradiction
      · exact windowsAllow_eq_true hgeneric w hmem
    · obtain rfl := List.mem_singleton.1 hw
      rw [checkFiveHour, if_pos h₂] at hfive
      exact require_eq_ok hfive
    · cases hw

lemma writeSettlement_eq_ok {current : Bool}
    (h : writeSettlement db sub record target delta now current = .ok db') :
    db' = if current then
        (db.saveRecord (record.settle target now)).saveSubscription (sub.count true delta)
      else db.saveRecord (record.settle target now) := by
  cases current with
  | false => exact (ok.inj h).symm
  | true =>
    simp only [writeSettlement, if_true] at h ⊢
    split at h
    · cases h
    · rename_i nextUsed hsum
      rw [count, ← eq_add_of_safeAdd hsum]
      exact (ok.inj h).symm

/-- A settlement of an up-to-date row: the record is written, and the counter moved
    if it counts the record. -/
lemma settleOnSubscription_eq_ok
    (h : settleOnSubscription loc db sub policy record target now = .ok db') :
    policy.invalid = false ∧
      (effectivePreConsumeAmount record < target →
        AdmitsTarget loc db sub policy record target now) ∧
      db' = if countsRecord sub policy record now then
          (db.saveRecord (record.settle target now)).saveSubscription
            (sub.count true (target - effectivePreConsumeAmount record))
        else db.saveRecord (record.settle target now) := by
  simp only [settleOnSubscription] at h
  by_cases hinvalid : policy.invalid = true
  · rw [if_pos hinvalid] at h
    cases h
  by_cases hneg : policyTracksAggregate policy = true ∧ sub.amountUsed < 0
  · rw [if_neg hinvalid, if_pos hneg] at h
    cases h
  rw [if_neg hinvalid, if_neg hneg] at h
  obtain ⟨⟨⟩, hcheck, h⟩ := bind_eq_ok.1 h
  refine ⟨by simpa using hinvalid, fun hlt => ?_, ?_⟩
  · exact admitsTarget_of_checkSettlement hlt hcheck
  · exact writeSettlement_eq_ok h

lemma recordEffect_of_settleTx (hdb : db.WellFormed)
    (h : settleSubscriptionPreConsumeTx loc db record target now = .ok db') :
    db' = db ∨ RecordEffect loc now db record db' := by
  rw [settleSubscriptionPreConsumeTx] at h
  split_ifs at h with htarget heffective hcomplete
  · obtain rfl := ok.inj h
    subst heffective
    exact .inr .complete
  · exact .inl (ok.inj h).symm
  · split at h
    · cases h
    · rename_i sub hfind
      obtain ⟨hsub, hid⟩ := get?_eq_some hfind
      obtain ⟨plan, hplan, h⟩ := bind_eq_ok.1 h
      obtain ⟨⟨db₁, sub₁⟩, hreset, h⟩ := bind_eq_ok.1 h
      obtain ⟨hplanValid, rfl, rfl⟩ := maybeResetForSettlement_eq_ok hdb hsub hreset
      dsimp only at h
      rw [policy_upToDate hplanValid] at h
      obtain ⟨hvalid, hadmits, rfl⟩ := settleOnSubscription_eq_ok h
      have hsettle : RecordEffect loc now db record _ := .settle hsub hplan hid.symm hvalid
        (not_lt.1 htarget) fun hlt =>
          ⟨(hadmits hlt).aggregate, (hadmits hlt).historical, (hadmits hlt).windows⟩
      right
      generalize countsRecord _ _ record now = counts at hsettle ⊢
      cases counts with
      | true =>
        rw [← saveSubscription_saveSubscription
          (show (sub.upToDate loc plan now).id = _ by simp)] at hsettle
        simpa [saveRecord, saveSubscription] using hsettle
      | false =>
        simpa [saveRecord, saveSubscription, count] using hsettle

/-- The tables after an operation on the record of a request: it changes that record,
    which is not refunded, if anything. -/
def Touches (loc : Location) (now : ℤ) (requestId : String) (db db' : Database) : Prop :=
  db' = db ∨ ∃ record, db.findRecord requestId = some record ∧ record.status ≠ .refunded ∧
    RecordEffect loc now db record db'

lemma Touches.effects (h : Touches loc now requestId db db') : Effects loc now clock db db' := by
  rcases h with rfl | ⟨record, hfind, hlive, h⟩
  · exact .refl
  · exact .single (.record (get?_eq_some hfind).1 hlive h)

variable (hdb : db.WellFormed)
include hdb

lemma touches_of_settle {actualAmount : ℤ}
    (h : settleSubscriptionPreConsume loc db requestId actualAmount now = .ok db') :
    Touches loc now requestId db db' := by
  rw [settleSubscriptionPreConsume] at h
  split_ifs at h
  split at h
  · cases h
  · rename_i record hfind
    split_ifs at h with hrefunded
    exact (recordEffect_of_settleTx hdb h).imp_right fun h => ⟨record, hfind, hrefunded, h⟩

lemma touches_of_adjust (h : adjustSubscriptionPreConsume loc db requestId delta now = .ok db') :
    Touches loc now requestId db db' := by
  rw [adjustSubscriptionPreConsume] at h
  split_ifs at h
  · exact .inl (ok.inj h).symm
  · split at h
    · cases h
    · rename_i record hfind
      split_ifs at h with hrefunded
      split at h
      · cases h
      · exact (recordEffect_of_settleTx hdb h).imp_right fun h => ⟨record, hfind, hrefunded, h⟩

/-! ## Refunds -/

lemma uncharge_eq_ok (hsub : sub ∈ db.subscriptions)
    (h : uncharge db sub policy record now = .ok db') :
    db' = db.saveSubscription (sub.count (countsRecord sub policy record now)
      (-effectivePreConsumeAmount record)) := by
  simp only [uncharge] at h
  split_ifs at h with hneg hcounts
  · split at h
    · cases h
    · rename_i nextUsed hsum
      have hcounts : countsRecord sub policy record now = true := Bool.and_eq_true_iff.2 hcounts.2
      rw [count, if_pos hcounts, ← eq_add_of_safeAdd hsum]
      exact (ok.inj h).symm
  · obtain rfl := ok.inj h
    have hcount : sub.count (countsRecord sub policy record now)
        (-effectivePreConsumeAmount record) = sub := by
      rw [count]
      split_ifs with hc
      · -- A counted record that is not taken off amounts to nothing.
        obtain ⟨htracks, hperiod⟩ := Bool.and_eq_true_iff.1 hc
        have hnonneg := effective_nonneg record
        have hzero : effectivePreConsumeAmount record = 0 := by
          by_contra hne
          exact hcounts ⟨by omega, htracks, hperiod⟩
        have hused := not_lt.1 fun hlt => hneg ⟨htracks, hlt⟩
        rw [hzero, neg_zero, add_zero, max_eq_right hused]
      · rfl
    rw [hcount, hdb.saveSubscription_of_mem hsub]

lemma touches_of_refundTx (h : refundSubscriptionPreConsumeTx loc db requestId now = .ok db') :
    Touches loc now requestId db db' := by
  rw [refundSubscriptionPreConsumeTx] at h
  split_ifs at h
  split at h
  · cases h
  · rename_i record hfind
    split_ifs at h with hrefunded
    · exact .inl (ok.inj h).symm
    · refine .inr ⟨record, hfind, hrefunded, ?_⟩
      split at h
      · rename_i hnone
        obtain rfl := ok.inj h
        exact .orphan (get?_eq_none.1 hnone)
      · rename_i sub hsubFind
        obtain ⟨hsub, hid⟩ := get?_eq_some hsubFind
        obtain ⟨plan, hplan, h⟩ := bind_eq_ok.1 h
        obtain ⟨⟨db₁, sub₁⟩, hreset, h⟩ := bind_eq_ok.1 h
        obtain ⟨hvalid, rfl, rfl⟩ := maybeResetForSettlement_eq_ok hdb hsub hreset
        dsimp only at h
        rw [policy_upToDate hvalid] at h
        obtain ⟨db₂, huncharge, h⟩ := bind_eq_ok.1 h
        obtain rfl := ok.inj h
        have hsub₁ : sub.upToDate loc plan now ∈
            (db.saveSubscription (sub.upToDate loc plan now)).subscriptions :=
          mem_put_self hsub (by simp)
        rw [uncharge_eq_ok (hdb.saveSubscription _) hsub₁ huncharge,
          saveSubscription_saveSubscription (by simp)]
        exact .refund hsub hplan hid.symm hvalid

lemma touches_of_refund (h : refundSubscriptionPreConsume loc db requestId now = .ok db') :
    Touches loc now requestId db db' := by
  rw [refundSubscriptionPreConsume] at h
  split_ifs at h
  exact touches_of_refundTx hdb h

/-! ## The periodic reset -/

lemma effects_of_resetDueSubscription {id : ℤ} {changed : Bool}
    (h : resetDueSubscription loc db id now = .ok (db', changed)) :
      Effects loc now clock db db' := by
  rw [resetDueSubscription] at h
  split at h
  · obtain ⟨rfl, -⟩ : db = db' ∧ false = changed := by simpa using h
    exact .refl
  · rename_i locked hfind
    obtain ⟨hlocked, -⟩ := get?_eq_some (Option.filter_eq_some_iff.1 hfind).1
    split at h
    · obtain ⟨rfl, -⟩ : db = db' ∧ false = changed := by simpa using h
      exact .refl
    · obtain ⟨rfl, -⟩ : db = db' ∧ false = changed := by simpa using h
      exact .refl
    · rename_i plan hplan
      obtain ⟨⟨db₁, sub₁⟩, hreset, h⟩ := bind_eq_ok.1 h
      obtain ⟨hvalid, rfl, rfl⟩ := maybeReset_eq_ok hdb hlocked hreset
      obtain ⟨rfl, -⟩ := Prod.mk.inj (ok.inj h)
      exact .single (.update hlocked hplan hvalid)

/-- The periodic reset, as effects: an error ends it, and keeps what was done. -/
lemma effects_of_resetEach (ids : List ℤ) (count : ℕ) :
    Effects loc now clock db (resetEach loc now ids db count).1 := by
  induction ids generalizing db count with
  | nil => exact .refl
  | cons id ids ih =>
    rw [resetEach]
    split
    · exact .refl
    · rename_i db₁ changed hreset
      have heffects : Effects loc now clock db db₁ := effects_of_resetDueSubscription hdb hreset
      exact heffects.trans (ih (heffects.wellFormed hdb) _)

end Allrouter
