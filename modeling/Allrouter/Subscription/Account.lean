import Allrouter.Subscription.Effect

/-!
# The account of a subscription

The usage of a subscription is read off its records: `Database.usage id p` sums
the effective amounts of those that are not refunded and were created at a time
satisfying `p`. Writing one record changes it by the share of that record.

* `usage_saveRecord`, `usage_createRecord`: the usage after a record is written;
* `Effect.rows`: an effect changes nothing of a subscription but its counters;
* `Database.HasPolicy`, `Effect.hasPolicy`: the policy stays the same.
-/

namespace Allrouter

open Civil TimedSum SubscriptionPreConsumeRecord Database Table List

/-- The share of a record in the usage of a subscription. -/
def SubscriptionPreConsumeRecord.share (record : SubscriptionPreConsumeRecord) (id : ℤ)
    (p : ℤ → Prop)
    [DecidablePred p] : ℤ :=
  if (record.userSubscriptionId = id ∧ record.status ≠ .refunded) ∧ p record.createdAt then
    effectivePreConsumeAmount record
  else 0

/-- The usage by the records created at a time satisfying `p`. -/
def Database.usage (db : Database) (id : ℤ) (p : ℤ → Prop) [DecidablePred p] : ℤ :=
  total (·.createdAt) effectivePreConsumeAmount p (db.liveRecords id)

/-- That by the records of other requests. -/
def Database.otherUsage (db : Database) (id : ℤ) (requestId : String)
    (p : ℤ → Prop) [DecidablePred p] : ℤ :=
  total (·.createdAt) effectivePreConsumeAmount p (db.otherLiveRecords id requestId)

section

variable {db : Database} {id target : ℤ} {p : ℤ → Prop} [DecidablePred p]
  {record : SubscriptionPreConsumeRecord}

lemma share_nonneg (record : SubscriptionPreConsumeRecord) (id : ℤ) : 0 ≤ record.share id p := by
  have := effective_nonneg record
  rw [share]
  split_ifs <;> omega

lemma usage_nonneg (db : Database) (id : ℤ) : 0 ≤ db.usage id p :=
  total_nonneg fun r _ => effective_nonneg r

lemma share_of_ne (h : record.userSubscriptionId ≠ id) : record.share id p = 0 :=
  if_neg fun hshare => h hshare.1.1

lemma usage_eq_sum (db : Database) (id : ℤ) :
    db.usage id p = (db.records.map (·.share id p)).sum := by
  rw [usage, liveRecords, total_filter]
  simp [share]

lemma otherUsage_eq_sum (db : Database) (id : ℤ) (requestId : String) :
    db.otherUsage id requestId p =
      ((others (·.requestId) requestId db.records).map (·.share id p)).sum := by
  have hothers : db.otherLiveRecords id requestId =
    (others (·.requestId) requestId db.records).filter
        fun r => r.userSubscriptionId = id ∧ r.status ≠ .refunded := by
    rw [others, filter_filter]
    refine filter_congr fun r _ => ?_
    rw [← Bool.decide_and, decide_eq_decide, and_assoc]
  rw [otherUsage, hothers, total_filter]
  simp [share]

lemma usage_eq_other_add (hdb : db.WellFormed) (hrecord : record ∈ db.records) :
    db.usage id p = db.otherUsage id record.requestId p + record.share id p := by
  rw [usage_eq_sum, otherUsage_eq_sum]
  exact sum_eq_others_add _ hdb.records hrecord

lemma usage_saveRecord (hdb : db.WellFormed) (hrecord : record ∈ db.records)
    (record' : SubscriptionPreConsumeRecord) (hkey : record.requestId = record'.requestId) :
    (db.saveRecord record').usage id p = db.otherUsage id record.requestId p +
      record'.share id p := by
  rw [usage_eq_sum, otherUsage_eq_sum, hkey]
  exact sum_put _ hdb.records hrecord hkey

lemma usage_createRecord (db : Database) (record : SubscriptionPreConsumeRecord) (id : ℤ) :
    (db.createRecord record).usage id p = db.usage id p + record.share id p := by
  rw [usage_eq_sum, usage_eq_sum, createRecord, map_append]
  simp

lemma share_settle (htarget : 0 ≤ target) (now : ℤ) : (record.settle target now).share id p =
      if (record.userSubscriptionId = id ∧ record.status ≠ .refunded) ∧
        p record.createdAt then target
      else 0 := by
  rw [share, effective_of_settled rfl htarget]
  rfl

lemma share_complete (now : ℤ) :
    (record.settle (effectivePreConsumeAmount record) now).share id p = record.share id p :=
  share_settle (effective_nonneg record) now

@[simp]
lemma share_refund {now : ℤ} : (record.refund now).share id p = 0 := by
  simp [share, refund]

end

/-- Rewriting a record as the operations do keeps the times of the records. -/
lemma createdAt_of_saveRecord {db : Database} {id : ℤ} {record r : SubscriptionPreConsumeRecord}
    (hrecord : record ∈ db.records) (record' : SubscriptionPreConsumeRecord)
    (hof : record'.userSubscriptionId = record.userSubscriptionId)
    (hcreated : record.createdAt = record'.createdAt)
    (hlive : record'.status ≠ .refunded → record.status ≠ .refunded)
    (hr : r ∈ (db.saveRecord record').liveRecords id) :
      ∃ r₀ ∈ db.liveRecords id, r₀.createdAt = r.createdAt := by
  simp only [liveRecords, mem_filter, decide_eq_true_eq] at hr ⊢
  obtain ⟨hmem, hid, hstatus⟩ := hr
  rcases mem_put hmem with rfl | ⟨hmem, -⟩
  · exact ⟨record, ⟨hrecord, hof ▸ hid, hlive hstatus⟩, hcreated⟩
  · exact ⟨r, ⟨hmem, hid, hstatus⟩, rfl⟩

section

variable {loc : Location} {now clock id : ℤ} {db db' : Database} {r : SubscriptionPreConsumeRecord}

lemma RecordEffect.createdAt {record : SubscriptionPreConsumeRecord} (hrecord : record ∈ db.records)
    (h : RecordEffect loc now db record db') (hr : r ∈ db'.liveRecords id) :
    ∃ r₀ ∈ db.liveRecords id, r₀.createdAt = r.createdAt := by
  cases h with
  | settle | complete =>
    exact createdAt_of_saveRecord hrecord (record.settle _ now) rfl rfl (fun h => h) hr
  | refund | orphan =>
    exact createdAt_of_saveRecord hrecord (record.refund now) rfl rfl (fun h => absurd rfl h) hr

/-- The records of a subscription keep the time they were created at; a new one is
    created at the clock. -/
lemma Effect.createdAt (h : Effect loc now clock db db') (hr : r ∈ db'.liveRecords id) :
    (∃ r₀ ∈ db.liveRecords id, r₀.createdAt = r.createdAt) ∨ r.createdAt = clock := by
  cases h with
  | update => exact .inl ⟨r, hr, rfl⟩
  | charge =>
    simp only [liveRecords, createRecord, saveSubscription, filter_append, mem_append] at hr
    rcases hr with hr | hr
    · exact .inl ⟨r, hr, rfl⟩
    · obtain rfl := mem_singleton.1 (mem_of_mem_filter hr)
      exact .inr rfl
  | record hrecord _ h => exact .inl (h.createdAt hrecord hr)

end

section

variable {loc : Location} {now id : ℤ} {db db' : Database} {record : SubscriptionPreConsumeRecord}

lemma RecordEffect.usage_of_ne {p : ℤ → Prop} [DecidablePred p]
    (h : RecordEffect loc now db record db') (hdb : db.WellFormed) (hrecord : record ∈ db.records)
    (hne : record.userSubscriptionId ≠ id) :
    db'.usage id p = db.usage id p := by
  have hsaved (record' : SubscriptionPreConsumeRecord) (hkey : record.requestId = record'.requestId)
      (hof : record'.userSubscriptionId = record.userSubscriptionId) :
      (db.saveRecord record').usage id p = db.usage id p := by
    rw [usage_saveRecord hdb hrecord record' hkey, usage_eq_other_add hdb hrecord, share_of_ne hne,
      share_of_ne (hof ▸ hne)]
  cases h with
  | @settle _ _ target => exact hsaved (record.settle target now) rfl rfl
  | complete => exact hsaved (record.settle _ now) rfl rfl
  | refund => exact hsaved (record.refund now) rfl rfl
  | orphan => exact hsaved (record.refund now) rfl rfl

lemma RecordEffect.mem_subscriptions_of_ne {sub : UserSubscription}
    (h : RecordEffect loc now db record db') (hsub : sub ∈ db.subscriptions)
    (hne : record.userSubscriptionId ≠ sub.id) : sub ∈ db'.subscriptions := by
  have hsaved {s : UserSubscription} (hid : s.id = record.userSubscriptionId) :
      sub ∈ put (·.id) s db.subscriptions := by
    refine mem_put_of_ne hsub ?_
    rw [hid]
    exact hne.symm
  cases h with
  | settle _ _ hof => exact hsaved (by simp [hof])
  | complete => exact hsub
  | refund _ _ hof => exact hsaved (by simp [hof])
  | orphan => exact hsub

end

lemma mem_liveRecords_of_createRecord {db : Database} {id : ℤ}
    {record r : SubscriptionPreConsumeRecord} (h : record.userSubscriptionId ≠ id)
    (hr : r ∈ (db.createRecord record).liveRecords id) :
    r ∈ db.liveRecords id := by
  simp only [liveRecords, createRecord, filter_append, mem_append] at hr
  rcases hr with hr | hr
  · exact hr
  · simp [h] at hr

/-! ## The subscription -/

section

variable {loc : Location} {now clock id anchor : ℤ} {db db' : Database} {sub : UserSubscription}
  {plan : Option SubscriptionPlan} {policy : SubscriptionQuotaPolicy}

/-- The row an effect saves differs from the row it found in the counters only. -/
lemma count_upToDate_eq_withCounters (sub : UserSubscription) (loc : Location)
    (plan : Option SubscriptionPlan) (now : ℤ) (counts : Bool) (delta : ℤ) :
    ∃ used last next, (sub.upToDate loc plan now).count counts delta =
      sub.withCounters used last next ∧
      (0 ≤ sub.amountUsed → 0 ≤ used) := by
  obtain ⟨used₁, last, next, h₁, hused₁⟩ := sub.upToDate_eq_withCounters loc plan now
  obtain ⟨used₂, h₂, hused₂⟩ := (sub.upToDate loc plan now).count_eq_withCounters counts delta
  refine ⟨used₂, last, next, by rw [h₂, h₁]; rfl, fun h => ?_⟩
  have hused₁' : (sub.upToDate loc plan now).amountUsed = used₁ := by rw [h₁]; rfl
  omega

/-- An effect saves at most one row, which it has brought up to date and counted on. -/
lemma Effect.mem_subscriptions {s' : UserSubscription} (h : Effect loc now clock db db')
    (hs' : s' ∈ db'.subscriptions) :
    s' ∈ db.subscriptions ∨ ∃ s ∈ db.subscriptions, ∃ plan counts delta,
      s' = (s.upToDate loc plan now).count counts delta := by
  cases h with
  | @update sub plan hsub =>
    exact (mem_put hs').symm.imp And.left fun heq => ⟨sub, hsub, some plan, false, 0, heq⟩
  | charge hsub => exact (mem_put hs').symm.imp And.left fun heq => ⟨_, hsub, _, _, _, heq⟩
  | record _ _ h =>
    cases h with
    | complete | orphan => exact .inl hs'
    | settle hsub | refund hsub => exact (mem_put hs').symm.imp And.left fun heq =>
      ⟨_, hsub, _, _, _, heq⟩

lemma Effect.rows (h : Effect loc now clock db db') :
    ∀ s' ∈ db'.subscriptions, ∃ s ∈ db.subscriptions, ∃ used last next,
      s' = s.withCounters used last next ∧ (0 ≤ s.amountUsed → 0 ≤ used) := by
  intro s' hs'
  rcases h.mem_subscriptions hs' with hs' | ⟨s, hs, plan, counts, delta, rfl⟩
  · exact ⟨s', hs', s'.amountUsed, s'.lastResetTime, s'.nextResetTime, rfl, fun h => h⟩
  · exact ⟨s, hs, count_upToDate_eq_withCounters s loc plan now counts delta⟩

lemma Effect.plans_eq (h : Effect loc now clock db db') : db'.plans = db.plans := by
  cases h with
  | update => rfl
  | charge => rfl
  | record _ _ h => cases h <;> rfl

/-- The subscription `id` starts at `anchor`, and `policy` is its policy. -/
def Database.HasPolicy (db : Database) (id anchor : ℤ) (policy : SubscriptionQuotaPolicy) : Prop :=
  ∀ sub ∈ db.subscriptions, sub.id = id → sub.startTime = anchor ∧
    ∃ plan, planForSettlement db sub = .ok plan ∧ quotaPolicyForSubscription sub plan = policy

lemma Database.HasPolicy.policy_eq (h : db.HasPolicy id anchor policy)
    (hsub : sub ∈ db.subscriptions) (hid : sub.id = id)
    (hplan : planForSettlement db sub = .ok plan) :
    quotaPolicyForSubscription sub plan = policy := by
  obtain ⟨-, plan', hplan', hpolicy⟩ := h sub hsub hid
  rw [← hpolicy, Except.ok.inj (hplan.symm.trans hplan')]

lemma Effect.hasPolicy (h : Effect loc now clock db db') (hvalid : policy.invalid = false)
    (hpolicy : db.HasPolicy id anchor policy) : db'.HasPolicy id anchor policy := by
  intro s' hs' hid
  obtain ⟨s, hs, used, last, next, rfl, hused⟩ := h.rows s' hs'
  obtain ⟨hstart, plan, hplan, rfl⟩ := hpolicy s hs hid
  have hnonneg := amountUsed_nonneg_of_valid hvalid
  exact ⟨hstart, plan, by
    rw [← hplan]
    simp only [planForSettlement, getSubscriptionPlanOrSnapshotTx, getSubscriptionPlanByIdTx,
      findPlan, h.plans_eq]
    rfl,
    policy_withCounters hnonneg (hused hnonneg) last next plan⟩

end

end Allrouter
