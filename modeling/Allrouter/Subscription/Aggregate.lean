import Allrouter.Subscription.WindowLimit
import Allrouter.Subscription.Issue

/-!
# The aggregate counter

A policy with an aggregate limit counts the usage of the current period in the
row of the subscription. The counter is moved by each charge, settlement and
refund, and restarts when a reset has passed, which is only noticed at the next
operation, possibly many periods later. It is nevertheless exact: it is the sum
of what the records of the period amount to.

* `AggregateAccount`: the counter is the usage since the last reset, under the
  limit, and no record was made since the next one;
* `AggregateAccount.upToDate`: bringing the row up to date keeps the account;
* `Effect.aggregateInvariant`: so does every effect;
* `aggregate_of_run`: the counter along every run from the issuance on.
-/

namespace Allrouter

open Civil TimedSum SubscriptionPreConsumeRecord Table SubscriptionCall Option Location
    Database List

/-- The beginning of the period the counter is in. -/
def UserSubscription.periodStart (sub : UserSubscription) (policy : SubscriptionQuotaPolicy) : ℤ :=
  if policy.resetPeriod = .never then sub.startTime else sub.lastResetTime

/-- No reset is due. -/
def UserSubscription.UpToDate (sub : UserSubscription) (now : ℤ) : Prop :=
  sub.nextResetTime = 0 ∨ now < sub.nextResetTime

/-- The account of a subscription: the counter is what the records since the last
    reset amount to, and respects the limit. -/
structure AggregateAccount (loc : Location) (policy : SubscriptionQuotaPolicy) (time : ℤ)
    (db : Database) (sub : UserSubscription) : Prop where
  versioned : 0 < sub.planPolicySnapshotVersion
  policy_eq : ∀ plan, quotaPolicyForSubscription sub plan = policy
  used : sub.amountUsed = db.usage sub.id (sub.periodStart policy ≤ ·)
  limit_pos : 0 < policyWeeklyLimit policy sub
  limit : sub.amountUsed ≤ policyWeeklyLimit policy sub
  start_pos : 0 < sub.startTime
  start_le : sub.startTime ≤ time
  last_nonneg : 0 ≤ sub.lastResetTime
  last_le : sub.lastResetTime ≤ time
  next : sub.nextResetTime = calcNextResetTimeForPolicy loc sub.resetBase policy sub.endTime
  created : ∀ r ∈ db.liveRecords sub.id, sub.startTime ≤ r.createdAt ∧ r.createdAt ≤ time
  before : 0 < sub.nextResetTime → ∀ r ∈ db.liveRecords sub.id, r.createdAt < sub.nextResetTime

/-! ## Resets -/

section

variable {loc : Location} {policy : SubscriptionQuotaPolicy} {now time : ℤ} {db db' : Database}
  {sub : UserSubscription}

/-- Moving over the resets up to `now` ends, with the reset after `now` or with none. -/
lemma advanceReset_spec {endTime base next : ℤ} (now : ℤ) (fuel : ℕ)
    (hnext : next = calcNextResetTimeForPolicy loc base policy endTime)
    (hfuel : 0 < next → next ≤ now → (now - next).toNat < fuel) :
    ∃ b n, advanceReset loc policy endTime now fuel base next = (b, n) ∧
      n = calcNextResetTimeForPolicy loc b policy endTime ∧ ¬ (0 < n ∧ n ≤ now) ∧
      (0 < next → next ≤ now → next ≤ b ∧ b ≤ now) := by
  induction fuel generalizing base next with
  | zero =>
    have hdone : ¬ (0 < next ∧ next ≤ now) := fun h => absurd (hfuel h.1 h.2) (by omega)
    exact ⟨base, next, rfl, hnext, hdone, fun h₁ h₂ => absurd ⟨h₁, h₂⟩ hdone⟩
  | succ fuel ih =>
    rw [advanceReset]
    split_ifs with hdue
    · obtain ⟨n', hn'⟩ : ∃ n', calcNextResetTimeForPolicy loc next policy endTime = n' := ⟨_, rfl⟩
      have hlater : n' ≠ 0 → next < n' := fun h => hn' ▸ calcNextReset_pos (hn'.symm ▸ h)
      obtain ⟨b, n, heq, hn, hdone, hb⟩ := ih hn'.symm fun h₁ h₂ => by
        omega
      refine ⟨b, n, by rw [hn']; exact heq, hn, hdone, fun _ _ => ?_⟩
      by_cases hagain : 0 < n' ∧ n' ≤ now
      · have := hb hagain.1 hagain.2
        omega
      · -- The loop stops here.
        have hstop : advanceReset loc policy endTime now fuel next n' = (next, n') := by
          cases fuel with
          | zero => rfl
          | succ fuel => rw [advanceReset, if_neg hagain]
        obtain ⟨rfl, -⟩ := Prod.mk.inj (hstop.symm.trans heq)
        omega
    · exact ⟨base, next, rfl, hnext, hdue, fun h₁ h₂ => absurd ⟨h₁, h₂⟩ hdue⟩

namespace AggregateAccount

section

variable (h : AggregateAccount loc policy time db sub)
include h

lemma mono (hle : time ≤ now) : AggregateAccount loc policy now db sub :=
  { h with
    start_le := h.start_le.trans hle
    last_le := h.last_le.trans hle
    created := fun r hr => ⟨(h.created r hr).1, (h.created r hr).2.trans hle⟩ }

lemma resetBase_pos : 0 < sub.resetBase := by
  have := h.start_pos
  rw [UserSubscription.resetBase]
  split_ifs <;> omega

lemma next_nonneg : 0 ≤ sub.nextResetTime := by
  have hbase := h.resetBase_pos
  have hnext := h.next
  obtain ⟨n, hn⟩ : ∃ n, calcNextResetTimeForPolicy loc sub.resetBase policy sub.endTime =
    n := ⟨_, rfl⟩
  have hlater : n ≠ 0 → sub.resetBase < n := fun hne => hn ▸ calcNextReset_pos (hn.symm ▸ hne)
  omega

lemma amountUsed_nonneg (hvalid : policy.invalid = false) : 0 ≤ sub.amountUsed := by
  refine amountUsed_nonneg_of_valid (show (quotaPolicyForSubscription sub none).invalid =
    false from ?_)
  rw [h.policy_eq, hvalid]

/-- Bringing the row up to date keeps the account: the counter restarts with the
    period, in which there are no records yet. -/
lemma upToDate (hvalid : policy.invalid = false)
    (htracks : policyTracksAggregate policy = true) (hle : time ≤ now) (plan : SubscriptionPlan) :
    AggregateAccount loc policy now db (sub.upToDate loc (some plan) now) ∧
      (sub.upToDate loc (some plan) now).UpToDate now := by
  have hnonneg := h.next_nonneg
  have hsame (hup : sub.UpToDate now) (heq : sub.upToDate loc (some plan) now = sub) :
      AggregateAccount loc policy now db (sub.upToDate loc (some plan) now) ∧
        (sub.upToDate loc (some plan) now).UpToDate now := by
    rw [heq]
    exact ⟨h.mono hle, hup⟩
  simp only [UserSubscription.upToDate, h.policy_eq] at hsame ⊢
  have hnext := h.next
  by_cases hnever : policy.resetPeriod = .never
  · rw [calcNextResetTimeForPolicy, if_pos hnever] at hnext
    exact hsame (.inl hnext) (by rw [resetSubscription, if_pos hnever]; rfl)
  by_cases hfuture : sub.nextResetTime > 0 ∧ sub.nextResetTime > now
  · refine hsame (.inr hfuture.2) ?_
    rw [resetSubscription, if_neg hnever, if_neg (by simp [htracks]), if_pos hfuture]
    rfl
  by_cases hdue : sub.nextResetTime > 0 ∧ sub.nextResetTime ≤ now
  · obtain ⟨b, n, hadvance, hn, hdone, hb⟩ := advanceReset_spec now
      ((now - sub.nextResetTime).toNat + 1) hnext fun _ _ => by omega
    obtain ⟨hnb, hbnow⟩ := hb hdue.1 hdue.2
    have heq : resetSubscription loc sub policy now = some (sub.withCounters 0 b n) := by
      rw [resetSubscription, if_neg hnever, if_neg (by simp [htracks]), if_neg hfuture]
      simp only [← hnext, if_pos hdue, hadvance]
      rfl
    rw [heq]
    have hlater : n ≠ 0 → b < n := fun hne => hn ▸ calcNextReset_pos (hn.symm ▸ hne)
    have hused : db.usage sub.id (b ≤ ·) = 0 := by
      refine total_eq_zero fun r hr hbr => ?_
      have := h.before hdue.1 r hr
      omega
    refine ⟨?_, show n = 0 ∨ now < n by omega⟩
    exact
      { versioned := h.versioned
        policy_eq := fun plan => by
          rw [getD_some, policy_withCounters (h.amountUsed_nonneg hvalid) le_rfl,
            h.policy_eq]
        used := by
          simp only [UserSubscription.periodStart, if_neg hnever]
          exact hused.symm
        limit_pos := h.limit_pos
        limit := h.limit_pos.le
        start_pos := h.start_pos
        start_le := h.start_le.trans hle
        last_nonneg := show 0 ≤ b by omega
        last_le := hbnow
        next := by
          have hbase : (sub.withCounters 0 b n).resetBase = b :=
            if_neg (show ¬ b ≤ 0 by omega)
          rw [getD_some, hbase]
          exact hn
        created := fun r hr => ⟨(h.created r hr).1, (h.created r hr).2.trans hle⟩
        before := fun hpos r hr => by
          have hr' := h.before hdue.1 r hr
          have hpos' : 0 < n := hpos
          exact show r.createdAt < n by omega }
  · have hzero : sub.nextResetTime = 0 := by omega
    refine hsame (.inl hzero) ?_
    rw [resetSubscription, if_neg hnever, if_neg (by simp [htracks]), if_neg hfuture]
    simp only [← hnext, if_neg hdue]
    rw [if_neg (by omega)]
    rfl

end

variable (h : AggregateAccount loc policy now db sub)
include h

lemma frame
    (husage : db'.usage sub.id (sub.periodStart policy ≤ ·) =
      db.usage sub.id (sub.periodStart policy ≤ ·))
    (hrecords : ∀ r ∈ db'.liveRecords sub.id, ∃ r₀ ∈ db.liveRecords sub.id,
      r₀.createdAt = r.createdAt) :
    AggregateAccount loc policy now db' sub :=
  { h with
    used := h.used.trans husage.symm
    created := fun r hr => by
      obtain ⟨r₀, hr₀, heq⟩ := hrecords r hr
      exact heq ▸ h.created r₀ hr₀
    before := fun hpos r hr => by
      obtain ⟨r₀, hr₀, heq⟩ := hrecords r hr
      exact heq ▸ h.before hpos r₀ hr₀ }

lemma count {used : ℤ} (hvalid : policy.invalid = false) (hup : sub.UpToDate now)
    (hrecords : ∀ r ∈ db'.liveRecords sub.id,
      (∃ r₀ ∈ db.liveRecords sub.id, r₀.createdAt = r.createdAt) ∨ r.createdAt = now)
    (hused : used = db'.usage sub.id (sub.periodStart policy ≤ ·))
    (hlimit : used ≤ policyWeeklyLimit policy sub) :
    AggregateAccount loc policy now db' { sub with amountUsed := used } :=
  { h with
    policy_eq := fun plan => by
      have hused' : 0 ≤ used := hused ▸ usage_nonneg _ _
      exact (policy_withCounters (h.amountUsed_nonneg hvalid) hused' _ _ plan).trans
        (h.policy_eq plan)
    used := hused
    limit := hlimit
    created := fun r hr => by
      rcases hrecords r hr with ⟨r₀, hr₀, heq⟩ | heq
      · exact heq ▸ h.created r₀ hr₀
      · exact heq.symm ▸ ⟨h.start_le, le_rfl⟩
    before := fun hpos r hr => by
      rcases hrecords r hr with ⟨r₀, hr₀, heq⟩ | heq
      · exact heq ▸ h.before hpos r₀ hr₀
      · rw [heq]
        rcases hup with hzero | hlt
        · exact absurd hzero (show sub.nextResetTime ≠ 0 by exact (ne_of_lt hpos).symm)
        · exact hlt }

lemma periodStart_le : sub.periodStart policy ≤ now := by
  rw [UserSubscription.periodStart]
  split_ifs
  · exact h.start_le
  · exact h.last_le

/-- The counter of an up-to-date row counts the records of the period. -/
lemma countsRecord_eq (htracks : policyTracksAggregate policy = true) (hup : sub.UpToDate now)
    {r : SubscriptionPreConsumeRecord} (hr : r ∈ db.liveRecords sub.id) :
    countsRecord sub policy r now = decide (sub.periodStart policy ≤ r.createdAt) := by
  have hstart := h.start_pos
  obtain ⟨hcreated, hle⟩ := h.created r hr
  rw [countsRecord, htracks, Bool.true_and, aggregateRecordInCurrentPeriod,
    UserSubscription.periodStart]
  rw [if_neg (by simp [htracks]; omega)]
  by_cases hnever : policy.resetPeriod = .never
  · simp [hnever, hcreated]
  · have hnext : ¬ (sub.nextResetTime > 0 ∧ r.createdAt ≥ sub.nextResetTime ∧
      sub.nextResetTime ≤ now) := by
      rcases hup with h | h <;> omega
    split_ifs with hearlier
    · exact (decide_eq_false (by omega)).symm
    · rw [decide_eq_true hle, decide_eq_true (by omega)]

end AggregateAccount

/-! ## One effect -/

/-- The row is the one issued, but for its counters. -/
def UserSubscription.CountedFrom (sub issued : UserSubscription) : Prop :=
  ∃ used last next, sub = issued.withCounters used last next

lemma UserSubscription.CountedFrom.count {issued : UserSubscription} (h : sub.CountedFrom issued)
    (plan : Option SubscriptionPlan) (counts : Bool) (delta : ℤ) :
    ((sub.upToDate loc plan now).count counts delta).CountedFrom issued := by
  obtain ⟨_, _, _, rfl⟩ := h
  obtain ⟨used, last, next, heq, -⟩ :=
    count_upToDate_eq_withCounters (issued.withCounters _ _ _) loc plan now counts delta
  exact ⟨used, last, next, heq⟩

/-- The counter of the subscription is that of its period. -/
structure AggregateInvariant (loc : Location) (policy : SubscriptionQuotaPolicy)
    (issued : UserSubscription) (time : ℤ) (db : Database) : Prop where
  wellFormed : db.WellFormed
  account : ∃ sub ∈ db.subscriptions, sub.CountedFrom issued ∧
    AggregateAccount loc policy time db sub

lemma exists_plan_of_versioned {plan : Option SubscriptionPlan}
    (hversion : 0 < sub.planPolicySnapshotVersion) (h : planForSettlement db sub = .ok plan) :
      ∃ p, plan = some p := by
  rw [planForSettlement, getSubscriptionPlanOrSnapshotTx] at h
  by_cases hid : sub.planId ≤ 0
  · rw [if_pos hid, if_pos hversion] at h
    cases h
  · rw [if_neg hid] at h
    cases hplan : getSubscriptionPlanByIdTx db sub.planId with
    | ok p =>
      simp only [hplan, if_pos hversion, Except.ok.injEq] at h
      exact ⟨_, h.symm⟩
    | error e =>
      cases e with
      | recordNotFound =>
        simp only [hplan, ne_eq, not_true, false_or, if_neg (not_le.2 hversion),
          Except.ok.injEq] at h
        exact ⟨_, h.symm⟩
      | text message => simp [hplan] at h

variable {issued : UserSubscription} (hvalid : policy.invalid = false)
  (htracks : policyTracksAggregate policy = true)

include hvalid htracks in
lemma AggregateAccount.charge {request : PreConsumeRequest}
    (h : AggregateAccount loc policy now db sub) (hup : sub.UpToDate now)
    (hamount : 0 < request.amount) (hadmits : Admits db sub policy now request.amount)
    (hrecords : ∀ r ∈ (db.createRecord (request.record sub.id now now)).liveRecords sub.id,
      (∃ r₀ ∈ db.liveRecords sub.id, r₀.createdAt = r.createdAt) ∨ r.createdAt = now) :
    AggregateAccount loc policy now (db.createRecord (request.record sub.id now now))
      (sub.count true request.amount) := by
  have hnonneg := h.amountUsed_nonneg hvalid
  refine h.count hvalid hup hrecords ?_ ?_
  · have hshare : (request.record sub.id now now).share sub.id (sub.periodStart policy ≤ ·) =
      request.amount := by
      rw [share, if_pos ⟨⟨rfl, by simp [PreConsumeRequest.record]⟩, h.periodStart_le⟩]
      exact effective_of_settled rfl hamount.le
    rw [usage_createRecord, hshare, ← h.used]
    omega
  · have := hadmits.aggregate htracks h.limit_pos
    omega

include hvalid htracks in
/-- Rewriting a record keeps the account, if the counter moves by the change of it
    when it counts the record. -/
lemma AggregateAccount.rewrite {record record' : SubscriptionPreConsumeRecord} {delta : ℤ}
    (h : AggregateAccount loc policy now db sub) (hup : sub.UpToDate now) (hdb : db.WellFormed)
    (hrecord : record ∈ db.records) (hlive : record.status ≠ .refunded)
    (hof : record.userSubscriptionId = sub.id) (hkey : record.requestId = record'.requestId)
    (hof' : record'.userSubscriptionId = record.userSubscriptionId)
    (hcreated : record.createdAt = record'.createdAt)
    (hshare : ∀ p [DecidablePred p], record'.share sub.id p =
      if p record.createdAt then effectivePreConsumeAmount record + delta else 0)
    (hlimit : 0 < delta → countsRecord sub policy record now = true →
      sub.amountUsed + delta ≤ policyWeeklyLimit policy sub) : AggregateAccount loc policy now
        (db.saveRecord record')
      (sub.count (countsRecord sub policy record now) delta) := by
  have hmem : record ∈ db.liveRecords sub.id := by simp [liveRecords, hrecord, hlive, hof]
  have hrecords : ∀ r ∈ (db.saveRecord record').liveRecords sub.id,
      ∃ r₀ ∈ db.liveRecords sub.id, r₀.createdAt = r.createdAt := fun r hr =>
    createdAt_of_saveRecord hrecord record' hof' hcreated (fun _ => hlive) hr
  have hcounts := h.countsRecord_eq htracks hup hmem
  have hbefore : db.usage sub.id (sub.periodStart policy ≤ ·) =
      db.otherUsage sub.id record.requestId (sub.periodStart policy ≤ ·) +
        if sub.periodStart policy ≤ record.createdAt then effectivePreConsumeAmount record
            else 0 := by
    rw [usage_eq_other_add hdb hrecord, share]
    simp [hof, hlive]
  have hafter : (db.saveRecord record').usage sub.id (sub.periodStart policy ≤ ·) =
      db.otherUsage sub.id record.requestId (sub.periodStart policy ≤ ·) +
        if sub.periodStart policy ≤ record.createdAt then effectivePreConsumeAmount record + delta
            else 0 := by
    rw [usage_saveRecord hdb hrecord record' hkey, hshare]
  have hnonneg := usage_nonneg (p := (sub.periodStart policy ≤ ·)) (db.saveRecord record') sub.id
  have hused := h.used
  have hle := h.limit
  by_cases hin : sub.periodStart policy ≤ record.createdAt
  · rw [decide_eq_true hin] at hcounts
    rw [if_pos hin] at hbefore hafter
    rw [hcounts]
    refine h.count hvalid hup (fun r hr => .inl (hrecords r hr)) (by omega) ?_
    by_cases hdelta : 0 < delta
    · have := hlimit hdelta hcounts
      omega
    · omega
  · rw [decide_eq_false hin] at hcounts
    rw [if_neg hin] at hbefore hafter
    rw [hcounts]
    exact h.frame (hafter.trans hbefore.symm) hrecords

lemma AggregateAccount.saveSubscription (h : AggregateAccount loc policy now db sub)
    (row : UserSubscription) : AggregateAccount loc policy now (db.saveSubscription row) sub :=
  h.frame rfl fun r hr => ⟨r, hr, rfl⟩

include hvalid htracks in
lemma RecordEffect.aggregateInvariant {record : SubscriptionPreConsumeRecord}
    (h : RecordEffect loc now db record db') (hrecord : record ∈ db.records)
    (hlive : record.status ≠ .refunded) (hinv : AggregateInvariant loc policy issued now db) :
    AggregateInvariant loc policy issued now db' := by
  obtain ⟨hdb, sub, hsub, hissued, hacc⟩ := hinv
  refine ⟨h.wellFormed hdb, ?_⟩
  have hrecords : ∀ r ∈ db'.liveRecords sub.id, ∃ r₀ ∈ db.liveRecords sub.id, r₀.createdAt =
      r.createdAt :=
    fun r hr => h.createdAt hrecord hr
  by_cases hne : record.userSubscriptionId ≠ sub.id
  · exact ⟨sub, h.mem_subscriptions_of_ne hsub hne, hissued,
      hacc.frame (h.usage_of_ne hdb hrecord hne) hrecords⟩
  rw [ne_eq, not_not] at hne
  have hrow {s : UserSubscription} (hs : s ∈ db.subscriptions)
    (hof : record.userSubscriptionId = s.id) : s = sub :=
  hdb.subscriptions.eq_of_mem hs hsub (hof.symm.trans hne)
  cases h with
  | @settle s plan target hs hplan hof _ htarget hadmits =>
    obtain rfl := hrow hs hof
    obtain ⟨plan, rfl⟩ := exists_plan_of_versioned hacc.versioned hplan
    obtain ⟨hacc₁, hup⟩ := hacc.upToDate hvalid htracks le_rfl plan
    rw [hacc.policy_eq] at hadmits ⊢
    refine ⟨_, mem_put_self hs (by simp), hissued.count _ _ _, .saveSubscription ?_ _⟩
    refine hacc₁.rewrite hvalid htracks hup hdb hrecord hlive (by simpa using hof) rfl rfl rfl ?_ ?_
    · intro p _
      rw [share_settle htarget]
      simp [hof, hlive]
    · intro hdelta hcounts
      exact (hadmits (by omega)).aggregate hcounts hacc₁.limit_pos
  | complete =>
    refine ⟨sub, hsub, hissued, hacc.frame ?_ hrecords⟩
    rw [usage_saveRecord hdb hrecord (record.settle _ now) rfl, share_complete,
      ← usage_eq_other_add hdb hrecord]
  | @refund s plan hs hplan hof _ =>
    obtain rfl := hrow hs hof
    obtain ⟨plan, rfl⟩ := exists_plan_of_versioned hacc.versioned hplan
    obtain ⟨hacc₁, hup⟩ := hacc.upToDate hvalid htracks le_rfl plan
    rw [hacc.policy_eq]
    refine ⟨_, mem_put_self hs (by simp), hissued.count _ _ _, .saveSubscription ?_ _⟩
    refine hacc₁.rewrite hvalid htracks hup hdb hrecord hlive (by simpa using hof) rfl rfl rfl ?_ ?_
    · intro p _
      rw [share_refund]
      simp
    · intro hdelta
      have := effective_nonneg record
      omega
  | orphan hnone => exact absurd hne.symm (hnone sub hsub)

include hvalid htracks in
lemma Effect.aggregateInvariant (h : Effect loc now now db db')
    (hinv : AggregateInvariant loc policy issued now db) :
      AggregateInvariant loc policy issued now db' := by
  have heffect := h
  cases h with
  | record hrecord hlive h => exact h.aggregateInvariant hvalid htracks hrecord hlive hinv
  | @update s plan hs =>
    obtain ⟨hdb, sub, hsub, hissued, hacc⟩ := hinv
    refine ⟨heffect.wellFormed hdb, ?_⟩
    by_cases hid : s.id = sub.id
    · obtain rfl := hdb.subscriptions.eq_of_mem hs hsub hid
      exact ⟨_, mem_put_self hs (by simp), hissued.count (some plan) false 0,
        ((hacc.upToDate hvalid htracks le_rfl plan).1).saveSubscription _⟩
    · exact ⟨sub, mem_put_of_ne hsub (by simpa using Ne.symm hid), hissued, hacc.saveSubscription _⟩
  | @charge s plan request hs _ _ _ _ hamount hadmits =>
    obtain ⟨hdb, sub, hsub, hissued, hacc⟩ := hinv
    refine ⟨heffect.wellFormed hdb, ?_⟩
    by_cases hid : s.id = sub.id
    · obtain rfl := hdb.subscriptions.eq_of_mem hs hsub hid
      obtain ⟨hacc₁, hup⟩ := hacc.upToDate hvalid htracks le_rfl plan
      have hcharge := hacc₁.charge hvalid htracks hup hamount (hacc.policy_eq _ ▸ hadmits)
      rw [UserSubscription.upToDate_id] at hcharge
      refine ⟨_, mem_put_self hs (by simp), hissued.count _ _ _, ?_⟩
      rw [hacc.policy_eq, htracks]
      exact (hcharge fun r hr => heffect.createdAt hr).saveSubscription _
    · refine ⟨sub, mem_put_of_ne hsub (by simpa using Ne.symm hid), hissued, ?_⟩
      refine (hacc.frame ?_ fun r hr =>
        ⟨r, mem_liveRecords_of_createRecord hid hr, rfl⟩).saveSubscription _
      rw [usage_createRecord, share_of_ne hid, add_zero]

include hvalid htracks in
lemma Effects.aggregateInvariant (h : Effects loc now now db db')
    (hinv : AggregateInvariant loc policy issued now db) :
      AggregateInvariant loc policy issued now db' := by
  induction h with
  | refl => exact hinv
  | tail _ hlast ih => exact hlast.aggregateInvariant hvalid htracks ih

end

/-! ## Runs -/

/-- The steps of a subscription's life: an operation, or the periodic reset. -/
inductive SubscriptionStep (loc : Location) (now : ℤ) (db : Database) : Database → Prop
  | call (call : SubscriptionCall) : SubscriptionStep loc now db (commit db (call.run loc db now))
  | resetDue (limit : ℤ) : SubscriptionStep loc now db (resetDueSubscriptions loc db limit now).1

/-- The call settles, adjusts or refunds the request. -/
def SubscriptionCall.Settles (requestId : String) : SubscriptionCall → Prop
  | preConsume _ => False
  | settle id _ | adjust id _ | refund id => id = requestId

section

variable {loc : Location} {policy : SubscriptionQuotaPolicy} {now : ℤ} {db db' : Database}
  {sub issued : UserSubscription} (hvalid : policy.invalid = false)
  (htracks : policyTracksAggregate policy = true)

include hvalid htracks in
lemma SubscriptionStep.aggregateInvariant {time : ℤ} (h : SubscriptionStep loc now db db')
    (hle : time ≤ now) (hinv : AggregateInvariant loc policy issued time db) :
      AggregateInvariant loc policy issued now db' := by
  obtain ⟨hdb, sub, hsub, hissued, hacc⟩ := hinv
  have hinv : AggregateInvariant loc policy issued now db :=
    ⟨hdb, sub, hsub, hissued, hacc.mono hle⟩
  cases h with
  | call call =>
    exact commit_invariant hinv fun db' h =>
      (call.effects hdb h).aggregateInvariant hvalid htracks hinv
  | resetDue limit => exact (effects_of_resetEach hdb _ _).aggregateInvariant hvalid htracks hinv

lemma aggregateInvariant_of_issue {id userId planId : ℤ}
    {entitlementSnapshot : Option SubscriptionPlan} (hdb : db.WellFormed)
    (hid : ∀ s ∈ db.subscriptions, s.id ≠ id) (hrecords : db.liveRecords id = []) (hnow : 0 < now)
    (hissue : createUserSubscriptionFromPlan loc db id userId planId entitlementSnapshot now =
      .ok (db', sub))
    (hpolicy : quotaPolicyForSubscription sub none = policy) (hvalid : policy.invalid = false)
    (htracks : policyTracksAggregate policy = true) (hlimit : 0 < policyWeeklyLimit policy sub) :
    sub.id = id ∧ AggregateInvariant loc policy sub now db' := by
  obtain ⟨plan, providerId, hissued, rfl⟩ := createUserSubscriptionFromPlan_eq_ok hissue
  obtain ⟨hplan, endUnix, rfl⟩ := issueSubscription_eq_ok hissued
  have hplanTracks := tracks_of_issued (hpolicy ▸ hvalid) (hpolicy ▸ htracks)
  rw [hplanTracks, if_pos rfl] at hpolicy hlimit ⊢
  obtain ⟨next, hnext⟩ : ∃ next,
      calcNextResetTimeForPolicy loc now (quotaPolicyFromPlan (some plan)) endUnix =
        next := ⟨_, rfl⟩
  have hsame := quotaPolicyForSubscription_issued hplan hplanTracks id userId providerId now
    endUnix next
  rw [hnext] at hpolicy hlimit ⊢
  obtain rfl : quotaPolicyFromPlan (some plan) = policy := (hsame none).symm.trans hpolicy
  have hbase : (issuedSubscription plan id userId providerId now endUnix next).resetBase = now := by
    rw [UserSubscription.resetBase]
    simp only [issuedSubscription]
    split_ifs <;> omega
  have hused : db.usage id (fun c =>
      (issuedSubscription plan id userId providerId now endUnix next).periodStart
        (quotaPolicyFromPlan (some plan)) ≤ c) = 0 := by
    rw [usage, hrecords, total_nil]
  refine ⟨rfl, ⟨hdb.subscriptions.append_singleton hid, hdb.records⟩, _,
    mem_append_right _ mem_cons_self, ⟨_, _, _, rfl⟩, ?_⟩
  · exact
      { versioned := show (0 : ℤ) < 1 by decide
        policy_eq := hsame
        used := hused.symm
        limit_pos := hlimit
        limit := hlimit.le
        start_pos := hnow
        start_le := le_rfl
        last_nonneg := by simp only [issuedSubscription]; split_ifs <;> omega
        last_le := by simp only [issuedSubscription]; split_ifs <;> omega
        next := by rw [hbase]; exact hnext.symm
        created := fun r hr => absurd (hrecords ▸ hr : r ∈ []) not_mem_nil
        before := fun _ r hr => absurd (hrecords ▸ hr : r ∈ []) not_mem_nil }

include hvalid htracks in
/-- An operation on a record of an earlier period at most brings the row up to date. -/
lemma row_of_earlier {requestId : String} {record : SubscriptionPreConsumeRecord}
    {call : SubscriptionCall} (hdb : db.WellFormed) (hsub : sub ∈ db.subscriptions)
    (hacc : AggregateAccount loc policy now db sub) (hcall : call.Settles requestId)
    (hfind : db.findRecord requestId = some record) (hof : record.userSubscriptionId = sub.id)
    (hearlier : record.createdAt <
      ((resetSubscription loc sub policy now).getD sub).periodStart policy) :
    sub ∈ (commit db (call.run loc db now)).subscriptions ∨
      (resetSubscription loc sub policy now).getD sub ∈
        (commit db (call.run loc db now)).subscriptions := by
  refine commit_invariant (P := fun db' : Database => sub ∈ db'.subscriptions ∨
    (resetSubscription loc sub policy now).getD sub ∈ db'.subscriptions) (.inl hsub) fun db' h => ?_
  have htouches : Touches loc now requestId db db' := by
    cases call with
    | preConsume => exact hcall.elim
    | settle => exact hcall ▸ touches_of_settle hdb h
    | adjust => exact hcall ▸ touches_of_adjust hdb h
    | refund => exact hcall ▸ touches_of_refund hdb h
  rcases htouches with rfl | ⟨record', hfind', hlive, heffect⟩
  · exact .inl hsub
  obtain rfl : record = record' := some.inj (hfind.symm.trans hfind')
  obtain ⟨hrecord, -⟩ := get?_eq_some hfind
  have hmem : record ∈ db.liveRecords sub.id := by simp [liveRecords, hrecord, hlive, hof]
  -- The row is saved as it is once up to date, since the record does not count.
  have hrow (plan : SubscriptionPlan) (delta : ℤ) : (sub.upToDate loc (some plan) now).count
      (countsRecord (sub.upToDate loc (some plan) now) policy record now) delta =
        (resetSubscription loc sub policy now).getD sub := by
    obtain ⟨hacc₁, hup⟩ := hacc.upToDate hvalid htracks le_rfl plan
    rw [hacc₁.countsRecord_eq htracks hup (by simpa using hmem)]
    simp only [UserSubscription.upToDate, hacc.policy_eq]
    rw [decide_eq_false (not_le.2 hearlier)]
    rfl
  cases heffect with
  | complete => exact .inl hsub
  | @settle s plan _ hs hplan hof' | @refund s plan hs hplan hof' =>
    obtain rfl : s = sub := hdb.subscriptions.eq_of_mem hs hsub (hof'.symm.trans hof)
    obtain ⟨plan, rfl⟩ := exists_plan_of_versioned hacc.versioned hplan
    rw [hacc.policy_eq, hrow]
    refine .inr (mem_put_self hs ?_)
    rw [← hrow plan 0]
    simp
  | orphan hnone => exact absurd hof.symm (hnone sub hsub)

end

/-- **Aggregate accounting.** Along every run from the issuance of a subscription
    with an aggregate limit on, the counter is what the records since the last reset
    amount to, and is within the limit; settling or refunding a record of an earlier
    period at most performs the reset that is due. -/
theorem aggregate_of_run {loc : Location} {policy : SubscriptionQuotaPolicy}
    {id userId planId start stop : ℤ} {entitlementSnapshot : Option SubscriptionPlan}
    {db db₀ db' : Database} {sub : UserSubscription} (hdb : db.WellFormed)
    (hid : ∀ s ∈ db.subscriptions, s.id ≠ id) (hrecords : db.liveRecords id = [])
    (hstart : 0 < start)
    (hissue : createUserSubscriptionFromPlan loc db id userId planId entitlementSnapshot start =
    .ok (db₀, sub))
    (hpolicy : quotaPolicyForSubscription sub none = policy) (hvalid : policy.invalid = false)
    (htracks : policyTracksAggregate policy = true) (hlimit : 0 < policyWeeklyLimit policy sub)
    (hrun : Timed.Run (SubscriptionStep loc) start db₀ stop db') :
      ∃ sub' ∈ db'.subscriptions, sub'.CountedFrom sub ∧
      (∀ plan, quotaPolicyForSubscription sub' plan = policy) ∧
      sub'.amountUsed = db'.usage id (sub'.periodStart policy ≤ ·) ∧
        sub'.amountUsed ≤ policyWeeklyLimit policy sub ∧
      ∀ now ≥ stop, ∀ requestId record, ∀ call : SubscriptionCall, call.Settles requestId →
        db'.findRecord requestId = some record → record.userSubscriptionId = id →
        record.createdAt < ((resetSubscription loc sub' policy now).getD sub').periodStart policy →
          sub' ∈ (commit db' (call.run loc db' now)).subscriptions ∨
            (resetSubscription loc sub' policy now).getD sub' ∈
              (commit db' (call.run loc db' now)).subscriptions := by
  obtain ⟨rfl, hinv⟩ :=
    aggregateInvariant_of_issue hdb hid hrecords hstart hissue hpolicy hvalid htracks hlimit
  obtain ⟨hdb', sub', hsub', hissued, hacc⟩ := hrun.invariant (AggregateInvariant loc policy sub)
    (fun hinv hle hstep => hstep.aggregateInvariant hvalid htracks hle hinv) hinv
  have hcounted := hissued
  obtain ⟨used, last, next, rfl⟩ := hissued
  refine ⟨_, hsub', hcounted, hacc.policy_eq, hacc.used, hacc.limit,
    fun now hnow requestId record call hcall hfind hof hearlier => ?_⟩
  exact row_of_earlier hvalid htracks hdb' hsub' (hacc.mono hnow) hcall hfind hof hearlier

/-! ### A subscription by the day -/

namespace Daily

def plan : SubscriptionPlan where
  id := 1
  totalAmount := 100
  quotaResetPeriod := "daily"

def catalog : Database where
  users := [{ id := 1 }]
  plans := [plan]
  subscriptions := []
  records := []

def subscription : UserSubscription where
  id := 1
  userId := 1
  planId := 1
  amountTotal := 100
  startTime := 1000
  endTime := 2679400
  lastResetTime := 1000
  nextResetTime := 86400
  quotaWindowMode := "legacy"
  quotaResetPeriodSnapshot := "daily"
  planPolicySnapshotVersion := 1

def database : Database := { catalog with subscriptions := [subscription] }

lemma issued : createUserSubscriptionFromPlan (fixed 0) catalog 1 1 1 none 1000 =
    .ok (database, subscription) := by
  decide +kernel

def policy : SubscriptionQuotaPolicy := quotaPolicyForSubscription subscription none

/-- The tables after a charge of 10 on the first day, and of 5 on the second. -/
def first : Database :=
  commit database ((preConsume { requestId := "a", userId := 1, amount := 10 }).run
    (fixed 0) database 2000)

def second : Database :=
  commit first ((preConsume { requestId := "b", userId := 1, amount := 5 }).run
    (fixed 0) first 90000)

end Daily

/-- Two requests on two days: the counter is that of the second day. -/
theorem daily_aggregate : Daily.second.records.length = 2 ∧
    (Daily.second.subscriptions.map (·.amountUsed)) = [5] ∧
    ∃ sub' ∈ Daily.second.subscriptions,
      sub'.amountUsed = Daily.second.usage 1 (sub'.periodStart Daily.policy ≤ ·) := by
  refine ⟨by decide +kernel, by decide +kernel, ?_⟩
  obtain ⟨sub', hmem, -, -, hused, -⟩ :=
    aggregate_of_run (show Daily.catalog.WellFormed from ⟨by decide, by decide⟩)
    (by decide) (by decide) (by decide) Daily.issued
    (show _ = Daily.policy from rfl) (by decide +kernel) (by decide +kernel) (by decide +kernel)
    (.tail (.tail .refl (show (1000 : ℤ) ≤ 2000 by decide) (.call _)) (show (2000 : ℤ) ≤
      90000 by decide) (.call _))
  exact ⟨sub', hmem, hused⟩

end Allrouter
