import Allrouter.Subscription.WindowLimit

/-!
# Charges that run late

A charge reads the clock, then waits for the lock of the subscription, and its
record takes the time at which the transaction runs. The usage it compares with
the limits is that of the records made up to its own reading of the clock; a
record committed after that reading is not seen (`PreConsumeStep`).

* `exceeds_window_limit_of_late_transaction`: two charges that read the clock
  before either of them ran exceed the limit together;
* `withinWindowLimits_of_seen`: the limits are kept, and the usage covers the window
  of the new record, as long as every transaction sees the records that are there.
-/

namespace Allrouter

open Civil TimedSum List Location

/-- A charge that has read the clock, and waits for its transaction. -/
structure PendingCharge where
  request : PreConsumeRequest
  now : ℤ
  deriving DecidableEq

/-- The tables, the clock, and the charges under way. -/
structure ChargeState where
  db : Database
  clock : ℤ
  pending : List PendingCharge

/-- The transaction of a charge; the row lock lets one run at a time. -/
def ChargeState.transact (loc : Location) (s : ChargeState) (call : PendingCharge) : ChargeState :=
  { s with
    db := commit s.db
      ((preConsumeUserSubscription loc s.db call.request call.now s.clock).map Prod.fst)
    pending := s.pending.erase call }

/-- The steps of charges that run side by side; `Allowed` restricts when a
    transaction may run. -/
inductive PreConsumeStep (loc : Location) (Allowed : ChargeState → PendingCharge → Prop) :
    ChargeState → ChargeState → Prop
  | tick {s : ChargeState} {clock : ℤ} (hle : s.clock ≤ clock) (hclock : IsTimestamp clock) :
      PreConsumeStep loc Allowed s { s with clock := clock }
  | read {s : ChargeState} (request : PreConsumeRequest) :
      PreConsumeStep loc Allowed s { s with pending := ⟨request, s.clock⟩ :: s.pending }
  | transact {s : ChargeState} {call : PendingCharge} (hmem : call ∈ s.pending)
    (hallowed : Allowed s call) :
      PreConsumeStep loc Allowed s (s.transact loc call)

abbrev PreConsumeRun (loc : Location) (Allowed : ChargeState → PendingCharge → Prop) :
    ChargeState → ChargeState → Prop :=
  Relation.ReflTransGen (PreConsumeStep loc Allowed)

/-- Every record of the subscription was created by the time the charge read the clock. -/
def PendingCharge.Sees (id : ℤ) (s : ChargeState) (call : PendingCharge) : Prop :=
  ∀ r ∈ s.db.liveRecords id, r.createdAt ≤ call.now

/-- The windows hold, and no call is ahead of the clock. -/
structure ChargeInvariant (id anchor : ℤ) (policy : SubscriptionQuotaPolicy) (s : ChargeState) :
    Prop where
  window : WindowInvariant id anchor policy s.clock s.db
  clock : IsTimestamp s.clock
  pending : ∀ call ∈ s.pending, IsTimestamp call.now ∧ call.now ≤ s.clock

section

variable {loc : Location} {id anchor now clock : ℤ} {db db' : Database}
  {policy : SubscriptionQuotaPolicy} {s s' : ChargeState} (hid : 0 < id)
  (hfits : policy.FiveHourFits) (hvalid : policy.invalid = false)
  (hint : ∀ w ∈ quotaRecordBackedWindows policy, w.amount ≤ maxInt64) {call : PendingCharge}

include hid hfits hvalid hint in
lemma Updates.windowInvariant (h : Updates loc now db db') (hnow : IsTimestamp now)
    (hclock : IsTimestamp clock) (hle : now ≤ clock)
    (hseen : ∀ r ∈ db.liveRecords id, r.createdAt ≤ now)
    (hinv : WindowInvariant id anchor policy clock db) :
    WindowInvariant id anchor policy clock db' ∧ ∀ r ∈ db'.liveRecords id, r.createdAt ≤ now := by
  induction h with
  | refl => exact ⟨hinv, hseen⟩
  | tail _ hlast ih =>
    obtain ⟨heffect, hrecords⟩ := @Update.effect _ _ clock _ _ hlast
    refine ⟨heffect.windowInvariant hid hfits hvalid hint hnow hclock hle ih.2 ih.1, ?_⟩
    rw [Database.liveRecords, hrecords]
    exact ih.2

include hid hfits hvalid hint in
lemma ChargeInvariant.transact (hinv : ChargeInvariant id anchor policy s)
    (hmem : call ∈ s.pending) (hsees : call.Sees id s) :
      ChargeInvariant id anchor policy (s.transact loc call) := by
  obtain ⟨hnow, hle⟩ := hinv.pending call hmem
  refine ⟨?_, hinv.clock, fun call' h => hinv.pending call' (mem_of_mem_erase h)⟩
  refine commit_invariant hinv.window fun db' h => ?_
  obtain ⟨⟨db', result⟩, hcharge, rfl⟩ := Except.map_eq_ok.1 h
  obtain ⟨db₁, hupdates, hlast⟩ := effects_of_preConsume hinv.window.wellFormed hcharge
  obtain ⟨hwindow, hseen⟩ :=
    Updates.windowInvariant hid hfits hvalid hint hupdates hnow hinv.clock hle hsees hinv.window
  cases hlast with
  | refl => exact hwindow
  | single heffect =>
    exact heffect.windowInvariant hid hfits hvalid hint hnow hinv.clock hle hseen hwindow

include hid hfits hvalid hint in
lemma PreConsumeStep.chargeInvariant (h : PreConsumeStep loc (fun s call => call.Sees id s) s s')
    (hinv : ChargeInvariant id anchor policy s) : ChargeInvariant id anchor policy s' := by
  cases h with
  | tick hle hclock =>
    refine ⟨⟨hinv.window.wellFormed, hinv.window.hasPolicy, fun r hr => ?_, hinv.window.limits⟩,
      hclock, fun call h => ⟨(hinv.pending call h).1, (hinv.pending call h).2.trans hle⟩⟩
    exact ⟨(hinv.window.created r hr).1, (hinv.window.created r hr).2.trans hle⟩
  | read request =>
    exact ⟨hinv.window, hinv.clock, forall_mem_cons.2 ⟨⟨hinv.clock, le_rfl⟩, hinv.pending⟩⟩
  | transact hmem hsees => exact hinv.transact hid hfits hvalid hint hmem hsees

include hid hfits hvalid hint in
lemma PreConsumeRun.chargeInvariant (h : PreConsumeRun loc (fun s call => call.Sees id s) s s')
    (hinv : ChargeInvariant id anchor policy s) : ChargeInvariant id anchor policy s' := by
  induction h with
  | refl => exact hinv
  | tail _ hlast ih => exact hlast.chargeInvariant hid hfits hvalid hint ih

/-- As long as every transaction sees the records that are there, charges keep every window within
    its limit, and a charge reads every record that shares a window with its own. -/
theorem withinWindowLimits_of_seen {sub : UserSubscription} (hdb : s.db.WellFormed)
    (hsub : sub ∈ s.db.subscriptions) (hid : 0 < sub.id)
    (hpolicy : s.db.HasPolicy sub.id anchor policy) (hvalid : policy.invalid = false)
    (hint : ∀ w ∈ quotaRecordBackedWindows policy, w.amount ≤ maxInt64)
    (hclock : IsTimestamp s.clock) (hpending : s.pending = [])
    (hcreated : ∀ r ∈ s.db.liveRecords sub.id, IsTimestamp r.createdAt ∧ r.createdAt ≤ s.clock)
    (hlimits : s.db.WithinWindowLimits sub.id anchor policy)
    (hrun : PreConsumeRun loc (fun s call => call.Sees sub.id s) s s') :
    s'.db.WithinWindowLimits sub.id anchor policy ∧
      ∀ call ∈ s'.pending, call.Sees sub.id s' → ∀ w ∈ quotaRecordBackedWindows policy,
        ∀ used resetAt,
        recentSubscriptionWindowUsageTx s'.db sub.id call.now w anchor = .ok (used, resetAt) →
          ∀ window, w.IsWindow anchor window → s'.clock ∈ window →
            ∀ r ∈ s'.db.liveRecords sub.id, r.createdAt ∈ window →
              r ∈ windowRecords s'.db sub.id call.now w anchor := by
  have hfits := hpolicy.fiveHourFits hsub rfl hvalid
  have hinv : ChargeInvariant sub.id anchor policy s :=
    ⟨⟨hdb, hpolicy, hcreated, hlimits.windowsBounded hfits⟩, hclock, by simp [hpending]⟩
  have hinv' := PreConsumeRun.chargeInvariant hid hfits hvalid hint hrun hinv
  refine ⟨hinv'.window.limits.withinWindowLimits hfits fun r hr =>
    (hinv'.window.created r hr).1, ?_⟩
  intro call hcall hsees w hmem used resetAt hrecent window hwindow hin r hr hcr
  have hw := valid_of_mem_recordBacked hfits hmem
  obtain ⟨hnow, hle⟩ := hinv'.pending call hcall
  obtain ⟨t, ht, hiff⟩ := hwindow.exists_contains hin hinv'.clock
  rw [← hiff] at hin hcr
  -- The charge reads every record that shares a window with its own record.
  rw [windowRecords_eq hw hnow]
  simp only [mem_filter, decide_eq_true_eq]
  exact ⟨⟨hr, hsees r hr⟩, contains_now hw hnow ht (anchor_le_of_recent hid hrecent)
    (hsees r hr) hle hcr hin⟩

end

/-! ### Two charges of the hour -/

namespace Hourly

/-- The charge of a request that read the clock at `now`. -/
def charge (requestId : String) (amount now : ℤ) : PendingCharge := ⟨request requestId amount, now⟩

/-- The first of three charges has run. -/
def first : ChargeState := ChargeState.transact (fixed 0) ⟨database, 101, [charge "a" 5 100]⟩
    (charge "a" 5 100)

/-- The second one read the clock after that, and has run as well; the third one has read the
    clock. -/
def third : ChargeState :=
  let second :=
    ChargeState.transact (fixed 0) { first with clock := 102, pending := [charge "b" 5 101] }
    (charge "b" 5 101)
  { second with pending := charge "c" 5 102 :: second.pending }

lemma third_reachable :
    PreConsumeRun (fixed 0) (fun s call => call.Sees 1 s) ⟨database, 100, []⟩ third :=
  ((((((Relation.ReflTransGen.single (.read (request "a" 5))).tail
    (.tick (show (100 : ℤ) ≤ 101 by decide) (by decide))).tail
    (.transact mem_cons_self (show PendingCharge.Sees 1 _ _ from fun _ h =>
      absurd h not_mem_nil))).tail
    (.read (request "b" 5))).tail (.tick (show (101 : ℤ) ≤ 102 by decide) (by decide))).tail
    (.transact mem_cons_self (show ∀ r ∈ first.db.liveRecords 1, r.createdAt ≤
      101 by decide +kernel))).tail
    (.read (request "c" 5))

/-- Two charges have read the clock at 100, and the first of them ran at 101. -/
def late : ChargeState :=
  ChargeState.transact (fixed 0) ⟨database, 101, [charge "b" 10 100, charge "a" 10 100]⟩
    (charge "a" 10 100)

lemma late_reachable : PreConsumeRun (fixed 0) (fun _ _ => True) ⟨database, 100, []⟩ late :=
  (((Relation.ReflTransGen.single (.read (request "a" 10))).tail (.read (request "b" 10))).tail
    (.tick (show (100 : ℤ) ≤ 101 by decide) (by decide))).tail
      (.transact (mem_cons_of_mem _ mem_cons_self) trivial)

end Hourly

/-- The second charge runs after the first has committed, and the third one sees both records. -/
theorem hourly_withinWindowLimits_of_seen :
    (Hourly.third.db.liveRecords 1).map (·.createdAt) = [101, 102] ∧
      Hourly.third.db.WithinWindowLimits 1 50 Hourly.policy ∧
      ∀ w ∈ quotaRecordBackedWindows Hourly.policy, w.resetMode = .rolling →
        ∀ r ∈ Hourly.third.db.liveRecords 1, r ∈ windowRecords Hourly.third.db 1 102 w 50 := by
  have hseen :=
    withinWindowLimits_of_seen (show Database.WellFormed _ from Hourly.database_wellFormed)
    (show Hourly.subscription ∈ _ from mem_cons_self) (by decide) Hourly.database_hasPolicy
    Hourly.policy_valid Hourly.policy_fits (show IsTimestamp 100 by decide) rfl
    (fun _ h => absurd h not_mem_nil) Hourly.database_withinWindowLimits Hourly.third_reachable
  have hrecords : ∀ r ∈ Hourly.third.db.liveRecords 1, 0 < r.createdAt ∧
    r.createdAt ≤ 102 := by decide +kernel
  have hwindows : ∀ w ∈ quotaRecordBackedWindows Hourly.policy,
      (recentSubscriptionWindowUsageTx Hourly.third.db 1 102 w 50).isOk = true ∧
          102 ≤ w.windowSeconds := by
    decide +kernel
  refine ⟨by decide +kernel, hseen.1, fun w hw hmode r hr => ?_⟩
  obtain ⟨hok, hlong⟩ := hwindows w hw
  cases hrecent : recentSubscriptionWindowUsageTx Hourly.third.db 1 102 w 50 with
  | error e => simp [hrecent, Except.isOk, Except.toBool] at hok
  | ok usage =>
    have hin (c : ℤ) (hc : 0 < c ∧ c ≤ 102) : c ∈ Finset.Ioc (102 - w.windowSeconds) 102 :=
      Finset.mem_Ioc.2 (by omega)
    exact hseen.2 (Hourly.charge "c" 5 102) mem_cons_self (fun r hr => (hrecords r hr).2) w hw
      usage.1 usage.2 hrecent
      _ (.interval hmode 102) (hin _ (by decide +kernel)) r hr (hin _ (hrecords r hr))

/-- A transaction that was late does not see the record of one that came after it, and charges
    beyond the limit. -/
theorem exceeds_window_limit_of_late_transaction :
    Hourly.database.WithinWindowLimits 1 50 Hourly.policy ∧
      PreConsumeRun (fixed 0) (fun _ _ => True) ⟨Hourly.database, 100, []⟩ Hourly.late ∧
      ∃ call ∈ Hourly.late.pending, ∃ w ∈ quotaRecordBackedWindows Hourly.policy,
        (∃ r ∈ Hourly.late.db.liveRecords 1, w.Contains 50 Hourly.late.clock r.createdAt ∧
          r ∉ windowRecords Hourly.late.db 1 call.now w 50) ∧ w.amount < windowUsage w 50 101
          ((Hourly.late.transact (fixed 0) call).db.liveRecords 1) := by
  refine ⟨Hourly.database_withinWindowLimits, Hourly.late_reachable, ?_⟩
  decide +kernel

end Allrouter
