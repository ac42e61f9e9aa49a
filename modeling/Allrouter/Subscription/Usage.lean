import Allrouter.Library.Table
import Allrouter.Library.TimedSum
import Allrouter.Subscription.Period

/-!
# Window usage on the request records

Every request charged to a subscription leaves a record with its effective
amount, and the usage of a quota window is the sum over the records in it that
are not refunded. Two checks compare it with the limit:

* at admission, the usage of the window ending now
  (`recentSubscriptionWindowUsageExcludingTx`), a saturating sum;
* at settlement, that of every window the settled record belongs to
  (`quotaWindowTargetAllowedTx`). A rolling window is swept over the critical
  instants by two pointers.

The results say that both sums are the usage they stand for:
`usageFold_fst`, and `sweep_eq_true_iff` with its corollary
`quotaWindowTargetAllowedTx_rolling`.
-/

namespace Allrouter

open TimedSum List CanonicalWindow

/-- The states of a record; the column can hold other texts. -/
inductive RecordStatus
  | consumed
  | refunded
  | other (text : String)
  deriving DecidableEq

/-- A request charged to a subscription. -/
structure SubscriptionPreConsumeRecord where
  requestId : String
  (userId userSubscriptionId : ℤ)
  modelName : String := ""
  quotaType : ℤ := 0
  preConsumed : ℤ
  /-- The current usage; omitted on old rows, where `preConsumed` stands for it. -/
  settledAmount : Option ℤ
  settledAt : ℤ := 0
  status : RecordStatus
  createdAt : ℤ
  deriving DecidableEq

/-- The usage a record stands for. -/
def effectivePreConsumeAmount (record : SubscriptionPreConsumeRecord) : ℤ :=
  match record.settledAmount with
  | some amount => if amount < 0 then 0 else amount
  | none => if record.preConsumed < 0 then 0 else record.preConsumed

lemma effective_nonneg (record : SubscriptionPreConsumeRecord) :
    0 ≤ effectivePreConsumeAmount record := by
  unfold effectivePreConsumeAmount
  split <;> split_ifs <;> omega

lemma effective_of_settled {record : SubscriptionPreConsumeRecord} {a : ℤ}
    (h : record.settledAmount = some a) (ha : 0 ≤ a) : effectivePreConsumeAmount record = a := by
  rw [effectivePreConsumeAmount, h]
  exact if_neg (not_lt.2 ha)

/-- The row of a user. -/
structure SubscriptionUser where
  id : ℤ
  providerId : ℤ := 0
  deriving DecidableEq

/-- The tables that subscriptions are kept in. The request id is a unique index of
    the records, which are listed in the order of their creation. -/
structure Database where
  users : List SubscriptionUser
  plans : List SubscriptionPlan
  subscriptions : List UserSubscription
  records : List SubscriptionPreConsumeRecord
  deriving DecidableEq

variable (db : Database) (subscriptionId now : ℤ)

/-- The records of a subscription that are not refunded. -/
def Database.liveRecords : List SubscriptionPreConsumeRecord :=
  db.records.filter fun r => r.userSubscriptionId = subscriptionId ∧ r.status ≠ .refunded

/-- Those of other requests. -/
def Database.otherLiveRecords (requestId : String) : List SubscriptionPreConsumeRecord :=
  db.records.filter fun r =>
    r.userSubscriptionId = subscriptionId ∧ r.status ≠ .refunded ∧ r.requestId ≠ requestId

/-! ## Usage of the window ending now -/

/-- One more record on the usage so far and on the time at which some of it expires. -/
def usageStep (window : SubscriptionQuotaWindowPolicy) (acc : ℤ × ℤ)
    (record : SubscriptionPreConsumeRecord) : ℤ × ℤ :=
  let amount := effectivePreConsumeAmount record
  if amount ≤ 0 then acc
  else
    let used := if acc.1 > maxInt64 - amount then maxInt64 else acc.1 + amount
    match window.resetMode with
    | .calendar => (used, acc.2)
    | .rolling =>
      let expires := (subscriptionSafeAddInt64 record.createdAt window.windowSeconds).getD maxInt64
      (used, if acc.2 = 0 ∨ expires < acc.2 then expires else acc.2)

/-- The records of the window that `now` lies in, up to `now`. -/
def windowRecords (window : SubscriptionQuotaWindowPolicy) (anchor : ℤ) :
    List SubscriptionPreConsumeRecord :=
  let bounds := quotaWindowBounds window now anchor
  (db.liveRecords subscriptionId).filter fun r =>
    match window.resetMode with
    | .calendar => bounds.1 ≤ r.createdAt ∧ r.createdAt < bounds.2 ∧ r.createdAt ≤ now
    | .rolling => bounds.1 < r.createdAt ∧ r.createdAt ≤ now

/-- The usage of the window that `now` lies in, and the time at which it resets or
    some of it expires. -/
def recentSubscriptionWindowUsageTx (window : SubscriptionQuotaWindowPolicy) (anchor : ℤ) :
    Except Error (ℤ × ℤ) :=
  if subscriptionId ≤ 0 then .ok (0, 0)
  else if window.windowSeconds ≤ 0 ∨ window.windowSeconds > maxSubscriptionQuotaWindowSeconds then
    .error (.text "invalid subscription quota window duration")
  else if window.unit = .custom ∧ window.resetMode = .calendar ∧ (anchor ≤ 0 ∨ anchor > now) then
    .error (.text "invalid subscription quota window anchor")
  else
    let resetAt :=
      match window.resetMode with
      | .calendar => (quotaWindowBounds window now anchor).2
      | .rolling => 0
    .ok ((windowRecords db subscriptionId now window anchor).foldl (usageStep window) (0, resetAt))

def recentSubscriptionUsageTx (windowSeconds : ℤ) : Except Error (ℤ × ℤ) :=
  recentSubscriptionWindowUsageTx db subscriptionId now (fiveHourWindow 0 windowSeconds) 0

/-! ## Usage of the windows of a settled record -/

/-- One more record on the usage of the others, as long as it stays within what
    is left to them. -/
def addRecord (remainingForOthers used : ℤ) (record : SubscriptionPreConsumeRecord) : Option ℤ :=
  let amount := effectivePreConsumeAmount record
  if amount ≤ 0 then some used
  else if used > remainingForOthers ∨ amount > remainingForOthers - used then none
  else some (used + amount)

/-- The records stay within what is left to them. -/
def recordsFit (remainingForOthers : ℤ) (records : List SubscriptionPreConsumeRecord) : Bool :=
  (records.foldlM (addRecord remainingForOthers) 0).isSome

/-- The records of the sweep: those in the window, between the left and the right
    pointer, their usage, and those ahead of it. -/
structure Sweep where
  inside : List SubscriptionPreConsumeRecord
  used : ℤ
  ahead : List SubscriptionPreConsumeRecord

/-- Moves the right pointer past the records up to `timestamp`. -/
def addUntil (remainingForOthers timestamp : ℤ) (inside : List SubscriptionPreConsumeRecord)
    (used : ℤ) :
    List SubscriptionPreConsumeRecord → Option Sweep
  | [] => some ⟨inside, used, []⟩
  | record :: ahead =>
    if record.createdAt ≤ timestamp then
      match addRecord remainingForOthers used record with
      | none => none
      | some used => addUntil remainingForOthers timestamp (inside ++ [record]) used ahead
    else some ⟨inside, used, record :: ahead⟩

/-- Moves the left pointer past the records up to `windowStart`. -/
def expireUntil (windowStart : ℤ) (used : ℤ) :
    List SubscriptionPreConsumeRecord → List SubscriptionPreConsumeRecord × ℤ
  | [] => ([], used)
  | record :: inside =>
    if record.createdAt ≤ windowStart then
      let amount := effectivePreConsumeAmount record
      expireUntil windowStart (if amount > 0 then max 0 (used - amount) else used) inside
    else (record :: inside, used)

/-- Sweeps the window over the records ahead, one critical instant after the
    other; every round takes at least one record, so their number is fuel enough. -/
def sweep (windowSeconds remainingForOthers : ℤ) : ℕ → Sweep → Bool
  | _, ⟨_, _, []⟩ => true
  | 0, _ => false
  | fuel + 1, ⟨inside, used, record :: ahead⟩ =>
    let criticalTime := record.createdAt
    let windowStart := (subscriptionSafeSubInt64 criticalTime windowSeconds).getD minInt64
    let (inside, used) := expireUntil windowStart used inside
    match addUntil remainingForOthers criticalTime inside used (record :: ahead) with
    | none => false
    | some s => sweep windowSeconds remainingForOthers fuel s

/-- The records stay within what is left to them in every interval around
    `recordTime`: the one that ends then, and those of the later records. -/
def rollingFits (windowSeconds remainingForOthers recordTime : ℤ)
    (records : List SubscriptionPreConsumeRecord) : Bool :=
  match addUntil remainingForOthers recordTime [] 0 records with
  | none => false
  | some s => sweep windowSeconds remainingForOthers s.ahead.length s

/-- The other records around a settled one, in the order of their creation. -/
def surroundingRecords (windowSeconds : ℤ) (record : SubscriptionPreConsumeRecord) (now : ℤ) :
    List SubscriptionPreConsumeRecord :=
  let lower := (subscriptionSafeSubInt64 record.createdAt windowSeconds).getD minInt64
  let upper := (subscriptionSafeAddInt64 record.createdAt windowSeconds).getD maxInt64
  ((db.otherLiveRecords subscriptionId record.requestId).filter fun r =>
    lower < r.createdAt ∧ r.createdAt < upper ∧ r.createdAt ≤ now).insertionSort
      fun r r' => r.createdAt ≤ r'.createdAt

/-- The settled record may amount to `target` in every window it belongs to. -/
def quotaWindowTargetAllowedTx (window : SubscriptionQuotaWindowPolicy) (anchor : ℤ)
    (record : SubscriptionPreConsumeRecord) (target now : ℤ) : Except Error Bool :=
  if subscriptionId ≤ 0 then .error (.text "invalid subscription quota settlement window")
  else if target < 0 then .error (.text "actual amount must be >= 0")
  else if window.amount ≤ 0 then .ok true
  else if window.windowSeconds ≤ 0 ∨ window.windowSeconds > maxSubscriptionQuotaWindowSeconds then
    .error (.text "invalid subscription quota window duration")
  else if record.createdAt ≤ 0 ∨ record.createdAt > now then
    .error (.text "invalid subscription quota record time")
  else if window.unit = .custom ∧ window.resetMode = .calendar ∧
      (anchor ≤ 0 ∨ anchor > record.createdAt) then
    .error (.text "invalid subscription quota window anchor")
  else if target > window.amount then .ok false
  else
    let remainingForOthers := window.amount - target
    match window.resetMode with
    | .calendar =>
      let bounds := quotaWindowBounds window record.createdAt anchor
      .ok (recordsFit remainingForOthers
        ((db.otherLiveRecords subscriptionId record.requestId).filter fun r =>
          bounds.1 ≤ r.createdAt ∧ r.createdAt < bounds.2 ∧ r.createdAt ≤ now))
    | .rolling =>
      .ok (rollingFits window.windowSeconds remainingForOthers record.createdAt
        (surroundingRecords db subscriptionId window.windowSeconds record now))

/-! ## The sums are the usage -/

def usageSum (records : List SubscriptionPreConsumeRecord) : ℤ :=
  (records.map effectivePreConsumeAmount).sum

@[simp]
lemma usageSum_nil : usageSum [] = 0 := rfl

@[simp]
lemma usageSum_cons (r : SubscriptionPreConsumeRecord) (l : List SubscriptionPreConsumeRecord) :
    usageSum (r :: l) = effectivePreConsumeAmount r + usageSum l := by
  simp [usageSum]

@[simp]
lemma usageSum_append (l m : List SubscriptionPreConsumeRecord) :
    usageSum (l ++ m) = usageSum l + usageSum m := by
  simp [usageSum]

lemma usageSum_nonneg (l : List SubscriptionPreConsumeRecord) : 0 ≤ usageSum l :=
  sum_nonneg fun _ h => by
    obtain ⟨r, -, rfl⟩ := mem_map.1 h
    exact effective_nonneg r

/-- The usage at admission is the sum, cut off at the largest `int64`. -/
lemma usageFold_fst (window : SubscriptionQuotaWindowPolicy) (l : List SubscriptionPreConsumeRecord)
    {acc : ℤ × ℤ} (h : acc.1 ≤ maxInt64) :
      (l.foldl (usageStep window) acc).1 = min maxInt64 (acc.1 + usageSum l) := by
  induction l generalizing acc with
  | nil => simp [h]
  | cons r l ih =>
    have hr := effective_nonneg r
    have hl := usageSum_nonneg l
    have hstep : (usageStep window acc r).1 =
        min maxInt64 (acc.1 + effectivePreConsumeAmount r) := by
      unfold usageStep
      cases window.resetMode <;> dsimp only <;> split_ifs <;> omega
    rw [foldl_cons, ih (hstep ▸ min_le_left _ _), usageSum_cons]
    omega

variable {remaining t used windowSeconds : ℤ}

lemma addRecord_eq (h : used ≤ remaining) (r : SubscriptionPreConsumeRecord) :
    addRecord remaining used r =
      if used + effectivePreConsumeAmount r ≤
        remaining then some (used + effectivePreConsumeAmount r)
      else none := by
  have hr := effective_nonneg r
  unfold addRecord
  dsimp only
  split_ifs <;> first | rfl | omega | exact congrArg some (by omega)

/-- Adding the records one by one fails exactly when their sum is too large. -/
lemma foldlM_addRecord (l : List SubscriptionPreConsumeRecord) (h : used ≤ remaining) :
    l.foldlM (addRecord remaining) used = if used + usageSum l ≤
      remaining then some (used + usageSum l) else none := by
  induction l generalizing used with
  | nil => simp [h]
  | cons r l ih =>
    have hl := usageSum_nonneg l
    rw [foldlM_cons, usageSum_cons, ← add_assoc, addRecord_eq h]
    by_cases hfit : used + effectivePreConsumeAmount r ≤ remaining
    · rw [if_pos hfit, Option.bind_eq_bind, Option.bind_some, ih hfit]
    · rw [if_neg hfit, if_neg (by omega)]
      rfl

/-! ### The sweep -/

lemma addUntil_eq {timestamp : ℤ} (inside ahead : List SubscriptionPreConsumeRecord)
    (h : used ≤ remaining) :
    addUntil remaining timestamp inside used ahead =
      if used + usageSum (ahead.takeWhile (·.createdAt ≤ timestamp)) ≤ remaining then
        some ⟨inside ++ ahead.takeWhile (·.createdAt ≤ timestamp),
          used + usageSum (ahead.takeWhile (·.createdAt ≤ timestamp)),
            ahead.dropWhile (·.createdAt ≤ timestamp)⟩
      else none := by
  induction ahead generalizing inside used with
  | nil => simp [addUntil, h]
  | cons r ahead ih =>
    have hl := usageSum_nonneg (ahead.takeWhile (·.createdAt ≤ timestamp))
    rw [addUntil]
    by_cases hr : r.createdAt ≤ timestamp
    · rw [if_pos hr, takeWhile_cons_of_pos (by simpa using hr),
        dropWhile_cons_of_pos (by simpa using hr), addRecord_eq h, usageSum_cons, ← add_assoc]
      by_cases hfit : used + effectivePreConsumeAmount r ≤ remaining
      · rw [if_pos hfit]
        simp [ih _ hfit]
      · rw [if_neg hfit, if_neg (by omega)]
    · rw [if_neg hr, takeWhile_cons_of_neg (by simpa using hr),
        dropWhile_cons_of_neg (by simpa using hr)]
      simp [h]

/-- The usage left after some records expire is that of the records left: it
    never has to be cut off at zero. -/
lemma expireUntil_eq (windowStart : ℤ) (inside : List SubscriptionPreConsumeRecord) :
    expireUntil windowStart (usageSum inside) inside =
      (inside.dropWhile (·.createdAt ≤ windowStart),
        usageSum (inside.dropWhile (·.createdAt ≤ windowStart))) := by
  induction inside with
  | nil => rfl
  | cons r inside ih =>
    have hr := effective_nonneg r
    have hl := usageSum_nonneg inside
    rw [expireUntil]
    by_cases hexp : r.createdAt ≤ windowStart
    · rw [if_pos hexp, dropWhile_cons_of_pos (by simpa using hexp), ← ih, usageSum_cons]
      refine congrArg (expireUntil windowStart · inside) ?_
      split_ifs <;> omega
    · rw [if_neg hexp, dropWhile_cons_of_neg (by simpa using hexp)]

/-- The usage of the interval `(t - windowSeconds, t]`. -/
def trailingUsage (windowSeconds t : ℤ) (records : List SubscriptionPreConsumeRecord) : ℤ :=
  trailing (·.createdAt) effectivePreConsumeAmount windowSeconds t records

/-- At `t`, the window holds the records `inside` it: those `gone` have left it, and
    those `ahead` are still to come. -/
lemma trailingUsage_eq_usageSum {gone inside ahead : List SubscriptionPreConsumeRecord}
    (hgone : ∀ r ∈ gone, r.createdAt ≤ t - windowSeconds)
    (hinside : ∀ r ∈ inside, t - windowSeconds < r.createdAt ∧ r.createdAt ≤ t)
    (hahead : ∀ r ∈ ahead, t < r.createdAt) :
    trailingUsage windowSeconds t (gone ++ inside ++ ahead) = usageSum inside := by
  have hzero : total (·.createdAt) effectivePreConsumeAmount
      (fun u => t - windowSeconds < u ∧ u ≤ t) gone = 0 :=
    total_eq_zero fun r hr h => absurd h.1 (not_lt.2 (hgone r hr))
  have hzero' : total (·.createdAt) effectivePreConsumeAmount
      (fun u => t - windowSeconds < u ∧ u ≤ t) ahead = 0 :=
    total_eq_zero fun r hr h => absurd h.2 (not_le.2 (hahead r hr))
  rw [trailingUsage, trailing, total_append, total_append, hzero, hzero',
    total_eq_sum hinside, usageSum, zero_add, add_zero]

/-- The start of a window that ends at a positive `int64` is an `int64`. -/
lemma safeSub_window (ht : 0 < t ∧ t ≤ maxInt64)
    (hW : 0 < windowSeconds) (hWle : windowSeconds ≤ maxSubscriptionQuotaWindowSeconds) :
    subscriptionSafeSubInt64 t windowSeconds = some (t - windowSeconds) := by
  have hmax := two_mul_maxWindow_lt
  rw [safeSub_eq (by unfold IsInt64 minInt64; omega) (by unfold minInt64; omega),
    if_pos (by unfold IsInt64 minInt64; omega)]

/-- The sweep succeeds exactly when the usage at every record ahead stays within
    what remains. The records are `before ++ inside ++ ahead`, in the order of
    their creation, where those `before` have left the window for good. -/
lemma sweep_eq_true_iff (hW : 0 < windowSeconds)
    (hWle : windowSeconds ≤ maxSubscriptionQuotaWindowSeconds) (fuel : ℕ)
    (before inside ahead : List SubscriptionPreConsumeRecord)
    (hsorted : (before ++ inside ++ ahead).Pairwise fun r r' => r.createdAt ≤ r'.createdAt)
    (hused : usageSum inside ≤ remaining)
    (hbefore : ∀ r ∈ before, ∀ r' ∈ ahead, r.createdAt ≤ r'.createdAt - windowSeconds)
    (htime : ∀ r ∈ ahead, 0 < r.createdAt ∧ r.createdAt ≤ maxInt64) (hfuel : ahead.length ≤ fuel) :
    sweep windowSeconds remaining fuel ⟨inside, usageSum inside, ahead⟩ = true ↔
      ∀ r ∈ ahead, trailingUsage windowSeconds r.createdAt (before ++ inside ++ ahead) ≤
        remaining := by
  induction fuel generalizing before inside ahead with
  | zero =>
    obtain rfl : ahead = [] := eq_nil_of_length_eq_zero (by omega)
    simp [sweep]
  | succ fuel ih =>
    cases ahead with
    | nil => simp [sweep]
    | cons r ahead =>
      have hstart := safeSub_window (htime r mem_cons_self) hW hWle
      obtain ⟨hbi, ha, hcross⟩ := pairwise_append.1 hsorted
      obtain ⟨-, hi, -⟩ := pairwise_append.1 hbi
      have hfirst : ∀ x ∈ r :: ahead, r.createdAt ≤ x.createdAt := by
        rw [pairwise_cons] at ha
        exact forall_mem_cons.2 ⟨le_rfl, ha.1⟩
      -- The records inside split into the expired ones and the rest, those ahead
      -- into the batch created with `r` and the rest.
      obtain ⟨E, I, hE, hI, hEI, hEle, hIlt⟩ := exists_split (t := r.createdAt - windowSeconds) hi
      obtain ⟨B, A, hB, hA, hBA, hBle, hAlt⟩ := exists_split (t := r.createdAt) ha
      have hIle : ∀ x ∈ I, x.createdAt ≤ r.createdAt := fun x hx =>
        hcross x (mem_append_right _ (hEI ▸ mem_append_right _ hx)) r mem_cons_self
      have hBeq : ∀ x ∈ B, x.createdAt = r.createdAt := fun x hx =>
        le_antisymm (hBle x hx) (hfirst x (hBA ▸ mem_append_left _ hx))
      have hAsub : ∀ x ∈ A, x ∈ r :: ahead := fun x hx => hBA ▸ mem_append_right _ hx
      have hlist : before ++ inside ++ r :: ahead = (before ++ E) ++ (I ++ B) ++ A := by
        rw [← hEI, ← hBA]
        simp
      have htrail : trailingUsage windowSeconds r.createdAt (before ++ inside ++ r :: ahead) =
          usageSum (I ++ B) := by
        rw [hlist]
        refine trailingUsage_eq_usageSum ?_ ?_ hAlt
        · exact forall_mem_append.2 ⟨fun x hx => hbefore x hx r mem_cons_self, hEle⟩
        · refine forall_mem_append.2 ⟨fun x hx => ⟨hIlt x hx, hIle x hx⟩, fun x hx => ?_⟩
          rw [hBeq x hx]
          omega
      have hIused : usageSum I ≤ remaining := by
        have := usageSum_nonneg E
        rw [← hEI, usageSum_append] at hused
        omega
      simp only [sweep, hstart, Option.getD_some, expireUntil_eq, hI, addUntil_eq _ _ hIused, hB,
        hA, ← usageSum_append]
      by_cases hfit : usageSum (I ++ B) ≤ remaining
      · have hlen : A.length ≤ fuel := by
          have hBpos : 0 < B.length := by rw [← hB]; simp
          have := congrArg length hBA
          simp only [length_append] at this hfuel
          omega
        have hgone : ∀ x ∈ before ++ E, ∀ y ∈ A, x.createdAt ≤ y.createdAt - windowSeconds := by
          refine forall_mem_append.2 ⟨fun x hx y hy => hbefore x hx y (hAsub y hy),
            fun x hx y hy => ?_⟩
          have := hEle x hx
          have := hAlt y hy
          omega
        rw [if_pos hfit]
        rw [ih (before ++ E) (I ++ B) A (by rwa [← hlist]) hfit hgone (fun x hx =>
          htime x (hAsub x hx)) hlen, hlist]
        refine ⟨fun h x hx => ?_, fun h x hx => h x (hAsub x hx)⟩
        rcases mem_append.1 (hBA ▸ hx) with hx | hx
        · rw [← hlist, hBeq x hx, htrail]
          exact hfit
        · exact h x hx
      · rw [if_neg hfit]
        refine iff_of_false (by simp) fun h => hfit ?_
        rw [← htrail]
        exact h r mem_cons_self

/-- The records around `recordTime` fit in exactly when they do at every instant
    until it leaves the window. -/
lemma rollingFits_iff {recordTime : ℤ} (hW : 0 < windowSeconds)
    (hWle : windowSeconds ≤ maxSubscriptionQuotaWindowSeconds) (hremaining : 0 ≤ remaining)
    {records : List SubscriptionPreConsumeRecord}
    (hsorted : records.Pairwise fun r r' => r.createdAt ≤ r'.createdAt)
    (haround : ∀ r ∈ records, recordTime - windowSeconds < r.createdAt ∧
    r.createdAt < recordTime + windowSeconds)
    (htime : ∀ r ∈ records, recordTime < r.createdAt → 0 < r.createdAt ∧ r.createdAt ≤ maxInt64) :
    rollingFits windowSeconds remaining recordTime records = true ↔
      ∀ t, recordTime ≤ t → t < recordTime + windowSeconds → trailingUsage windowSeconds t records ≤
        remaining := by
  obtain ⟨B, A, hB, hA, hBA, hBle, hAlt⟩ := exists_split (t := recordTime) hsorted
  have hAmem : ∀ r ∈ A, r ∈ records := fun r hr => hBA ▸ mem_append_right _ hr
  have hfirst : trailingUsage windowSeconds recordTime records = usageSum B := by
    rw [← hBA]
    refine trailingUsage_eq_usageSum (forall_mem_nil _) (fun r hr => ⟨?_, hBle r hr⟩) hAlt
    exact (haround r (hBA ▸ mem_append_left _ hr)).1
  have hcritical : (∀ t, recordTime ≤ t → t < recordTime + windowSeconds →
      trailingUsage windowSeconds t records ≤ remaining) ↔ usageSum B ≤ remaining ∧
        ∀ r ∈ A, trailingUsage windowSeconds r.createdAt records ≤ remaining := by
    rw [← hfirst]
    refine (trailing_le_iff hW fun r _ => effective_nonneg r).trans
      (and_congr_right fun _ => ⟨fun h r hr => ?_, fun h r hr hlt _ => ?_⟩)
    · exact h r (hAmem r hr) (hAlt r hr) (haround r (hAmem r hr)).2
    · rcases mem_append.1 (hBA ▸ hr) with hr | hr
      · exact absurd (hBle r hr) (not_le.2 hlt)
      · exact h r hr
  rw [hcritical, rollingFits, addUntil_eq _ _ hremaining, hB, hA, zero_add, nil_append]
  by_cases hfit : usageSum B ≤ remaining
  · have hsweep := sweep_eq_true_iff hW hWle A.length [] B A (by simpa [hBA] using hsorted) hfit
      (fun _ h => absurd h not_mem_nil) (fun r hr => htime r (hAmem r hr) (hAlt r hr)) le_rfl
    rw [nil_append, hBA] at hsweep
    rw [if_pos hfit, hsweep, and_iff_right hfit]
  · rw [if_neg hfit]
    simp [hfit]

/-! ## Windows over the records -/

/-- A record created at `created` lies in the window at `t`: the interval that ends
    at `t`, or the bucket of `t`. -/
def SubscriptionQuotaWindowPolicy.Contains (w : SubscriptionQuotaWindowPolicy)
    (anchor t created : ℤ) :
    Prop :=
  match w.resetMode with
  | .rolling => t - w.windowSeconds < created ∧ created ≤ t
  | .calendar =>
    (quotaWindowBounds w t anchor).1 ≤ created ∧ created < (quotaWindowBounds w t anchor).2

section

variable {w : SubscriptionQuotaWindowPolicy} {anchor t c : ℤ}

lemma contains_rolling (hmode : w.resetMode = .rolling) :
    w.Contains anchor t c ↔ t - w.windowSeconds < c ∧ c ≤ t := by
  rw [SubscriptionQuotaWindowPolicy.Contains, hmode]

lemma contains_calendar (hmode : w.resetMode = .calendar) : w.Contains anchor t c ↔
      (quotaWindowBounds w t anchor).1 ≤ c ∧ c < (quotaWindowBounds w t anchor).2 := by
  rw [SubscriptionQuotaWindowPolicy.Contains, hmode]

instance : DecidablePred (w.Contains anchor t) := fun _ =>
  match h : w.resetMode with
  | .rolling => decidable_of_iff _ (contains_rolling h).symm
  | .calendar => decidable_of_iff _ (contains_calendar h).symm

variable (w anchor t) in
/-- What is used of the window that `t` lies in. -/
def windowUsage (records : List SubscriptionPreConsumeRecord) : ℤ :=
  total (·.createdAt) effectivePreConsumeAmount (w.Contains anchor t) records

lemma windowUsage_rolling (hmode : w.resetMode = .rolling) (l : List SubscriptionPreConsumeRecord) :
    windowUsage w anchor t l = trailingUsage w.windowSeconds t l := by
  rw [trailingUsage]
  exact total_congr fun r _ => contains_rolling hmode

/-- Before its anchor, a custom calendar window is empty. -/
lemma anchor_le_of_contains (hmode : w.resetMode = .calendar) (hunit : w.unit = .custom)
    (h : w.Contains anchor t c) : 0 < anchor ∧ anchor ≤ t := by
  rw [contains_calendar hmode] at h
  by_contra hanchor
  have hnone : calendarBounds w t anchor = none := by
    simp only [calendarBounds, hunit, customBounds]
    rw [if_pos (by omega)]
  simp only [quotaWindowBounds, hmode, hnone] at h
  split_ifs at h <;> omega

lemma bounds_eq_of_contains (hw : w.Valid) (hmode : w.resetMode = .calendar) (ht : IsTimestamp t)
    (hc : IsTimestamp c) (hanchor : w.unit = .custom → 0 < anchor ∧ anchor ≤ c)
    (h : w.Contains anchor t c) : quotaWindowBounds w c anchor = quotaWindowBounds w t anchor := by
  obtain ⟨g, hg⟩ : ∃ g, grid ⟨w, hw.canonical_of_calendar hmode⟩ anchor = g := ⟨_, rfl⟩
  have hbounds := quotaWindowBounds_calendar ⟨w, hw.canonical_of_calendar hmode⟩ hmode ht
      fun hunit =>
    anchor_le_of_contains hmode hunit h
  rw [contains_calendar hmode, hbounds, hg] at h
  rw [hbounds, hg, quotaWindowBounds_calendar ⟨w, hw.canonical_of_calendar hmode⟩ hmode hc hanchor,
    hg, g.start_eq_of_mem h.1 h.2, g.stop_eq_of_mem h.1 h.2]

/-- Admission reads the records made up to `now` in the window at `now`. -/
lemma windowRecords_eq (hw : w.Valid) {now : ℤ} (hnow : IsTimestamp now) (db : Database) (id : ℤ) :
    windowRecords db id now w anchor = ((db.liveRecords id).filter (·.createdAt ≤ now)).filter
        fun r => w.Contains anchor now r.createdAt := by
  rw [filter_filter]
  refine filter_congr fun r _ => ?_
  cases hmode : w.resetMode
  · simp only [quotaWindowBounds_rolling hmode hw.windowSeconds_pos hw.windowSeconds_le hnow,
      contains_rolling hmode, ← Bool.decide_and, decide_eq_decide]
    omega
  · simp only [contains_calendar hmode, ← Bool.decide_and, decide_eq_decide]
    omega

/-- The usage that admission compares with the limit is that of the records made
    up to `now` in the window at `now`. -/
lemma recentSubscriptionWindowUsageTx_fst {db : Database} {id now used resetAt : ℤ} (hid : 0 < id)
    (hw : w.Valid) (hnow : IsTimestamp now)
    (h : recentSubscriptionWindowUsageTx db id now w anchor = .ok (used, resetAt)) :
    used = min maxInt64
      (windowUsage w anchor now ((db.liveRecords id).filter (·.createdAt ≤ now))) := by
  have hpos := hw.windowSeconds_pos
  have hle := hw.windowSeconds_le
  rw [recentSubscriptionWindowUsageTx, if_neg (by omega)] at h
  split_ifs at h
  have hused := congrArg Prod.fst (Except.ok.inj h)
  rw [usageFold_fst w _ maxInt64_nonneg, zero_add, windowRecords_eq hw hnow, usageSum,
    sum_filter] at hused
  exact hused.symm

section

variable {db : Database} {id target now W : ℤ} {record : SubscriptionPreConsumeRecord}

lemma quotaWindowTargetAllowedTx_guards (hid : 0 < id) (hw : w.Valid) (htarget : 0 ≤ target)
    (hc : 0 < record.createdAt) (hle : record.createdAt ≤ now)
    (hanchor : w.unit = .custom → w.resetMode = .calendar → 0 < anchor ∧ anchor ≤ record.createdAt)
    (hamount : target ≤ w.amount) : quotaWindowTargetAllowedTx db id w anchor record target now =
      match w.resetMode with
      | .calendar =>
        .ok (recordsFit (w.amount - target)
            ((db.otherLiveRecords id record.requestId).filter fun r =>
            (quotaWindowBounds w record.createdAt anchor).1 ≤ r.createdAt ∧
              r.createdAt < (quotaWindowBounds w record.createdAt anchor).2 ∧
                  r.createdAt ≤ now)) | .rolling =>
        .ok (rollingFits w.windowSeconds (w.amount - target) record.createdAt
          (surroundingRecords db id w.windowSeconds record now)) := by
  have h₁ := hw.amount_pos
  have h₂ := hw.windowSeconds_pos
  have h₃ := hw.windowSeconds_le
  have h₅ : ¬ (w.unit = .custom ∧ w.resetMode = .calendar ∧
      (anchor ≤ 0 ∨ anchor > record.createdAt)) :=
    fun h => by
      have := hanchor h.1 h.2.1
      omega
  rw [quotaWindowTargetAllowedTx, if_neg (by omega), if_neg (by omega), if_neg (by omega),
    if_neg (by omega), if_neg (by omega), if_neg h₅, if_neg (by omega)]

lemma target_le_of_allowed (hw : w.Valid)
    (h : quotaWindowTargetAllowedTx db id w anchor record target now = .ok true) :
      target ≤ w.amount := by
  have := hw.amount_pos
  rw [quotaWindowTargetAllowedTx] at h
  split_ifs at h with h₁ h₂ h₃ h₄ h₅ h₆ h₇
  · omega
  · simp at h
  · omega

/-- The end of the interval that is searched, also where it is cut off at the last
    `int64`, comes after the same records up to `now`. -/
lemma lt_upper_iff {c t : ℤ} (hc : 0 < c) (hW : 0 < W) (hle : c ≤ now) (hnow : now < maxInt64)
    (ht : t ≤ now) : t < (subscriptionSafeAddInt64 c W).getD maxInt64 ↔ t < c + W := by
  rw [safeAdd_eq (by unfold IsInt64 minInt64; omega)]
  split_ifs with hfits
  · rfl
  · rw [Option.getD_none]
    unfold IsInt64 minInt64 at hfits
    omega

/-- On a rolling window, the settlement check is that every interval the record
    lies in has room for the target. -/
lemma quotaWindowTargetAllowedTx_rolling (hid : 0 < id) (hw : w.Valid)
    (hmode : w.resetMode = .rolling) (htarget : 0 ≤ target) (hc : 0 < record.createdAt)
    (hle : record.createdAt ≤ now) (hnow : now < maxInt64) (hamount : target ≤ w.amount) :
    quotaWindowTargetAllowedTx db id w anchor record target now = .ok true ↔
      ∀ t, record.createdAt ≤ t → t < record.createdAt + w.windowSeconds →
        trailingUsage w.windowSeconds t
          ((db.otherLiveRecords id record.requestId).filter (·.createdAt ≤ now)) ≤
            w.amount - target := by
  have hpos := hw.windowSeconds_pos
  have hWle := hw.windowSeconds_le
  have hlower := safeSub_window ⟨hc, by omega⟩ hpos hWle
  obtain ⟨S, hS⟩ : ∃ S, surroundingRecords db id w.windowSeconds record now = S := ⟨_, rfl⟩
  obtain ⟨O, hO⟩ : ∃ O, (db.otherLiveRecords id record.requestId).filter (·.createdAt ≤ now) =
    O := ⟨_, rfl⟩
  have hperm : S.Perm (O.filter fun r => record.createdAt - w.windowSeconds < r.createdAt ∧
      r.createdAt < record.createdAt + w.windowSeconds) := by
    rw [← hS, ← hO, surroundingRecords, filter_filter, hlower]
    refine (perm_insertionSort _ _).trans (List.Perm.of_eq (filter_congr fun r _ => ?_))
    simp only [← Bool.decide_and, decide_eq_decide]
    rw [and_assoc]
    refine and_congr_right fun _ => and_congr_left fun hr => ?_
    exact lt_upper_iff hc hpos hle hnow hr
  have hsorted : S.Pairwise fun r r' => r.createdAt ≤ r'.createdAt :=
    hS ▸ pairwise_insertionSort _ _
  have hmem : ∀ r ∈ S, r ∈ O ∧ record.createdAt - w.windowSeconds < r.createdAt ∧
      r.createdAt < record.createdAt + w.windowSeconds := fun r hr => by
    simpa using mem_filter.1 (hperm.mem_iff.1 hr)
  have htime : ∀ r ∈ S, record.createdAt < r.createdAt → 0 < r.createdAt ∧ r.createdAt ≤ maxInt64 :=
    fun r hr hlt => by
      have := (mem_filter.1 (hO ▸ (hmem r hr).1)).2
      exact ⟨hc.trans hlt, (of_decide_eq_true this).trans hnow.le⟩
  -- On the intervals in question, the surrounding records are all that count.
  have husage : ∀ t, record.createdAt ≤ t → t < record.createdAt + w.windowSeconds →
      trailingUsage w.windowSeconds t O = trailingUsage w.windowSeconds t S := by
    intro t ht₁ ht₂
    rw [trailingUsage, trailingUsage, trailing, trailing, total_perm hperm, total_filter_of_imp]
    simp only [decide_eq_true_eq]
    omega
  rw [quotaWindowTargetAllowedTx_guards hid hw htarget hc hle (fun _ h => by simp [hmode] at h)
    hamount, hmode, hS, hO]
  refine Iff.trans (by simp) ((rollingFits_iff hpos hWle (sub_nonneg.2 hamount) hsorted
    (fun r hr => (hmem r hr).2) htime).trans (forall_congr' fun t => ?_))
  exact imp_congr_right fun h₁ => imp_congr_right fun h₂ => by rw [husage t h₁ h₂]

lemma trailingUsage_filter (h : t ≤ now) (l : List SubscriptionPreConsumeRecord) :
    trailingUsage W t (l.filter (·.createdAt ≤ now)) = trailingUsage W t l := by
  rw [trailingUsage, trailingUsage, trailing, trailing, total_filter_of_imp]
  simp only [decide_eq_true_eq]
  omega

/-- After `now` the usage of the records made up to `now` only falls. -/
lemma trailingUsage_after (h : now ≤ t) (l : List SubscriptionPreConsumeRecord) :
    trailingUsage W t (l.filter (·.createdAt ≤ now)) ≤ trailingUsage W now l := by
  rw [← trailingUsage_filter (le_refl now) l, trailingUsage, trailingUsage]
  refine total_mono (fun r _ => effective_nonneg r) fun r hmem hr => ?_
  have := of_decide_eq_true (mem_filter.1 hmem).2
  omega

/-- On a rolling window with a limit, the settlement check is that the target and the
    usage of the other records stay within the limit at every instant, up to now,
    whose interval the record lies in. -/
theorem allowed_rolling_iff (hid : 0 < id) (hmode : w.resetMode = .rolling)
    (hW : 0 < w.windowSeconds) (hWle : w.windowSeconds ≤ maxSubscriptionQuotaWindowSeconds)
    (hlimit : 0 < w.amount) (htarget : 0 ≤ target) (hc : 0 < record.createdAt)
    (hle : record.createdAt ≤ now) (hnow : now < maxInt64) :
    quotaWindowTargetAllowedTx db id w anchor record target now = .ok true ↔
      ∀ t, record.createdAt ≤ t → t < record.createdAt + w.windowSeconds → t ≤ now →
        target + trailingUsage w.windowSeconds t (db.otherLiveRecords id record.requestId) ≤
          w.amount := by
  have hw : w.Valid := ⟨hlimit, hW, hWle, fun h => by simp [hmode] at h⟩
  by_cases hamount : target ≤ w.amount
  · rw [quotaWindowTargetAllowedTx_rolling hid hw hmode htarget hc hle hnow hamount]
    constructor
    · intro h t h₁ h₂ h₃
      have := h t h₁ h₂
      rw [trailingUsage_filter h₃] at this
      omega
    · intro h t h₁ h₂
      -- After `now` nothing is added, so the last instant to look at is `now`.
      rcases le_total t now with h₃ | h₃
      · have := h t h₁ h₂ h₃
        rw [trailingUsage_filter h₃]
        omega
      · have := h now hle (by omega) le_rfl
        have := trailingUsage_after (W := w.windowSeconds) h₃
          (db.otherLiveRecords id record.requestId)
        omega
  · refine iff_of_false (fun h => hamount (target_le_of_allowed hw h)) fun h => hamount ?_
    have := h record.createdAt le_rfl (by omega) hle
    have : 0 ≤ trailingUsage w.windowSeconds record.createdAt
        (db.otherLiveRecords id record.requestId) := by
      rw [trailingUsage]
      exact total_nonneg fun r _ => effective_nonneg r
    omega

/-- Five seconds of at most 10, with 7 used by another request. -/
theorem allowed_rolling_iff_seven :
    quotaWindowTargetAllowedTx
        { users := [], plans := [], subscriptions := [],
          records := [{ requestId := "b", userId := 1, userSubscriptionId := 1, preConsumed := 7,
                        settledAmount := none, status := .consumed, createdAt := 12 }] }
        1 { unit := .custom, amount := 10, duration := 1, windowSeconds := 5, resetMode :=
          .rolling } 0
        { requestId := "a", userId := 1, userSubscriptionId := 1, preConsumed := 1,
          settledAmount := none, status := .consumed, createdAt := 10 } 4 20 ≠ .ok true := by
  rw [Ne, allowed_rolling_iff (by decide) rfl (by decide) (by decide) (by decide)
    (by decide) (by decide)
    (by decide) (by decide)]
  intro h
  exact absurd (h 12 (by decide) (by decide) (by decide)) (by decide)

/-- A window without a limit allows every target. -/
theorem not_allowed_rolling_iff_of_no_limit :
    ¬ (quotaWindowTargetAllowedTx { users := [], plans := [], subscriptions := [], records := [] } 1
        { unit := .custom, amount := 0, duration := 1, windowSeconds := 5, resetMode := .rolling } 0
        { requestId := "a", userId := 1, userSubscriptionId := 1, preConsumed := 1,
          settledAmount := none, status := .consumed, createdAt := 10 } 1 20 = .ok true ↔
      ∀ t, 10 ≤ t → t < 10 + 5 → t ≤ 20 → 1 + trailingUsage 5 t (Database.otherLiveRecords
          { users := [], plans := [], subscriptions := [], records := [] } 1 "a") ≤ 0) := by
  intro h
  exact absurd (h.1 (by decide) 10 (by decide) (by decide) (by decide)) (by decide)

/-- On a calendar window, the settlement check is that the bucket of the record has
    room for the target. -/
lemma quotaWindowTargetAllowedTx_calendar (hid : 0 < id) (hw : w.Valid)
    (hmode : w.resetMode = .calendar) (htarget : 0 ≤ target) (hc : 0 < record.createdAt)
    (hle : record.createdAt ≤ now)
    (hanchor : w.unit = .custom → 0 < anchor ∧ anchor ≤ record.createdAt)
    (hamount : target ≤ w.amount) :
    quotaWindowTargetAllowedTx db id w anchor record target now = .ok true ↔
      windowUsage w anchor record.createdAt
        ((db.otherLiveRecords id record.requestId).filter (·.createdAt ≤ now)) ≤
          w.amount - target := by
  have hfilter : ((db.otherLiveRecords id record.requestId).filter fun r =>
      (quotaWindowBounds w record.createdAt anchor).1 ≤ r.createdAt ∧
        r.createdAt < (quotaWindowBounds w record.createdAt anchor).2 ∧ r.createdAt ≤ now) =
      ((db.otherLiveRecords id record.requestId).filter (·.createdAt ≤ now)).filter fun r =>
        w.Contains anchor record.createdAt r.createdAt := by
    rw [filter_filter]
    refine filter_congr fun r _ => ?_
    simp only [contains_calendar hmode, ← Bool.decide_and, decide_eq_decide]
    omega
  rw [quotaWindowTargetAllowedTx_guards hid hw htarget hc hle (fun h _ => hanchor h) hamount,
    hmode, hfilter]
  simp only [Except.ok.injEq]
  rw [recordsFit, foldlM_addRecord _ (sub_nonneg.2 hamount), zero_add, usageSum, sum_filter,
    ← windowUsage]
  split_ifs with hfits <;> simp [hfits]

/-- A target that the settlement check allows fits, with the other records made up
    to `now`, in every window the record lies in. -/
lemma windowUsage_le_of_allowed (hid : 0 < id) (hw : w.Valid) (hc : IsTimestamp record.createdAt)
    (hnow : IsTimestamp now)
    (h : quotaWindowTargetAllowedTx db id w anchor record target now = .ok true)
    (ht : w.resetMode = .calendar → IsTimestamp t)
    (hcontains : w.Contains anchor t record.createdAt) :
    windowUsage w anchor t
      ((db.otherLiveRecords id record.requestId).filter (·.createdAt ≤ now)) + target ≤
        w.amount := by
  have hamount := target_le_of_allowed hw h
  obtain ⟨htarget, hle, hanchor⟩ : 0 ≤ target ∧ record.createdAt ≤ now ∧
      (w.unit = .custom → w.resetMode = .calendar → 0 < anchor ∧ anchor ≤ record.createdAt) := by
    have := hw.amount_pos
    rw [quotaWindowTargetAllowedTx, if_neg (by omega)] at h
    split_ifs at h with h₁ h₂ h₃ h₄ h₅ h₆
    · omega
    · simp at h
    · exact ⟨by omega, by omega, fun h h' => by_contra fun hn => h₅ ⟨h, h', by omega⟩⟩
  cases hmode : w.resetMode
  · rw [quotaWindowTargetAllowedTx_rolling hid hw hmode htarget hc.1 hle
      (by unfold maxInt64; linarith [hnow.2]) hamount] at h
    rw [contains_rolling hmode] at hcontains
    have := h t hcontains.2 (by omega)
    rw [windowUsage_rolling hmode]
    omega
  · have hunit := fun hu => hanchor hu hmode
    rw [quotaWindowTargetAllowedTx_calendar hid hw hmode htarget hc.1 hle hunit hamount] at h
    have hbounds := bounds_eq_of_contains hw hmode (ht hmode) hc hunit hcontains
    have hcongr : ∀ l, windowUsage w anchor t l = windowUsage w anchor record.createdAt l := by
      intro l
      exact total_congr fun r _ => by rw [contains_calendar hmode, contains_calendar hmode, hbounds]
    rw [hcongr]
    omega

end

end

end Allrouter
