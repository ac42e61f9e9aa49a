import Allrouter.Subscription.Effect

/-!
# When a settlement goes through

What the record of a request amounts to (`Database.effectiveAmount`) is what it was
settled at last, and nothing after a refund.

On a subscription that is there and whose policy is valid (`Intact`), a settlement
at less than the record amounts to and a refund always go through; a settlement
at more does exactly if the limits have room for it (`settle_isOk_iff`).
-/

namespace Allrouter

open Civil Text Except Database Table

def Database.effectiveAmount (db : Database) (requestId : String) : ℤ :=
  ((db.findRecord requestId).map effectivePreConsumeAmount).getD 0

section

variable {loc : Location} {now target delta : ℤ} {db db' : Database} {requestId : String}
  {record : SubscriptionPreConsumeRecord} {sub : UserSubscription} {plan : Option SubscriptionPlan}
  {policy : SubscriptionQuotaPolicy}

/-! ## What an operation leaves the record at -/

lemma Database.effectiveAmount_of_find (hfind : db.findRecord requestId = some record) :
    db.effectiveAmount requestId = effectivePreConsumeAmount record := by
  rw [effectiveAmount, hfind]
  rfl

lemma Database.findRecord_saveRecord (record' : SubscriptionPreConsumeRecord)
    (hfind : db.findRecord requestId = some record) (hid : record'.requestId = record.requestId) :
    (db.saveRecord record').findRecord requestId = some record' := by
  obtain ⟨-, rfl⟩ := get?_eq_some hfind
  rw [← hid] at hfind ⊢
  exact get?_put_self hfind

lemma findRecord_of_maybeReset {sub₁ : UserSubscription}
    (h : maybeResetForSettlement loc db sub plan now = .ok (db', sub₁)) :
    db'.findRecord requestId = db.findRecord requestId := by
  cases plan with
  | none =>
    cases h
    rfl
  | some plan =>
    simp only [maybeResetForSettlement, maybeResetUserSubscriptionWithPlanTx] at h
    split_ifs at h
    split at h <;> cases h <;> rfl

section

variable (hfind : db.findRecord requestId = some record)
  (h : settleSubscriptionPreConsumeTx loc db record target now = .ok db')
include hfind h

/-- A settlement writes its target into the record, unless it is there. -/
lemma findRecord_of_settleTx :
    0 ≤ target ∧ db'.findRecord requestId = some (record.settle target now) ∨
      db' = db ∧ effectivePreConsumeAmount record = target ∧ record.settledAmount ≠ none ∧
        record.settledAt ≠ 0 := by
  rw [settleSubscriptionPreConsumeTx] at h
  split_ifs at h with htarget heffective hcomplete
  · cases h
    exact .inl ⟨not_lt.1 htarget, findRecord_saveRecord _ hfind rfl⟩
  · cases h
    exact .inr ⟨rfl, heffective, not_or.1 hcomplete⟩
  · split at h
    · cases h
    · obtain ⟨plan, -, h⟩ := bind_eq_ok.1 h
      obtain ⟨⟨db₁, sub₁⟩, hreset, h⟩ := bind_eq_ok.1 h
      obtain ⟨-, -, rfl⟩ := settleOnSubscription_eq_ok h
      have hfind₁ := (findRecord_of_maybeReset hreset).trans hfind
      refine .inl ⟨not_lt.1 htarget, ?_⟩
      split_ifs
      · exact findRecord_saveRecord _ hfind₁ rfl
      · exact findRecord_saveRecord _ hfind₁ rfl

lemma effectiveAmount_of_settleTx : db'.effectiveAmount requestId = target := by
  rcases findRecord_of_settleTx hfind h with ⟨htarget, hfind'⟩ | ⟨rfl, heffective, -⟩
  · exact (effectiveAmount_of_find hfind').trans (if_neg (not_lt.2 htarget))
  · exact (effectiveAmount_of_find hfind).trans heffective

end

lemma effectiveAmount_of_settle {actualAmount : ℤ}
    (h : settleSubscriptionPreConsume loc db requestId actualAmount now = .ok db') :
    db'.effectiveAmount requestId = actualAmount := by
  rw [settleSubscriptionPreConsume] at h
  split_ifs at h
  split at h
  · cases h
  · rename_i record hfind
    split_ifs at h
    exact effectiveAmount_of_settleTx hfind h

/-- An adjustment moves the record by `delta`, not below zero. -/
lemma effectiveAmount_of_adjust
    (h : adjustSubscriptionPreConsume loc db requestId delta now = .ok db') :
    db'.effectiveAmount requestId = max 0 (db.effectiveAmount requestId + delta) := by
  rw [adjustSubscriptionPreConsume] at h
  split_ifs at h with hid hzero
  · cases h
    have hnonneg : 0 ≤ db.effectiveAmount requestId := by
      rw [effectiveAmount]
      cases db.findRecord requestId with
      | none => exact le_rfl
      | some record => exact effective_nonneg record
    rw [hzero, add_zero, max_eq_right hnonneg]
  · split at h
    · cases h
    · rename_i record hfind
      split_ifs at h
      split at h
      · cases h
      · rename_i sum hsum
        rw [effectiveAmount_of_settleTx hfind h, eq_add_of_safeAdd hsum,
          effectiveAmount_of_find hfind]

/-- A refund closes the record, unless it is closed. -/
lemma findRecord_of_refund (hfind : db.findRecord requestId = some record)
    (h : refundSubscriptionPreConsume loc db requestId now = .ok db') :
    db'.findRecord requestId = some (record.refund now) ∨ db' = db ∧ record.status = .refunded := by
  rw [refundSubscriptionPreConsume, refundSubscriptionPreConsumeTx] at h
  split_ifs at h with hid
  rw [hfind] at h
  dsimp only at h
  split_ifs at h with hrefunded
  · cases h
    exact .inr ⟨rfl, hrefunded⟩
  refine .inl ?_
  split at h
  · cases h
    exact findRecord_saveRecord _ hfind rfl
  · obtain ⟨plan, -, h⟩ := bind_eq_ok.1 h
    obtain ⟨⟨db₁, sub₁⟩, hreset, h⟩ := bind_eq_ok.1 h
    obtain ⟨db₂, huncharge, h⟩ := bind_eq_ok.1 h
    cases h
    have hfind₂ : db₂.findRecord requestId = some record := by
      rw [← hfind, ← findRecord_of_maybeReset hreset]
      simp only [uncharge] at huncharge
      split_ifs at huncharge
      · split at huncharge <;> cases huncharge
        rfl
      · cases huncharge
        rfl
    exact findRecord_saveRecord _ hfind₂ rfl

/-! ## When an operation goes through -/

/-- The subscription of the record is there, and its policy can be told and is valid. -/
structure Intact (db : Database) (record : SubscriptionPreConsumeRecord) (sub : UserSubscription)
    (plan : Option SubscriptionPlan) : Prop where
  wellFormed : db.WellFormed
  subscription : db.findSubscription record.userSubscriptionId = some sub
  planFound : planForSettlement db sub = .ok plan
  valid : (quotaPolicyForSubscription sub plan).invalid = false
  amountUsed : sub.amountUsed ≤ maxInt64
  amount : effectivePreConsumeAmount record ≤ maxInt64

/-- Every limit has room for the record to grow to `target`: that of the period it is
    counted in, which may lie in the past, and all windows. -/
structure HasRoomFor (loc : Location) (db : Database) (sub : UserSubscription)
    (policy : SubscriptionQuotaPolicy) (record : SubscriptionPreConsumeRecord) (target now : ℤ) :
      Prop where
  aggregate : countsRecord sub policy record now → 0 < policyWeeklyLimit policy sub →
    sub.amountUsed + (target - effectivePreConsumeAmount record) ≤ policyWeeklyLimit policy sub
  fits : countsRecord sub policy record now →
    sub.amountUsed + (target - effectivePreConsumeAmount record) ≤ maxInt64
  historical : policyTracksAggregate policy → countsRecord sub policy record now = false →
    aggregateQuotaHistoricalTargetAllowedTx loc db sub policy record target now = .ok true
  fiveHour : policyHasFiveHour policy →
    quotaWindowTargetAllowedTx db sub.id
      (fiveHourWindow policy.fiveHourAmount policy.fiveHourWindowSeconds)
      sub.startTime record target now = .ok true
  windows : ∀ w ∈ policy.windows,
    quotaWindowTargetAllowedTx db sub.id w.1 sub.startTime record target now = .ok true

lemma windowsAllow_of_all {allows : SubscriptionQuotaWindowPolicy → Except Error Bool}
    {windows : List CanonicalWindow} (h : ∀ w ∈ windows, allows w.1 = .ok true) :
    windowsAllow allows windows = .ok true := by
  induction windows with
  | nil => rfl
  | cons window windows ih =>
    rw [windowsAllow, if_neg (not_le.2 window.2.amount_pos), h window List.mem_cons_self]
    exact ih fun w hw => h w (List.mem_cons_of_mem _ hw)

lemma checkAggregate_eq_ok_iff (hlt : effectivePreConsumeAmount record < target) :
    checkAggregate loc db sub policy record target (target - effectivePreConsumeAmount record) now
        (countsRecord sub policy record now) = .ok () ↔
      (countsRecord sub policy record now → 0 < policyWeeklyLimit policy sub →
        sub.amountUsed + (target - effectivePreConsumeAmount record) ≤
          policyWeeklyLimit policy sub) ∧
      (policyTracksAggregate policy → countsRecord sub policy record now = false →
        aggregateQuotaHistoricalTargetAllowedTx loc db sub policy record target now =
          .ok true) := by
  cases htracks : policyTracksAggregate policy with
  | false =>
    have hcounts : countsRecord sub policy record now = false := by simp [countsRecord, htracks]
    simp [checkAggregate, htracks, hcounts]
  | true =>
    rw [checkAggregate, if_pos htracks]
    cases hcounts : countsRecord sub policy record now with
    | true =>
      simp only [Bool.true_eq_false, false_implies, and_true, true_implies]
      constructor
      · intro h hlimit
        have := require_eq_ok h
        simp only [ok.injEq, Bool.or_eq_true, decide_eq_true_eq] at this
        exact le_of_hasRoom (this.resolve_left (not_le.2 hlimit))
      · intro h
        have : (policyWeeklyLimit policy sub ≤ 0 ||
            hasRoom (policyWeeklyLimit policy sub) sub.amountUsed
              (target - effectivePreConsumeAmount record)) = true := by
          simp only [Bool.or_eq_true, decide_eq_true_eq, hasRoom, Bool.not_eq_true',
            Bool.or_eq_false_iff, decide_eq_false_iff_not, not_lt]
          by_cases hlimit : 0 < policyWeeklyLimit policy sub
          · have := h hlimit
            omega
          · exact .inl (not_lt.1 hlimit)
        rw [this]
        rfl
    | false =>
      simp only [Bool.false_eq_true, false_implies, true_and, true_implies]
      exact ⟨require_eq_ok, fun h => by rw [h]; rfl⟩

lemma checkFiveHour_eq_ok_iff : checkFiveHour db sub policy record target delta now = .ok () ↔
      (policyHasFiveHour policy →
        quotaWindowTargetAllowedTx db sub.id
          (fiveHourWindow policy.fiveHourAmount policy.fiveHourWindowSeconds)
          sub.startTime record target now = .ok true) := by
  rw [checkFiveHour]
  split_ifs with h
  · exact ⟨fun h' _ => require_eq_ok h', fun h' => by rw [h' h]; rfl⟩
  · exact iff_of_true rfl fun h' => absurd h' h

lemma genericQuotaTargetAllowedTx_eq_true_iff (htarget : 0 ≤ target) :
    genericQuotaTargetAllowedTx db sub policy record target now = .ok true ↔
      ∀ w ∈ policy.windows, quotaWindowTargetAllowedTx db sub.id w.1 sub.startTime record target now
        = .ok true := by
  rw [genericQuotaTargetAllowedTx]
  split_ifs with h h'
  · have hnil : policy.windows = [] := by simpa [policyHasGenericWindows] using h
    simp [hnil]
  · exact absurd htarget (not_le.2 h')
  · exact ⟨windowsAllow_eq_true, fun h => windowsAllow_of_all h⟩

lemma checkSettlement_eq_ok_iff {current : Bool} (hdelta : 0 < delta) :
    checkSettlement loc db sub policy record target delta now current = .ok () ↔
      checkAggregate loc db sub policy record target delta now current = .ok () ∧
        checkFiveHour db sub policy record target delta now = .ok () ∧
        genericQuotaTargetAllowedTx db sub policy record target now = .ok true := by
  rw [checkSettlement, if_pos hdelta]
  constructor
  · intro h
    obtain ⟨⟨⟩, haggregate, h⟩ := bind_eq_ok.1 h
    obtain ⟨⟨⟩, hfive, hgeneric⟩ := bind_eq_ok.1 h
    exact ⟨haggregate, hfive, require_eq_ok hgeneric⟩
  · rintro ⟨haggregate, hfive, hgeneric⟩
    rw [haggregate, hfive, hgeneric]
    rfl

lemma writeSettlement_isOk_iff (db : Database) (record : SubscriptionPreConsumeRecord)
    (target now : ℤ) {current : Bool} (hused : 0 ≤ sub.amountUsed ∧ sub.amountUsed ≤ maxInt64)
    (hdelta : -maxInt64 ≤ delta) :
    (∃ db', writeSettlement db sub record target delta now current = .ok db') ↔
      (current = true → sub.amountUsed + delta ≤ maxInt64) := by
  have hmin : minInt64 = -maxInt64 - 1 := by decide
  rw [writeSettlement]
  cases current with
  | false => exact iff_of_true ⟨_, rfl⟩ (by simp)
  | true =>
    simp only [if_true, true_implies]
    rw [safeAdd_eq ⟨by have := maxInt64_nonneg; omega, hused.2⟩]
    split_ifs with hfits
    · exact iff_of_true ⟨_, rfl⟩ hfits.2
    · exact iff_of_false (by simp) fun h => hfits ⟨by omega, h⟩

lemma settleOnSubscription_isOk_iff (hvalid : policy.invalid = false)
    (hused : 0 ≤ sub.amountUsed ∧ sub.amountUsed ≤ maxInt64)
    (hamount : effectivePreConsumeAmount record ≤ maxInt64) (htarget : 0 ≤ target) :
    (∃ db', settleOnSubscription loc db sub policy record target now = .ok db') ↔
      checkSettlement loc db sub policy record target
        (target - effectivePreConsumeAmount record) now
        (countsRecord sub policy record now) = .ok () ∧ (countsRecord sub policy record now = true →
        sub.amountUsed + (target - effectivePreConsumeAmount record) ≤ maxInt64) := by
  rw [← writeSettlement_isOk_iff db record target now hused (by omega)]
  rw [settleOnSubscription, if_neg (by simp [hvalid]),
    if_neg (fun h => absurd h.2 (not_lt.2 hused.1))]
  constructor
  · rintro ⟨db', h⟩
    obtain ⟨⟨⟩, hcheck, hwrite⟩ := bind_eq_ok.1 h
    exact ⟨hcheck, db', hwrite⟩
  · rintro ⟨hcheck, db', hwrite⟩
    exact ⟨db', bind_eq_ok.2 ⟨(), hcheck, hwrite⟩⟩

lemma Intact.maybeReset (h : Intact db record sub plan) :
    maybeResetForSettlement loc db sub plan now =
      .ok (db.saveSubscription (sub.upToDate loc plan now), sub.upToDate loc plan now) := by
  have hmem := (get?_eq_some h.subscription).1
  have hsome : ∃ r, maybeResetForSettlement loc db sub plan now = .ok r := by
    have hvalid := h.valid
    cases plan with
    | none => exact ⟨_, rfl⟩
    | some plan =>
      simp only [maybeResetForSettlement, maybeResetUserSubscriptionWithPlanTx, hvalid]
      cases resetSubscription loc sub (quotaPolicyForSubscription sub (some plan)) now <;>
        exact ⟨_, rfl⟩
  obtain ⟨⟨db₁, sub₁⟩, hreset⟩ := hsome
  obtain ⟨-, rfl, rfl⟩ := maybeResetForSettlement_eq_ok h.wellFormed hmem hreset
  exact hreset

lemma Intact.upToDate_amountUsed (h : Intact db record sub plan) (loc : Location) (now : ℤ) :
    0 ≤ (sub.upToDate loc plan now).amountUsed ∧ (sub.upToDate loc plan now).amountUsed ≤
      maxInt64 := by
  obtain ⟨used, last, next, heq, hused⟩ := sub.upToDate_eq_withCounters loc plan now
  rw [heq]
  rcases hused with rfl | rfl
  · exact ⟨le_rfl, maxInt64_nonneg⟩
  · exact ⟨amountUsed_nonneg_of_valid h.valid, h.amountUsed⟩

lemma Intact.isInt64_add (h : Intact db record sub plan) (loc : Location) (now : ℤ)
    (hlow : -effectivePreConsumeAmount record ≤ delta)
    (hhigh : (sub.upToDate loc plan now).amountUsed + delta ≤ maxInt64) :
    subscriptionSafeAddInt64 (sub.upToDate loc plan now).amountUsed delta =
      some ((sub.upToDate loc plan now).amountUsed + delta) := by
  obtain ⟨hnonneg, hle⟩ := h.upToDate_amountUsed loc now
  have hamount := h.amount
  have hmin : minInt64 = -maxInt64 - 1 := by decide
  exact safeAdd_of_fits ⟨by have := maxInt64_nonneg; omega, hle⟩ ⟨by omega, hhigh⟩

variable (hintact : Intact db record sub plan) (hfind : db.findRecord requestId = some record)
  (hid : trimSpace requestId ≠ "") (hlive : record.status ≠ .refunded)

include hintact hfind hid hlive

/-- The settlement of an intact subscription, at another amount. -/
lemma settle_eq_settleOnSubscription (htarget : 0 ≤ target)
    (hne : effectivePreConsumeAmount record ≠ target) :
    settleSubscriptionPreConsume loc db requestId target now =
      settleOnSubscription loc (db.saveSubscription (sub.upToDate loc plan now))
        (sub.upToDate loc plan now)
        (quotaPolicyForSubscription sub plan) record target now := by
  rw [settleSubscriptionPreConsume, if_neg hid, if_neg (not_lt.2 htarget), hfind]
  dsimp only
  rw [if_neg hlive, settleSubscriptionPreConsumeTx, if_neg (not_lt.2 htarget), if_neg hne,
    hintact.subscription]
  dsimp only
  rw [hintact.planFound]
  show (maybeResetForSettlement loc db sub plan now >>= _) = _
  rw [hintact.maybeReset]
  show settleOnSubscription _ _ _ (quotaPolicyForSubscription (sub.upToDate loc plan now) plan) _ _
    _ = _
  rw [policy_upToDate fun _ => hintact.valid]

lemma settle_isOk_iff (hlt : effectivePreConsumeAmount record < target) :
    (∃ db', settleSubscriptionPreConsume loc db requestId target now = .ok db') ↔
      HasRoomFor loc (db.saveSubscription (sub.upToDate loc plan now)) (sub.upToDate loc plan now)
        (quotaPolicyForSubscription sub plan) record target now := by
  have htarget := (effective_nonneg record).trans hlt.le
  rw [settle_eq_settleOnSubscription hintact hfind hid hlive htarget hlt.ne,
    settleOnSubscription_isOk_iff hintact.valid (hintact.upToDate_amountUsed loc now)
      hintact.amount htarget,
    checkSettlement_eq_ok_iff (sub_pos.2 hlt), checkAggregate_eq_ok_iff hlt,
      checkFiveHour_eq_ok_iff,
    genericQuotaTargetAllowedTx_eq_true_iff htarget]
  exact ⟨fun ⟨⟨⟨h₁, h₂⟩, h₃, h₄⟩, h₅⟩ => ⟨h₁, h₅, h₂, h₃, h₄⟩,
    fun h => ⟨⟨⟨h.aggregate, h.historical⟩, h.fiveHour, h.windows⟩, h.fits⟩⟩

lemma settle_isOk_of_lt (htarget : 0 ≤ target) (hlt : target < effectivePreConsumeAmount record) :
    ∃ db', settleSubscriptionPreConsume loc db requestId target now = .ok db' := by
  rw [settle_eq_settleOnSubscription hintact hfind hid hlive htarget hlt.ne',
    settleOnSubscription_isOk_iff hintact.valid (hintact.upToDate_amountUsed loc now)
      hintact.amount htarget]
  have hused := (hintact.upToDate_amountUsed loc now).2
  refine ⟨?_, fun _ => by omega⟩
  rw [checkSettlement, if_neg (by omega)]

lemma refund_isOk (loc : Location) (now : ℤ) :
    ∃ db', refundSubscriptionPreConsume loc db requestId now = .ok db' := by
  obtain ⟨hused, hle⟩ := hintact.upToDate_amountUsed loc now
  rw [refundSubscriptionPreConsume, if_neg hid, refundSubscriptionPreConsumeTx, if_neg hid, hfind]
  dsimp only
  rw [if_neg hlive, hintact.subscription]
  dsimp only
  rw [hintact.planFound]
  show ∃ db', (maybeResetForSettlement loc db sub plan now >>= _) = ok db'
  rw [hintact.maybeReset]
  have huncharge : ∃ db', uncharge (db.saveSubscription (sub.upToDate loc plan now))
    (sub.upToDate loc plan now)
      (quotaPolicyForSubscription (sub.upToDate loc plan now) plan) record now = .ok db' := by
    simp only [uncharge]
    rw [if_neg fun h => absurd h.2 (not_lt.2 hused)]
    split_ifs
    · rw [hintact.isInt64_add loc now le_rfl (by omega)]
      exact ⟨_, rfl⟩
    · exact ⟨_, rfl⟩
  obtain ⟨db', huncharge⟩ := huncharge
  exact ⟨_, bind_eq_ok.2 ⟨(_, _), rfl, bind_eq_ok.2 ⟨db', huncharge, rfl⟩⟩⟩

end

end Allrouter
