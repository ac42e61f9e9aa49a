import Allrouter.Library.Allotment
import Allrouter.Subscription.Group

/-!
# The catalog of plans

A plan counts the subscriptions that were issued (`issuedCount`) and the orders that wait for their
payment (`reservedCount`), and may limit both together. The plans of a provider that name one
purchase limit group share their limits: the least positive one holds for all of them.
A plan without a group is a scope of its own.

* `CatalogPlan.scopeKey`: the scope of a plan, and `loadPurchaseScope_eq_ok`: what is
  loaded is the plans of the scope;
* `incrementScopeStock_eq_ok`: a slot is taken while the scope has one left.
-/

namespace Allrouter

open Text Allotment List Except Table

/-! ## Plans -/

/-- A plan of the catalog, with what its sale depends on. -/
structure CatalogPlan extends SubscriptionPlan where
  priceAmount : ℚ := 0
  enabled : Bool := true
  /-- `1` if users may buy the plan. -/
  allowPurchase : ℤ := 1
  (stripePriceId stripePriceCnyId creemProductId waffoPancakeProductId : String := "")
  maxPurchasePerUser : ℤ := 0
  purchaseLimitGroup : String := ""
  /-- The limit of what is issued and reserved, `0` for none. -/
  totalPurchaseLimit : ℤ := 0
  (issuedCount reservedCount : ℤ := 0)
  upgradeGroup : String := ""
  deriving DecidableEq

namespace CatalogPlan

variable (plan : CatalogPlan)

def normalizeQuotaWindows : CatalogPlan :=
  { plan with toSubscriptionPlan := plan.toSubscriptionPlan.normalizeQuotaWindows }

def withId (id : ℤ) : CatalogPlan := { plan with id := id }

def withCountsOf (row : CatalogPlan) : CatalogPlan :=
  { plan with issuedCount := row.issuedCount, reservedCount := row.reservedCount }

/-- What is issued, and reserved for orders. -/
def allocated : ℤ := plan.issuedCount + plan.reservedCount

end CatalogPlan

lemma SubscriptionPlan.normalizeMode_id (plan : SubscriptionPlan) :
    plan.normalizeMode.id = plan.id := by
  have hp : (if periodModeUnit (toLower (trimSpace plan.quotaWindowMode)) = some (.hour, true) then
      { plan with fiveHourAmount := max plan.fiveHourAmount plan.totalAmount } else plan).id =
          plan.id := by
    split_ifs <;> rfl
  unfold SubscriptionPlan.normalizeMode
  dsimp only
  split
  · exact hp
  · split <;> exact hp

@[simp] lemma CatalogPlan.normalizeQuotaWindows_id (plan : CatalogPlan) :
    plan.normalizeQuotaWindows.id = plan.id := by
  simp only [CatalogPlan.normalizeQuotaWindows, SubscriptionPlan.normalizeQuotaWindows]
  split_ifs
  · rfl
  · rfl
  · rfl
  · rfl
  · exact SubscriptionPlan.normalizeMode_id _

def isGroupChar (ch : Char) : Bool :=
  ('a' ≤ ch && ch ≤ 'z') || ('0' ≤ ch && ch ≤ '9') || ch = '-' || ch = '_' || ch = '.' || ch = ':'

/-- The key of a group, if it is valid. A valid one is as long in bytes as in characters. -/
def normalizeSubscriptionPurchaseLimitGroup (raw : String) : Option String :=
  let group := toLower (trimSpace raw)
  if group = "" then some ""
  else if group.toList.length > 64 then none
  else if group.toList.all isGroupChar then some group
  else none

variable {ch : Char}

lemma toNat_of_isGroupChar (h : isGroupChar ch = true) :
    97 ≤ ch.toNat ∧ ch.toNat ≤ 122 ∨ 48 ≤ ch.toNat ∧ ch.toNat ≤ 57 ∨
      ch.toNat = 45 ∨ ch.toNat = 95 ∨ ch.toNat = 46 ∨ ch.toNat = 58 := by
  simp only [isGroupChar, Bool.or_eq_true, Bool.and_eq_true, decide_eq_true_eq, or_assoc] at h
  rcases h with h | h | rfl | rfl | rfl | rfl
  · exact .inl h
  · exact .inr (.inl h)
  all_goals decide

lemma isSpace_of_isGroupChar (h : isGroupChar ch = true) : isSpace ch = false := by
  have := toNat_of_isGroupChar h
  simp [isSpace]
  omega

lemma lowerChar_of_isGroupChar (h : isGroupChar ch = true) : lowerChar ch = ch := by
  have hch := toNat_of_isGroupChar h
  have hupper : ¬('A' ≤ ch ∧ ch ≤ 'Z') := by
    rintro ⟨h₁, h₂⟩
    have h₁ : 65 ≤ ch.toNat := h₁
    have h₂ : ch.toNat ≤ 90 := h₂
    omega
  rw [lowerChar, if_neg hupper, if_neg (by omega), if_neg (by omega)]

lemma limitGroup_normalized {raw group : String}
    (h : normalizeSubscriptionPurchaseLimitGroup raw = some group) :
    normalizeSubscriptionPurchaseLimitGroup group = some group := by
  rw [normalizeSubscriptionPurchaseLimitGroup] at h
  split_ifs at h with hempty hlength hall
  · cases h
    decide
  · obtain rfl := Option.some.inj h
    generalize toLower (trimSpace raw) = group at *
    have hchars := all_eq_true.1 hall
    rw [normalizeSubscriptionPurchaseLimitGroup, trimSpace_of_forall fun ch hch =>
      isSpace_of_isGroupChar (hchars ch hch), toLower_of_forall fun ch hch =>
        lowerChar_of_isGroupChar (hchars ch hch)]
    simp [hlength, hall]

/-! ## Scopes -/

def minPositiveInt (current candidate : ℤ) : ℤ := minPositive current candidate

def minPositiveInt64 (current candidate : ℤ) : ℤ := minPositive current candidate

def addNonNegativeSaturated (left right : ℤ) : ℤ := addSaturated maxInt64 left right

/-- The plans that share purchase limits. -/
structure SubscriptionPurchaseScope where
  target : CatalogPlan
  plans : List CatalogPlan
  (maxPerUser totalPurchaseLimit issuedCount reservedCount : ℤ)

def SubscriptionPurchaseScope.planIDs (scope : SubscriptionPurchaseScope) : List ℤ :=
  scope.plans.map (·.id)

def subscriptionStockInvalid : Error := .text "subscription stock state invalid"

def purchaseScopeOf (target : CatalogPlan) (plans : List CatalogPlan) :
    SubscriptionPurchaseScope where
  target := target
  plans := plans
  maxPerUser := (plans.map (·.maxPurchasePerUser)).foldl minPositiveInt 0
  totalPurchaseLimit := (plans.map (·.totalPurchaseLimit)).foldl minPositiveInt64 0
  issuedCount := (plans.map (·.issuedCount)).foldl addNonNegativeSaturated 0
  reservedCount := (plans.map (·.reservedCount)).foldl addNonNegativeSaturated 0

def purchaseScopePlans (catalog : List CatalogPlan) (target : CatalogPlan) (group : String) :
    List CatalogPlan :=
  if group = "" then catalog.filter fun plan => plan.id = target.id
  else catalog.filter fun plan => plan.providerId = target.providerId ∧
    plan.purchaseLimitGroup = group

/-- The scope of a plan. Rows are matched by the text of their group, so a plan whose group is not
    in canonical form is not found. -/
def loadSubscriptionPurchaseScope (catalog : List CatalogPlan) (planID : ℤ) :
    Except Error SubscriptionPurchaseScope :=
  if planID ≤ 0 then .error (.text "invalid subscription purchase scope")
  else match get? (fun plan : CatalogPlan => plan.id) planID catalog with
    | none => .error .recordNotFound
    | some target =>
      match normalizeSubscriptionPurchaseLimitGroup target.purchaseLimitGroup with
      | none => .error (.text "invalid subscription purchase limit group")
      | some group =>
        let plans := purchaseScopePlans catalog target group
        if plans = [] then .error .recordNotFound
        else if plans.any fun plan => plan.issuedCount < 0 ∨ plan.reservedCount < 0 then
          .error subscriptionStockInvalid
        else if plans.all fun plan => plan.id ≠ target.id then .error .recordNotFound
        else .ok (purchaseScopeOf { target with purchaseLimitGroup := group } plans)

/-- The plans that share a limit: those of a group of a provider, or a plan by itself. -/
inductive ScopeKey
  | plan (id : ℤ)
  | group (providerId : ℤ) (name : String)
  deriving DecidableEq

/-- The scope of a plan, unless its group is invalid or not in canonical form. -/
def CatalogPlan.scopeKey (plan : CatalogPlan) : Option ScopeKey :=
  match normalizeSubscriptionPurchaseLimitGroup plan.purchaseLimitGroup with
  | none => none
  | some group =>
    if group = "" then some (.plan plan.id)
    else if group = plan.purchaseLimitGroup then some (.group plan.providerId group)
    else none

section

variable {catalog catalog' : List CatalogPlan} {plan : CatalogPlan} {planID : ℤ}
    {scope : SubscriptionPurchaseScope}

lemma scopeKey_eq_plan {id : ℤ} : plan.scopeKey = some (.plan id) ↔
    plan.id = id ∧ normalizeSubscriptionPurchaseLimitGroup plan.purchaseLimitGroup = some "" := by
  rw [CatalogPlan.scopeKey]
  split
  · simp_all
  · split_ifs <;> simp_all

lemma scopeKey_eq_group {providerId : ℤ} {name : String} :
    plan.scopeKey = some (.group providerId name) ↔
    plan.providerId = providerId ∧ plan.purchaseLimitGroup = name ∧ name ≠ "" ∧
      normalizeSubscriptionPurchaseLimitGroup name = some name := by
  rw [CatalogPlan.scopeKey]
  split
  · rename_i hnone
    refine iff_of_false (by simp) ?_
    rintro ⟨-, rfl, -, hsome⟩
    rw [hnone] at hsome
    cases hsome
  · rename_i group hgroup
    split_ifs with hempty hsame
    · refine iff_of_false (by simp) ?_
      rintro ⟨-, rfl, hne, hsome⟩
      rw [hgroup] at hsome
      exact hne ((Option.some.inj hsome).symm.trans hempty)
    · simp only [Option.some.injEq, ScopeKey.group.injEq]
      constructor
      · rintro ⟨rfl, rfl⟩
        exact ⟨rfl, hsame.symm, hempty, hsame ▸ hgroup⟩
      · rintro ⟨rfl, rfl, -⟩
        exact ⟨rfl, hsame⟩
    · refine iff_of_false (by simp) ?_
      rintro ⟨-, rfl, -, hsome⟩
      rw [hgroup] at hsome
      exact hsame (Option.some.inj hsome)

lemma loadPurchaseScope_eq_ok (hcatalog : Table.Keyed (fun plan : CatalogPlan => plan.id) catalog)
    (h : loadSubscriptionPurchaseScope catalog planID = .ok scope) :
    ∃ target ∈ catalog, target.id = planID ∧ ∃ key, target.scopeKey = some key ∧
      (∀ plan ∈ catalog, plan.scopeKey = some key → 0 ≤ plan.issuedCount ∧ 0 ≤ plan.reservedCount) ∧
      ∃ group, scope = purchaseScopeOf { target with purchaseLimitGroup := group }
        (catalog.filter (·.scopeKey = some key)) := by
  rw [loadSubscriptionPurchaseScope] at h
  split_ifs at h
  split at h
  · cases h
  rename_i target hget
  obtain ⟨htarget, hid⟩ := get?_eq_some hget
  split at h
  · cases h
  rename_i group hgroup
  dsimp only at h
  split_ifs at h with _ hcounts hfound
  obtain rfl := ok.inj h
  -- The target is among the rows that were matched, by its key or by the text of its group.
  obtain ⟨key, hkey, hrows⟩ : ∃ key, target.scopeKey = some key ∧
      purchaseScopePlans catalog target group = catalog.filter (·.scopeKey = some key) := by
    by_cases hempty : group = ""
    · subst hempty
      refine ⟨.plan target.id, scopeKey_eq_plan.2 ⟨rfl, hgroup⟩, ?_⟩
      refine filter_congr fun plan hplan => ?_
      rw [decide_eq_decide, scopeKey_eq_plan]
      refine ⟨fun hsame => ?_, fun hsame => hsame.1⟩
      obtain rfl := hcatalog.eq_of_mem hplan htarget hsame
      exact ⟨rfl, hgroup⟩
    · have hname : target.purchaseLimitGroup = group := by
        simp only [purchaseScopePlans, if_neg hempty, all_eq_true, mem_filter, decide_eq_true_eq,
          not_forall] at hfound
        obtain ⟨plan, ⟨hplan, -, hname⟩, hsame⟩ := hfound
        obtain rfl := hcatalog.eq_of_mem hplan htarget (not_ne_iff.1 hsame)
        exact hname
      subst hname
      refine ⟨.group target.providerId target.purchaseLimitGroup,
        scopeKey_eq_group.2 ⟨rfl, rfl, hempty, hgroup⟩, ?_⟩
      rw [purchaseScopePlans, if_neg hempty]
      refine filter_congr fun plan _ => ?_
      rw [decide_eq_decide, scopeKey_eq_group]
      exact ⟨fun h => ⟨h.1, h.2, hempty, hgroup⟩, fun h => ⟨h.1, h.2.1⟩⟩
  rw [hrows] at hcounts ⊢
  refine ⟨target, htarget, hid, key, hkey, fun plan hplan hplan' => ?_, group, rfl⟩
  simp only [any_eq_true, mem_filter, decide_eq_true_eq, not_exists, not_and, not_or,
    not_lt] at hcounts
  exact hcounts plan ⟨hplan, hplan'⟩

lemma allocated_purchaseScopeOf {target : CatalogPlan} {key : ScopeKey}
    (hcounts : ∀ plan ∈ catalog, plan.scopeKey = some key → 0 ≤ plan.issuedCount ∧
      0 ≤ plan.reservedCount) :
    addNonNegativeSaturated
      (purchaseScopeOf target (catalog.filter (·.scopeKey = some key))).issuedCount
      (purchaseScopeOf target (catalog.filter (·.scopeKey = some key))).reservedCount =
    min (total CatalogPlan.scopeKey CatalogPlan.allocated catalog key) maxInt64 := by
  have hnonneg {f : CatalogPlan → ℤ}
      (hf : ∀ plan ∈ catalog, plan.scopeKey = some key → 0 ≤ f plan) :
      ∀ x ∈ (catalog.filter (·.scopeKey = some key)).map f, 0 ≤ x := by
    simp only [mem_map, mem_filter, decide_eq_true_eq]
    rintro _ ⟨plan, ⟨hplan, hkey⟩, rfl⟩
    exact hf plan hplan hkey
  have hissued := hnonneg fun plan hplan hkey => (hcounts plan hplan hkey).1
  have hreserved := hnonneg fun plan hplan hkey => (hcounts plan hplan hkey).2
  have hcap : (0 : ℤ) ≤ maxInt64 := by decide
  have h₁ : (purchaseScopeOf target (catalog.filter (·.scopeKey = some key))).issuedCount = _ :=
    saturatedSum_eq hcap hissued
  have h₂ : (purchaseScopeOf target (catalog.filter (·.scopeKey = some key))).reservedCount = _ :=
    saturatedSum_eq hcap hreserved
  rw [addNonNegativeSaturated, h₁, h₂, addSaturated_min hcap (sum_nonneg hissued)
    (sum_nonneg hreserved), total, ← sum_map_add]
  rfl

end

/-! ## Stock -/

/-- Takes a slot of the scope, for an order if `reserve` and for a subscription otherwise. -/
def incrementSubscriptionPurchaseScopeStock (catalog : List CatalogPlan) (planID : ℤ)
    (reserve : Bool) :
    Except Error (List CatalogPlan) := do
  let scope ← loadSubscriptionPurchaseScope catalog planID
  let count := if reserve then scope.target.reservedCount else scope.target.issuedCount
  Except.require (0 ≤ count ∧ count < maxInt64) subscriptionStockInvalid
  let allocated := addNonNegativeSaturated scope.issuedCount scope.reservedCount
  Except.require (¬(scope.totalPurchaseLimit > 0 ∧ allocated ≥ scope.totalPurchaseLimit))
    (.text "该套餐已发放完毕")
  pure (modify (fun plan : CatalogPlan => plan.id) scope.target.id
    (fun plan => if reserve then { plan with reservedCount := plan.reservedCount + 1 }
      else { plan with issuedCount := plan.issuedCount + 1 }) catalog)

def reserveSubscriptionPlanStock (catalog : List CatalogPlan) (planId : ℤ) :
    Except Error (List CatalogPlan) :=
  incrementSubscriptionPurchaseScopeStock catalog planId true

def issueSubscriptionPlanStock (catalog : List CatalogPlan) (planId : ℤ) :
    Except Error (List CatalogPlan) :=
  incrementSubscriptionPurchaseScopeStock catalog planId false

/-- Changes the rows of the plan that meet the condition, and fails if there is none. -/
def updateStock (catalog : List CatalogPlan) (planId : ℤ) (condition : CatalogPlan → Bool)
    (f : CatalogPlan → CatalogPlan) : Except Error (List CatalogPlan) := do
  Except.require (catalog.any fun plan => plan.id = planId &&
    condition plan) subscriptionStockInvalid
  pure (modify (fun plan : CatalogPlan => plan.id) planId (fun plan =>
    if condition plan then f plan else plan)
    catalog)

def commitReservedSubscriptionPlanStock (catalog : List CatalogPlan) (planId : ℤ) :
    Except Error (List CatalogPlan) :=
  updateStock catalog planId
    (fun plan => plan.reservedCount > 0 && plan.issuedCount ≥ 0 && plan.issuedCount < maxInt64)
    fun plan => { plan with reservedCount := plan.reservedCount - 1, issuedCount :=
      plan.issuedCount + 1 }

def releaseReservedSubscriptionPlanStock (catalog : List CatalogPlan) (planId : ℤ) :
    Except Error (List CatalogPlan) :=
  updateStock catalog planId (fun plan => plan.reservedCount > 0)
    fun plan => { plan with reservedCount := plan.reservedCount - 1 }

section

variable {catalog catalog' : List CatalogPlan} {planID : ℤ}

/-- A scope has a slot left: it uses less than every limit of its plans. -/
def HasRoom (catalog : List CatalogPlan) (plan : CatalogPlan) : Prop :=
  ∀ key, plan.scopeKey = some key → ∀ other ∈ catalog, other.scopeKey = some key →
    0 < other.totalPurchaseLimit →
    min (total CatalogPlan.scopeKey CatalogPlan.allocated catalog key) maxInt64 <
      other.totalPurchaseLimit

variable (hcatalog : Table.Keyed (fun plan : CatalogPlan => plan.id) catalog)
include hcatalog

lemma incrementScopeStock_eq_ok {reserve : Bool}
    (h : incrementSubscriptionPurchaseScopeStock catalog planID reserve = .ok catalog') :
    ∃ plan ∈ catalog, plan.id = planID ∧ HasRoom catalog plan ∧ catalog' = put (fun plan => plan.id)
        (if reserve then { plan with reservedCount := plan.reservedCount + 1 }
          else { plan with issuedCount := plan.issuedCount + 1 }) catalog := by
  obtain ⟨scope, hscope, h⟩ := bind_eq_ok.1 h
  obtain ⟨-, h⟩ := require_bind_eq_ok.1 h
  obtain ⟨hroom, h⟩ := require_bind_eq_ok.1 h
  obtain ⟨target, htarget, hid, key, hkey, hcounts, group, rfl⟩ :=
    loadPurchaseScope_eq_ok hcatalog hscope
  rw [allocated_purchaseScopeOf hcounts] at hroom
  refine ⟨target, htarget, hid, ?_, ?_⟩
  · intro key' hkey' other hother hother' hpos
    obtain rfl : key = key' := Option.some.inj (hkey.symm.trans hkey')
    obtain ⟨hleast, hle⟩ :=
      leastPositive_le (l := (catalog.filter (·.scopeKey = some key)).map (·.totalPurchaseLimit))
      (mem_map_of_mem (mem_filter.2 ⟨hother, by simpa using hother'⟩)) hpos
    exact (not_le.1 fun hfull => hroom ⟨hleast, hfull⟩).trans_le hle
  · obtain rfl := ok.inj h
    cases reserve with
    | true => exact modify_eq_put hcatalog htarget rfl
    | false => exact modify_eq_put hcatalog htarget rfl

lemma updateStock_eq_ok {condition : CatalogPlan → Bool} {f : CatalogPlan → CatalogPlan}
    (h : updateStock catalog planID condition f = .ok catalog')
    (hf : ∀ plan, (f plan).id = plan.id) :
    ∃ plan ∈ catalog, plan.id = planID ∧ catalog' = put (fun plan => plan.id) (f plan) catalog := by
  obtain ⟨hany, h⟩ := Except.require_bind_eq_ok.1 h
  obtain ⟨plan, hplan, hmatch⟩ := any_eq_true.1 hany
  obtain ⟨hid, hcond⟩ := Bool.and_eq_true_iff.1 hmatch
  obtain rfl : plan.id = planID := of_decide_eq_true hid
  obtain rfl := ok.inj h
  refine ⟨plan, hplan, rfl, ?_⟩
  rw [modify_eq_put hcatalog hplan (by simp only [hcond, if_true, hf]), if_pos hcond]

end

end Allrouter
