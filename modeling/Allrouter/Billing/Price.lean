import Allrouter.Billing.TopUp

/-!
# Prices

What a request costs is computed from the price data of its model, the ratios
that the request adds to it (`OtherRatios`: how long a video is, its size), and
the terms on which a provider resells the model (`ProviderPricing`).

* `OtherRatios.Iteration`: an order in which the loops over the map of ratios
  see them, which is not the same from loop to loop;
* `applyProviderPricingQuota`: what a provider takes for a request, and what it
  pays for it;
* `importCostQuota_le_providerQuota_iff`: the first is at least the second exactly if the
  price is not rounded to nothing.
-/

namespace Allrouter

open List

/-! ## Amounts -/

/-- A number rounded to a whole one, with halves away from zero. -/
def roundHalfAway (x : ℚ) : ℤ := if x < 0 then -⌊-x + 1 / 2⌋ else ⌊x + 1 / 2⌋

def maxQuota : ℤ := 2147483647

def minQuota : ℤ := -2147483648

/-- A decimal as a quota, within the range of quotas. -/
def quotaFromDecimal (value : ℚ) : ℤ :=
  if maxQuota ≤ value then maxQuota
  else if value ≤ minQuota then minQuota
  else roundHalfAway value

lemma quotaFromDecimal_of_nonneg {value : ℚ} (h : 0 ≤ value) :
    quotaFromDecimal value = min maxQuota ⌊value + 1 / 2⌋ := by
  have hmin : ¬value ≤ minQuota := by norm_num [minQuota]; linarith
  unfold quotaFromDecimal
  rw [if_neg hmin, roundHalfAway, if_neg h.not_gt]
  split
  · rename_i hmax
    refine (min_eq_left (Int.le_floor.2 ?_)).symm
    linarith
  · rename_i hmax
    refine (min_eq_right (Int.lt_add_one_iff.1 (Int.floor_lt.2 ?_))).symm
    push_cast
    linarith

lemma intPart_intCast (n : ℤ) : intPart n = n := by simp [intPart]

/-! ## Ratios -/

/-- The further ratios of a request, by their names. None is `0` or below:
    `addOtherRatio` leaves such a ratio out. -/
structure OtherRatios where
  entries : List (String × ℚ)
  nodup : (entries.map Prod.fst).Nodup
  pos : ∀ e ∈ entries, 0 < e.2

namespace OtherRatios

def empty : OtherRatios := ⟨[], by simp, by simp⟩

variable (ratios : OtherRatios)

def values : List ℚ := ratios.entries.map Prod.snd

/-- An order in which a loop over the map sees the ratios. -/
def Iteration : Type := { order : List ℚ // order.Perm ratios.values }

end OtherRatios

/-- The other ratios, one after the other. -/
def applyOtherRatiosToDecimal (value : ℚ) (order : List ℚ) : ℚ :=
  order.foldl (fun value ratio => value * ratio) value

/-! ## Providers -/

/-- How a provider sets the price of a model. Every type that is not `delta` is
    taken for `ratio`. -/
inductive ProviderPricingType
  /-- A ratio on top of the cost. -/
  | ratio
  /-- A fixed difference per token, or per request. -/
  | delta
  deriving DecidableEq

/-- The terms of the provider of a request, as its context has them. -/
structure ProviderPricing where
  providerId : ℤ
  providerPublicModel : String
  (importPriceRatio importCachePriceRatio : ℚ)
  pricingType : ProviderPricingType
  (pricingRatio deltaPrice deltaRatio : ℚ)

/-- What a provider takes for a request, and what it pays for it. -/
structure ProviderQuota where
  (providerQuota importCostQuota : ℤ)
  applied : Bool
  deriving DecidableEq

namespace ProviderPricing

variable (quotaPerUnit : ℚ) (pricing : ProviderPricing)

def Applies : Prop := 0 < pricing.providerId ∧ pricing.providerPublicModel ≠ ""

instance : Decidable pricing.Applies := inferInstanceAs (Decidable (_ ∧ _))

def effectiveImportPriceRatio : ℚ :=
  if pricing.importPriceRatio ≤ 0 then 1 else pricing.importPriceRatio

def providerEffectiveCacheImportRatio : ℚ :=
  if pricing.importCachePriceRatio ≤ 0 then 1 else pricing.importCachePriceRatio

def effectivePricingRatio : ℚ := if pricing.pricingRatio = 0 then 1 else pricing.pricingRatio

/-- The part of the quota that is for cached tokens, if it is a part. -/
def cachePart (baseQuota : ℤ) (cacheQuota : ℚ) : ℚ :=
  if cacheQuota < 0 ∨ baseQuota < cacheQuota then 0 else cacheQuota

/-- What the provider owes for a request, before it is rounded. -/
def importCost (baseQuota : ℤ) (cacheQuota : ℚ) : ℚ :=
  (baseQuota - cachePart baseQuota cacheQuota) * pricing.effectiveImportPriceRatio +
    cachePart baseQuota cacheQuota * pricing.providerEffectiveCacheImportRatio

/-- The fixed difference: of a request, or of its tokens that are not cached. -/
def delta (usePrice : Bool) (groupRatio unitCount nonCacheUnitCount : ℚ)
    (multiplyFixedPriceByUnits : Bool) : ℚ :=
  if usePrice then
    pricing.deltaPrice * quotaPerUnit * groupRatio * if multiplyFixedPriceByUnits then unitCount
      else 1
  else
    pricing.deltaRatio *
      (if nonCacheUnitCount < 0 ∨ unitCount < nonCacheUnitCount then unitCount
        else nonCacheUnitCount) * groupRatio

/-- What the provider asks for, before it is rounded. -/
def providerPrice (baseQuota : ℤ) (cacheQuota : ℚ) (usePrice : Bool)
    (groupRatio unitCount nonCacheUnitCount : ℚ) (multiplyFixedPriceByUnits : Bool) : ℚ :=
  match pricing.pricingType with
  | .delta => pricing.importCost baseQuota cacheQuota +
      pricing.delta quotaPerUnit usePrice groupRatio unitCount nonCacheUnitCount
        multiplyFixedPriceByUnits
  | .ratio =>
    -- The ratio is on what is not cached only.
    (baseQuota - cachePart baseQuota cacheQuota) * pricing.effectiveImportPriceRatio *
        pricing.effectivePricingRatio +
      cachePart baseQuota cacheQuota * pricing.providerEffectiveCacheImportRatio

def applyProviderPricingQuota (baseQuota : ℤ) (cacheQuota : ℚ) (usePrice : Bool)
    (groupRatio unitCount nonCacheUnitCount : ℚ) (multiplyFixedPriceByUnits : Bool) :
      ProviderQuota :=
  if ¬pricing.Applies then ⟨baseQuota, baseQuota, false⟩
  else
    let importCostQuota := quotaFromDecimal (pricing.importCost baseQuota cacheQuota)
    let providerQuota := quotaFromDecimal <|
      pricing.providerPrice quotaPerUnit baseQuota cacheQuota usePrice groupRatio unitCount
        nonCacheUnitCount
        multiplyFixedPriceByUnits
    { providerQuota := if providerQuota < 0 then 0 else providerQuota
      importCostQuota := if 0 < baseQuota ∧ importCostQuota = 0 then 1 else importCostQuota
      applied := true }

variable {quotaPerUnit pricing} {baseQuota : ℤ}
  {cacheQuota groupRatio unitCount nonCacheUnitCount : ℚ}
  {usePrice multiplyFixedPriceByUnits : Bool}

lemma cachePart_le (h : 0 < baseQuota) : cachePart baseQuota cacheQuota ≤ baseQuota := by
  unfold cachePart
  split
  · exact_mod_cast h.le
  · exact not_lt.1 (not_or.1 ‹_›).2

lemma delta_nonneg (hunit : 0 ≤ quotaPerUnit) (hgroup : 0 ≤ groupRatio) (hunits : 0 ≤ unitCount)
    (h : 0 ≤ if usePrice then pricing.deltaPrice else pricing.deltaRatio) :
    0 ≤ pricing.delta quotaPerUnit usePrice groupRatio unitCount nonCacheUnitCount
      multiplyFixedPriceByUnits := by
  unfold delta
  cases usePrice with
  | true =>
    refine mul_nonneg (mul_nonneg (mul_nonneg h hunit) hgroup) ?_
    split <;> positivity
  | false =>
    refine mul_nonneg (mul_nonneg h ?_) hgroup
    split
    · exact hunits
    · exact not_lt.1 (not_or.1 ‹_›).1

lemma effectiveImportPriceRatio_pos : 0 < pricing.effectiveImportPriceRatio := by
  unfold effectiveImportPriceRatio
  split <;> linarith

lemma importCost_nonneg (hbase : 0 < baseQuota) : 0 ≤ pricing.importCost baseQuota cacheQuota := by
  have hcache : 0 ≤ cachePart baseQuota cacheQuota := by
    unfold cachePart
    split
    · exact le_rfl
    · exact not_lt.1 (not_or.1 ‹_›).1
  refine add_nonneg
    (mul_nonneg (sub_nonneg.2 (cachePart_le hbase)) effectiveImportPriceRatio_pos.le)
    (mul_nonneg hcache ?_)
  unfold providerEffectiveCacheImportRatio
  split <;> linarith

/-- Without a discount no less is asked than the cost. -/
lemma importCost_le_providerPrice (hbase : 0 < baseQuota) (hunit : 0 ≤ quotaPerUnit)
    (hgroup : 0 ≤ groupRatio) (hunits : 0 ≤ unitCount)
    (hratio : pricing.pricingType = .ratio → 1 ≤ pricing.effectivePricingRatio)
    (hdelta : pricing.pricingType = .delta → 0 ≤ if usePrice then pricing.deltaPrice
      else pricing.deltaRatio) :
    pricing.importCost baseQuota cacheQuota ≤ pricing.providerPrice quotaPerUnit baseQuota
      cacheQuota usePrice
      groupRatio unitCount nonCacheUnitCount multiplyFixedPriceByUnits := by
  rw [providerPrice]
  cases htype : pricing.pricingType with
  | delta => exact le_add_of_nonneg_right (delta_nonneg hunit hgroup hunits (hdelta htype))
  | ratio =>
    refine add_le_add_left (le_mul_of_one_le_right (mul_nonneg ?_ ?_) (hratio htype)) _
    · exact sub_nonneg.2 (cachePart_le hbase)
    · exact effectiveImportPriceRatio_pos.le

/-- **Cost and price.** A provider that asks no less than its cost pays no more for a request than
    its customer, exactly if there is no provider or the price is at least one half: a smaller
    one is nothing for the customer, while a cost that is rounded to nothing is raised to `1`. -/
theorem importCostQuota_le_providerQuota_iff (hbase : 0 < baseQuota) (hunit : 0 ≤ quotaPerUnit)
    (hgroup : 0 ≤ groupRatio) (hunits : 0 ≤ unitCount)
    (hratio : pricing.pricingType = .ratio → 1 ≤ pricing.effectivePricingRatio)
    (hdelta : pricing.pricingType = .delta → 0 ≤ if usePrice then pricing.deltaPrice
      else pricing.deltaRatio) :
    let quota := pricing.applyProviderPricingQuota quotaPerUnit baseQuota cacheQuota usePrice
      groupRatio unitCount
      nonCacheUnitCount multiplyFixedPriceByUnits
    1 ≤ quota.importCostQuota ∧ quota.importCostQuota ≤ quota.providerQuota ↔
      ¬pricing.Applies ∨
        1 / 2 ≤ pricing.providerPrice quotaPerUnit baseQuota cacheQuota usePrice groupRatio
        unitCount nonCacheUnitCount multiplyFixedPriceByUnits := by
  have hcost := @importCost_nonneg pricing baseQuota cacheQuota hbase
  have hprice := @importCost_le_providerPrice quotaPerUnit pricing baseQuota cacheQuota
    groupRatio unitCount
    nonCacheUnitCount usePrice multiplyFixedPriceByUnits hbase hunit hgroup hunits hratio hdelta
  unfold applyProviderPricingQuota
  split
  · exact iff_of_true ⟨hbase, le_rfl⟩ (.inl ‹_›)
  rename_i happlies
  simp only [happlies, false_or]
  generalize pricing.providerPrice _ _ _ _ _ _ _ _ = price at hprice ⊢
  generalize pricing.importCost baseQuota cacheQuota = cost at hcost hprice ⊢
  rw [quotaFromDecimal_of_nonneg hcost, quotaFromDecimal_of_nonneg (hcost.trans hprice)]
  have hfloor : ⌊cost + 1 / 2⌋ ≤ ⌊price + 1 / 2⌋ := Int.floor_mono (by linarith)
  have hnonneg : 0 ≤ ⌊cost + 1 / 2⌋ := Int.floor_nonneg.2 (by linarith)
  -- The price is rounded to at least one.
  have hhalf : 1 / 2 ≤ price ↔ 1 ≤ ⌊price + 1 / 2⌋ := by
    rw [Int.le_floor]
    constructor <;> intro h <;> push_cast at * <;> linarith
  rw [hhalf]
  have hmax : maxQuota = 2147483647 := rfl
  split_ifs <;> omega

def atCost (importPriceRatio : ℚ) : ProviderPricing :=
  ⟨1, "m", importPriceRatio, 0, .ratio, 1, 0, 0⟩

/-- A price of one half is rounded to one, and so is the cost. -/
theorem importCostQuota_le_providerQuota_atCost :
    let quota := (atCost (1 / 2)).applyProviderPricingQuota 1 1 0 false 1 1 1 false
    1 ≤ quota.importCostQuota ∧ quota.importCostQuota ≤ quota.providerQuota :=
  (importCostQuota_le_providerQuota_iff (by decide) zero_le_one zero_le_one zero_le_one
    (by decide +kernel) (by decide)).2 (.inr (by decide +kernel))

/-- A cost of `3/10` is one unit for the provider and nothing for its customer. -/
theorem providerQuota_lt_importCostQuota :
    (atCost (3 / 10)).applyProviderPricingQuota 1 1 0 false 1 1 1 false = ⟨0, 1, true⟩ := by
  decide +kernel

variable (quotaPerUnit pricing)

/-- The exported `ApplyProviderPricingQuota`, which counts tokens. -/
def applyProviderTokenPricingQuota (baseQuota : ℤ) (cacheQuota : ℚ) (usePrice : Bool)
    (groupRatio : ℚ) (unitCount nonCacheUnitCount : ℤ) : ProviderQuota :=
  pricing.applyProviderPricingQuota quotaPerUnit baseQuota cacheQuota usePrice groupRatio unitCount
    nonCacheUnitCount false

/-- Seconds and calls know no cache. -/
def applyProviderPerUnitPricingQuota (baseQuota : ℤ) (cacheQuota groupRatio unitCount : ℚ) :
    ProviderQuota :=
  pricing.applyProviderPricingQuota quotaPerUnit baseQuota cacheQuota true groupRatio unitCount
    unitCount true

/-- What the discount of a user applies to, at the price of the provider. -/
def providerDiscountableUserQuota (baseDiscountableQuota : ℚ) (usePrice : Bool)
    (groupRatio nonCacheUnitCount : ℚ) : ℚ :=
  if baseDiscountableQuota < 0 then 0
  else
    let cost := baseDiscountableQuota * pricing.effectiveImportPriceRatio
    let result :=
      match pricing.pricingType with
      | .delta =>
        if usePrice then cost + pricing.deltaPrice * quotaPerUnit * groupRatio
        else cost + pricing.deltaRatio * nonCacheUnitCount * groupRatio
      | .ratio => cost * pricing.effectivePricingRatio
    if result < 0 then 0 else result

/-- The charge of the provider after the discount of the user. -/
def applyProviderUserDiscount (discount : ℚ) (providerQuota : ℤ) (baseDiscountableQuota : ℚ)
    (usePrice : Bool) (groupRatio : ℚ) (nonCacheUnitCount : ℤ) : ℤ :=
  if 1 ≤ discount ∨ providerQuota ≤ 0 then providerQuota
  else
    let discountable := min
      (pricing.providerDiscountableUserQuota quotaPerUnit baseDiscountableQuota usePrice groupRatio
        nonCacheUnitCount) providerQuota
    quotaFromDecimal (providerQuota - discountable + discountable * discount)

end ProviderPricing

end Allrouter
