import Allrouter.Library.RoundedProduct
import Allrouter.Billing.Price

/-!
# The price of a task

A task is charged when it is submitted: the quota of one call of its model is
multiplied by the other ratios of the request, one after the other, each product
cut to a whole number; then the provider of the request sets its price. (What a
task costs by the second takes no ratios.) No adaptor changes the ratios after
the response, so the task is settled at the quota that was charged.

The ratios are in a map, and a loop over a map has no fixed order.

* `TaskSubmission.price_perm`: every order gives the same price where only the
  last product can lose something;
* `price_differs_sora`: and not otherwise, as for a large video of four seconds.
-/

namespace Allrouter

open List

/-- What a task is billed by. -/
inductive TaskBillingMode
  /-- By the call, with the ratios that the adaptor estimates. -/
  | perCall (usePrice : Bool) (otherRatios : OtherRatios)
  /-- By the second, for all outputs together. -/
  | perSecond (unitCount : ℚ)

/-- The ratios of the price data: the adaptor is asked for them only where a
    task is billed by the call. -/
def TaskBillingMode.otherRatios : TaskBillingMode → OtherRatios
  | .perCall _ otherRatios => otherRatios
  | .perSecond _ => .empty

/-- What `RelayTaskSubmit` knows when it prices a task. -/
structure TaskSubmission where
  modelName : String
  taskPricePatches : List String
  mode : TaskBillingMode
  /-- The quota of one call, or of all seconds. -/
  quota : ℤ
  groupRatio : ℚ
  estimatePromptTokens : ℤ
  quotaPerUnit : ℚ
  pricing : ProviderPricing
  /-- The balance of the owner of the provider, where it has one. -/
  ownerQuota : Option ℤ

/-- Why there is no price. -/
inductive TaskPriceError
  /-- "provider_quota_not_enough" -/
  | providerQuotaNotEnough
  deriving DecidableEq

/-- The price of a task, as it is charged and as it is kept in its row. -/
structure TaskPrice where
  (quota baseQuota providerBaseQuota : ℤ)
  deriving DecidableEq

def applyOtherRatios (quota : ℤ) (order : List ℚ) : ℤ :=
  order.foldl (fun quota ra => if ra ≠ 1 then intPart (quota * ra) else quota) quota

namespace TaskSubmission

variable (submission : TaskSubmission)

/-- The orders in which the ratios of the task can be seen. -/
abbrev Order : Type := submission.mode.otherRatios.Iteration

/-- Models whose price is for the whole task. -/
def Patched : Prop := submission.modelName ∈ submission.taskPricePatches

instance : Decidable submission.Patched := inferInstanceAs (Decidable (_ ∈ _))

def mainSiteQuota (order : submission.Order) : ℤ :=
  if submission.Patched then submission.quota else applyOtherRatios submission.quota order.1

/-- The base quota that the price data have from the start. -/
def initialBaseQuota : ℤ :=
  match submission.mode with
  | .perCall _ _ => 0
  | .perSecond _ => submission.quota

/-- The price of the provider for a quota of the main site. -/
def providerPrice (quota : ℤ) : ProviderQuota :=
  match submission.mode with
  | .perCall usePrice _ =>
    submission.pricing.applyProviderTokenPricingQuota submission.quotaPerUnit quota 0 usePrice
      submission.groupRatio submission.estimatePromptTokens submission.estimatePromptTokens
  | .perSecond unitCount =>
    submission.pricing.applyProviderPerUnitPricingQuota submission.quotaPerUnit quota 0
      submission.groupRatio unitCount

/-- What the task is charged, for a loop in the given order. -/
def price (order : submission.Order) : Except TaskPriceError TaskPrice :=
  let quota := submission.mainSiteQuota order
  let baseQuota := if submission.initialBaseQuota = 0 then quota else submission.initialBaseQuota
  let provided := submission.providerPrice quota
  if provided.applied then
    match submission.ownerQuota with
    | some ownerQuota =>
      if ownerQuota < provided.importCostQuota then .error .providerQuotaNotEnough
      else .ok ⟨provided.providerQuota, baseQuota, provided.importCostQuota⟩
    | none => .ok ⟨provided.providerQuota, baseQuota, provided.importCostQuota⟩
  else .ok ⟨quota, baseQuota, 0⟩

def factors : List ℚ := submission.mode.otherRatios.values.filter (· ≠ 1)

/-- No product but the last one loses anything when it is cut: the quota times
    some of the ratios, but not all of them, is whole. -/
def Lossless : Prop := submission.Patched ∨ WholeParts (submission.quota : ℚ) submission.factors

end TaskSubmission

/-- A ratio of `1` is skipped, the others are multiplied with rounding. -/
lemma applyOtherRatios_eq (quota : ℤ) (order : List ℚ) :
    applyOtherRatios quota order = roundedProd intPart quota (order.filter (· ≠ 1)) := by
  rw [roundedProd, foldl_filter]
  simp [applyOtherRatios]

namespace TaskSubmission

variable {submission : TaskSubmission}

lemma mainSiteQuota_perm (h : submission.Lossless) (order order' : submission.Order) :
    submission.mainSiteQuota order = submission.mainSiteQuota order' := by
  unfold mainSiteQuota
  split
  · rfl
  case isFalse hpatched =>
    have hwhole := h.resolve_left hpatched
    have hfactors (o : submission.Order) : submission.factors.Perm (o.1.filter (· ≠ 1)) :=
      (o.2.filter _).symm
    rw [applyOtherRatios_eq, applyOtherRatios_eq, ← roundedProd_perm intPart_intCast
      (hfactors order) hwhole, ← roundedProd_perm intPart_intCast (hfactors order') hwhole]

end TaskSubmission

/-! ## A large video

Four seconds at `1792x1024`: the ratios are `4` and `1.666667`. -/

namespace Sora

def ratios : OtherRatios where
  entries := [("seconds", 4), ("size", 1666667 / 1000000)]
  nodup := by decide
  pos := by
    simp only [mem_cons, not_mem_nil, or_false]
    rintro e (rfl | rfl) <;> norm_num

def noProvider : ProviderPricing where
  providerId := 0
  providerPublicModel := ""
  importPriceRatio := 0
  importCachePriceRatio := 0
  pricingType := .ratio
  pricingRatio := 0
  deltaPrice := 0
  deltaRatio := 0

def submission (quota : ℤ) : TaskSubmission where
  modelName := "sora-2-pro"
  taskPricePatches := []
  mode := .perCall true ratios
  quota := quota
  groupRatio := 1
  estimatePromptTokens := 0
  quotaPerUnit := 500000
  pricing := noProvider
  ownerQuota := none

def secondsFirst : ratios.Iteration := ⟨[4, 1666667 / 1000000], .refl _⟩

def sizeFirst : ratios.Iteration := ⟨[1666667 / 1000000, 4], .swap _ _ _⟩

/-- A million times each of the ratios is whole. -/
lemma lossless_million : (submission 1000000).Lossless := by
  right
  have hfactors : (submission 1000000).factors = [4, 1666667 / 1000000] := by decide +kernel
  rw [hfactors]
  intro s hs hne
  have hmem := mem_sublists.2 hs
  simp only [sublists, foldr, flatMap_cons, flatMap_nil, append_nil, cons_append,
    nil_append, mem_cons, not_mem_nil, or_false] at hmem
  rcases hmem with rfl | rfl | rfl | rfl
  · exact ⟨1000000, by simp [submission]⟩
  · exact ⟨4000000, by norm_num [submission]⟩
  · exact ⟨1666667, by norm_num [submission]⟩
  · exact absurd rfl hne

end Sora

/-! ## Every order -/

/-- Every order gives the same price where no product but the last is cut. -/
theorem TaskSubmission.price_perm {submission : TaskSubmission} (h : submission.Lossless)
    (order order' : submission.Order) : submission.price order = submission.price order' := by
  simp only [price, mainSiteQuota_perm h order order']

/-- A quota that all products keep whole. -/
theorem price_perm_sora :
    (Sora.submission 1000000).price Sora.secondsFirst =
      (Sora.submission 1000000).price Sora.sizeFirst ∧
      (Sora.submission 1000000).price Sora.sizeFirst = .ok ⟨6666668, 6666668, 0⟩ :=
  ⟨TaskSubmission.price_perm Sora.lossless_million _ _, by decide +kernel⟩

/-- A quota that is cut after the size, and not after the seconds. -/
theorem price_differs_sora : (Sora.submission 100000).price Sora.secondsFirst =
    .ok ⟨666666, 666666, 0⟩ ∧
      (Sora.submission 100000).price Sora.sizeFirst = .ok ⟨666664, 666664, 0⟩ := by
  decide +kernel

end Allrouter
