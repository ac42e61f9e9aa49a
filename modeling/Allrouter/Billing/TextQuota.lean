import Allrouter.Billing.Price

/-!
# The quota of a text request

`calculateTextQuotaSummary` turns the usage that an upstream reports into a
quota. Upstreams count the prompt in two ways: an *anthropic* report leaves the
tokens that were read from a cache or written to it out of the prompt, any other
one includes them. `PostTextConsumeQuota` then lets the provider of the request
set its price on it. (Tiered expressions replace this calculation, and are not
modelled.)

* `Usage.claude`, `Usage.openai`: the two reports of one request;
* `tokens_of_semantic`: the calculation brings both to the same tokens;
* `textCharge_of_semantic`: so the quota and the cost of a provider are the same
  for both, and its charge is, unless it adds a difference per token and some of
  the tokens are cached (`charge_differs_delta`).
-/

namespace Allrouter

open ProviderPricing

/-! ## Reports -/

/-- The cost field of a report, which can hold anything. -/
inductive UsageCost
  | absent
  | int (n : ℤ)
  | float (x : ℚ)
  deriving DecidableEq

/-- What an upstream reports of a request. -/
structure Usage where
  (promptTokens completionTokens : ℤ)
  cachedTokens : ℤ := 0
  (cachedCreationTokens claudeCacheCreation5mTokens claudeCacheCreation1hTokens imageTokens
    audioTokens : ℤ := 0)
  (usageSemantic usageSource : String := "")
  cost : UsageCost := .absent

def normalizeCacheCreationSplit (totalTokens tokens5m tokens1h : ℤ) : ℤ × ℤ :=
  (tokens5m + max (totalTokens - tokens5m - tokens1h) 0, tokens1h)

/-- The prices of tools and of audio, as the operation settings have them. -/
structure ToolPrices where
  webSearchPricePerThousand : String → String → ℚ
  (claudeWebSearchPricePerThousand fileSearchPricePerThousand : ℚ)
  gptImage1PriceOnceCall : String → String → ℚ
  geminiInputAudioPricePerMillionTokens : String → ℚ

/-- The calls of built-in tools in a request to the responses endpoint. -/
structure ResponsesUsageInfo where
  /-- The number of calls, and the size of their search context. -/
  webSearchPreview : Option (ℤ × String)
  fileSearch : Option ℤ

/-- The price of a model, for a group. -/
structure TextPriceData where
  modelRatio : ℚ
  (completionRatio cacheRatio cacheCreationRatio cacheCreation5mRatio cacheCreation1hRatio
    imageRatio modelPrice : ℚ)
  usePrice : Bool
  (groupRatio userDiscount : ℚ)
  otherRatios : OtherRatios

/-- A request, with its context and the settings it reads. -/
structure TextRequest where
  originModelName : String
  priceData : TextPriceData
  openRouter : Bool
  claudeFormat : Bool
  estimatePromptTokens : ℤ
  subscription : Bool
  providerId : ℤ
  responsesUsageInfo : Option ResponsesUsageInfo
  chatSearchContextSize : String
  claudeWebSearchRequests : ℤ
  imageGenerationCall : Option (String × String)
  pricing : ProviderPricing
  quotaPerUnit : ℚ
  tools : ToolPrices
  defaultModelRatio : String → Option ℚ

namespace TextRequest

variable (request : TextRequest)

def effectiveUserDiscount : ℚ :=
  if request.subscription then 1
  else if request.priceData.userDiscount ≤ 0 ∨ 1 < request.priceData.userDiscount then 1
  else request.priceData.userDiscount

def usageSemanticFromUsage (usage : Option Usage) : String :=
  match usage.map Usage.usageSemantic with
  | none | some "" => if request.claudeFormat then "anthropic" else "openai"
  | some semantic => semantic

/-- Older reports of Claude in the other format name neither their semantic nor
    their source, but split the written tokens. -/
def isLegacyClaudeDerivedOpenAIUsage (usage : Usage) : Bool :=
  ¬request.claudeFormat ∧ usage.usageSource = "" ∧ usage.usageSemantic = "" ∧
    (0 < usage.claudeCacheCreation5mTokens ∨ 0 < usage.claudeCacheCreation1hTokens)

def hasCustomModelRatio : Bool :=
  match request.defaultModelRatio request.originModelName with
  | none => true
  | some defaultRatio => request.priceData.modelRatio ≠ defaultRatio

/-- The written tokens that the cost of a request leads back to. -/
def calcOpenRouterCacheCreateTokens (usage : Usage) : ℤ :=
  if request.priceData.cacheCreationRatio = 1 then 0
  else
    let quotaPrice := request.priceData.modelRatio / request.quotaPerUnit
    let cost := match usage.cost with | .float x => x | _ => 0
    roundHalfAway
      ((cost - usage.promptTokens * quotaPrice +
          usage.cachedTokens * (quotaPrice - quotaPrice * request.priceData.cacheRatio) -
          usage.completionTokens * (quotaPrice * request.priceData.completionRatio)) /
        (quotaPrice * request.priceData.cacheCreationRatio - quotaPrice))

/-! ## Surcharges -/

def webSearchQuota : ℚ :=
  match request.responsesUsageInfo with
  | some info =>
    match info.webSearchPreview with
    | some (callCount, searchContextSize) =>
      if 0 < callCount then
        request.tools.webSearchPricePerThousand request.originModelName searchContextSize *
          callCount / 1000 *
          request.priceData.groupRatio * request.quotaPerUnit
      else 0
    | none => 0
  | none =>
    if "search-preview".toList.isSuffixOf request.originModelName.toList then
      request.tools.webSearchPricePerThousand request.originModelName
          (if request.chatSearchContextSize = "" then "medium"
            else request.chatSearchContextSize) / 1000 *
        request.priceData.groupRatio * request.quotaPerUnit
    else 0

def claudeWebSearchQuota : ℚ :=
  if 0 < request.claudeWebSearchRequests then
    request.tools.claudeWebSearchPricePerThousand / 1000 * request.priceData.groupRatio *
      request.quotaPerUnit *
      request.claudeWebSearchRequests
  else 0

def fileSearchQuota : ℚ :=
  match request.responsesUsageInfo.bind ResponsesUsageInfo.fileSearch with
  | some callCount =>
    if 0 < callCount then
      request.tools.fileSearchPricePerThousand * callCount / 1000 * request.priceData.groupRatio *
        request.quotaPerUnit
    else 0
  | none => 0

def imageGenerationCallQuota : ℚ :=
  match request.imageGenerationCall with
  | some (quality, size) =>
    request.tools.gptImage1PriceOnceCall quality size * request.priceData.groupRatio *
      request.quotaPerUnit
  | none => 0

end TextRequest

/-! ## Tokens -/

/-- The tokens of a report, as the calculation counts them. -/
structure TextTokens where
  promptTokens : ℤ
  completionTokens : ℤ
  totalTokens : ℤ
  cacheTokens : ℤ
  (cacheCreationTokens cacheCreationTokens5m cacheCreationTokens1h nonCacheTokens imageTokens
    audioTokens : ℤ)
  /-- The prompt does not include the cached tokens. -/
  cacheApart : Bool

namespace TextRequest

variable (request : TextRequest)

def estimatedUsage : Usage :=
  { promptTokens := request.estimatePromptTokens, completionTokens := 0 }

/-- OpenRouter includes the cached tokens of Claude in the prompt, and may not
    tell the written ones. -/
def normalizeOpenRouter (usage : Usage) (tokens : TextTokens) : TextTokens :=
  let prompt := tokens.promptTokens - tokens.cacheTokens
  let isUsingCustomSettings := request.priceData.usePrice || request.hasCustomModelRatio
  let maybeCacheCreationTokens := request.calcOpenRouterCacheCreateTokens usage
  let cacheCreation :=
    if tokens.cacheCreationTokens = 0 ∧ request.priceData.cacheCreationRatio ≠ 1 ∧
      usage.cost ≠ .int 0 ∧
        ¬isUsingCustomSettings ∧ 0 ≤ maybeCacheCreationTokens ∧
          maybeCacheCreationTokens ≤ prompt then
      maybeCacheCreationTokens
    else tokens.cacheCreationTokens
  { tokens with promptTokens := prompt - cacheCreation, cacheCreationTokens := cacheCreation }

def textTokens (report : Option Usage) : TextTokens :=
  let usage := report.getD request.estimatedUsage
  let isClaudeUsageSemantic := request.usageSemanticFromUsage report = "anthropic"
  let totalTokens := usage.promptTokens + usage.completionTokens
  let tokens : TextTokens :=
    { promptTokens := usage.promptTokens
      completionTokens := usage.completionTokens
      totalTokens := totalTokens
      cacheTokens := usage.cachedTokens
      cacheCreationTokens := usage.cachedCreationTokens
      cacheCreationTokens5m := usage.claudeCacheCreation5mTokens
      cacheCreationTokens1h := usage.claudeCacheCreation1hTokens
      -- Whatever the semantic is, the cached tokens are taken off.
      nonCacheTokens := max (totalTokens - usage.cachedTokens - usage.cachedCreationTokens) 0
      imageTokens := usage.imageTokens
      audioTokens := usage.audioTokens
      cacheApart := isClaudeUsageSemantic || request.isLegacyClaudeDerivedOpenAIUsage usage }
  if request.openRouter ∧ isClaudeUsageSemantic then request.normalizeOpenRouter usage tokens
    else tokens

end TextRequest

namespace TextTokens

variable (tokens : TextTokens) (request : TextRequest)

def audioInputPrice : ℚ :=
  if tokens.audioTokens = 0 then 0
  else request.tools.geminiInputAudioPricePerMillionTokens request.originModelName

def baseTokens : ℚ :=
  tokens.promptTokens - (if tokens.cacheApart then 0
    else tokens.cacheTokens + tokens.cacheCreationTokens) -
    tokens.imageTokens - if 0 < tokens.audioInputPrice request then tokens.audioTokens else 0

def cachedTokensWithRatio : ℚ := tokens.cacheTokens * request.priceData.cacheRatio

/-- The written tokens, which only a report that counts them apart splits. -/
def cachedCreationTokensWithRatio : ℚ :=
  if tokens.cacheCreationTokens = 0 ∧
    ¬(0 < tokens.cacheCreationTokens5m ∨ 0 < tokens.cacheCreationTokens1h) then 0
  else if tokens.cacheApart then
    max (tokens.cacheCreationTokens - tokens.cacheCreationTokens5m - tokens.cacheCreationTokens1h) 0
      *
        request.priceData.cacheCreationRatio +
      tokens.cacheCreationTokens5m * request.priceData.cacheCreation5mRatio +
      tokens.cacheCreationTokens1h * request.priceData.cacheCreation1hRatio
  else tokens.cacheCreationTokens * request.priceData.cacheCreationRatio

def audioInputQuota : ℚ :=
  if 0 < tokens.audioInputPrice request then
    tokens.audioInputPrice request / 1000000 * tokens.audioTokens * request.priceData.groupRatio *
      request.quotaPerUnit
  else 0

end TextTokens

/-! ## The summary -/

/-- The parts of the price of a request. -/
structure TextQuotaSummary where
  tokens : TextTokens
  quota : ℤ
  (cacheQuotaComponent discountableQuotaComponent : ℚ)
  discountableTokens : ℤ

namespace TextRequest

variable (request : TextRequest)

def ratio : ℚ := request.priceData.modelRatio * request.priceData.groupRatio

def applyOtherRatios (value : ℚ) : ℚ :=
  applyOtherRatiosToDecimal value request.priceData.otherRatios.values

/-- The discount of the user on the tokens: the users of a provider have it on
    the price of the provider. -/
def tokenDiscount : ℚ := if 0 < request.providerId then 1 else request.effectiveUserDiscount

/-- What is charged on top of the tokens. -/
def surcharges (tokens : TextTokens) : ℚ :=
  request.webSearchQuota + request.claudeWebSearchQuota + request.fileSearchQuota +
    tokens.audioInputQuota request + request.imageGenerationCallQuota

/-- The price of the tokens, with the discount. -/
def tokenPrice (tokens : TextTokens) : ℚ :=
  let discount := if request.tokenDiscount < 1 then request.tokenDiscount else 1
  let promptQuota := tokens.baseTokens request * discount + tokens.cachedTokensWithRatio request +
    tokens.imageTokens * request.priceData.imageRatio + tokens.cachedCreationTokensWithRatio request
  let completionQuota := tokens.completionTokens * request.priceData.completionRatio * discount
  request.applyOtherRatios ((promptQuota + completionQuota) * request.ratio +
    request.surcharges tokens)

def tokenQuota (tokens : TextTokens) : ℚ :=
  if request.ratio ≠ 0 ∧ request.tokenPrice tokens ≤ 0 then 1 else request.tokenPrice tokens

/-- The quota of a request with a fixed price, before it is rounded. -/
def fixedQuota : ℚ :=
  request.applyOtherRatios
    (request.priceData.modelPrice * request.quotaPerUnit * request.priceData.groupRatio +
      (request.webSearchQuota + request.claudeWebSearchQuota + request.fileSearchQuota +
        request.imageGenerationCallQuota))

/-- Nothing is charged without tokens, and something with them. -/
def summaryQuota (tokens : TextTokens) (quota : ℤ) : ℤ :=
  if tokens.totalTokens = 0 then 0
  else if request.ratio ≠ 0 ∧ quota = 0 then 1
  else quota

/-- The price of a request by its usage. -/
def calculateTextQuotaSummary (report : Option Usage) : TextQuotaSummary :=
  let tokens := request.textTokens report
  if request.priceData.usePrice then
    { tokens := tokens
      quota := request.summaryQuota tokens (quotaFromDecimal request.fixedQuota)
      cacheQuotaComponent := 0
      discountableQuotaComponent := 0
      discountableTokens := 0 }
  else
    { tokens := tokens
      quota := request.summaryQuota tokens (quotaFromDecimal (request.tokenQuota tokens))
      cacheQuotaComponent := request.applyOtherRatios
        ((tokens.cachedTokensWithRatio request + tokens.cachedCreationTokensWithRatio request) *
          request.ratio)
      discountableQuotaComponent := request.applyOtherRatios
        ((tokens.baseTokens request + tokens.completionTokens * request.priceData.completionRatio) *
          request.ratio)
      discountableTokens := intPart (tokens.baseTokens request) + tokens.completionTokens }

/-- What a request is settled at, and what its provider pays for it. -/
structure TextCharge where
  quota : ℤ
  importCostQuota : Option ℤ
  deriving DecidableEq

/-- What the request is charged in the end, and its provider. -/
def postTextConsumeQuota (report : Option Usage) : TextCharge :=
  let summary := request.calculateTextQuotaSummary report
  if request.pricing.Applies then
    let provided :=
      request.pricing.applyProviderTokenPricingQuota request.quotaPerUnit summary.quota
      summary.cacheQuotaComponent request.priceData.usePrice request.priceData.groupRatio
      summary.tokens.totalTokens summary.tokens.nonCacheTokens
    let discountableTokens :=
      if summary.discountableTokens ≤ 0 then summary.tokens.nonCacheTokens
        else summary.discountableTokens
    let quota :=
      request.pricing.applyProviderUserDiscount request.quotaPerUnit request.effectiveUserDiscount
      provided.providerQuota summary.discountableQuotaComponent request.priceData.usePrice
      request.priceData.groupRatio discountableTokens
    ⟨max quota 0, some provided.importCostQuota⟩
  else ⟨summary.quota, none⟩

end TextRequest

/-! ## Two reports of one request -/

/-- The report of `n` tokens of the prompt that are not cached, `r` that were
    read from the cache, `w` that were written to it and `c` of the completion,
    by an upstream that leaves the cached ones out of the prompt. -/
def Usage.claude (source : String) (cost : UsageCost) (n r w c : ℕ) : Usage where
  promptTokens := n
  completionTokens := c
  cachedTokens := r
  cachedCreationTokens := w
  usageSemantic := "anthropic"
  usageSource := source
  cost := cost

/-- The same by an upstream that includes them. -/
def Usage.openai (source : String) (cost : UsageCost) (n r w c : ℕ) : Usage where
  promptTokens := n + r + w
  completionTokens := c
  cachedTokens := r
  cachedCreationTokens := w
  usageSemantic := "openai"
  usageSource := source
  cost := cost

/-- The tokens have the same price, part by part. -/
structure TextTokens.PricedAlike (request : TextRequest) (tokens tokens' : TextTokens) : Prop where
  base : tokens.baseTokens request = tokens'.baseTokens request
  completion : tokens.completionTokens = tokens'.completionTokens
  cached : tokens.cachedTokensWithRatio request = tokens'.cachedTokensWithRatio request
  creation : tokens.cachedCreationTokensWithRatio request =
    tokens'.cachedCreationTokensWithRatio request
  image : tokens.imageTokens = tokens'.imageTokens
  audio : tokens.audioInputQuota request = tokens'.audioInputQuota request
  total : tokens.totalTokens = 0 ↔ tokens'.totalTokens = 0

namespace TextRequest

variable {request : TextRequest} {n r w c : ℕ}

lemma calculateTextQuotaSummary_tokens (report : Option Usage) :
    (request.calculateTextQuotaSummary report).tokens = request.textTokens report := by
  unfold calculateTextQuotaSummary
  split <;> rfl

lemma summaryQuota_congr {tokens tokens' : TextTokens}
    (h : tokens.totalTokens = 0 ↔ tokens'.totalTokens = 0)
    (quota : ℤ) : request.summaryQuota tokens quota = request.summaryQuota tokens' quota := by
  unfold summaryQuota
  simp only [h]

lemma tokenQuota_congr {tokens tokens' : TextTokens} (h : tokens.PricedAlike request tokens') :
    request.tokenQuota tokens = request.tokenQuota tokens' := by
  have hprice : request.tokenPrice tokens = request.tokenPrice tokens' := by
    simp only [tokenPrice, surcharges, h.base, h.completion, h.cached, h.creation, h.image, h.audio]
  rw [tokenQuota, tokenQuota, hprice]

lemma calculateTextQuotaSummary_congr {report report' : Option Usage}
    (h : (request.textTokens report).PricedAlike request (request.textTokens report')) :
    request.calculateTextQuotaSummary report =
      { request.calculateTextQuotaSummary report' with tokens := request.textTokens report } := by
  dsimp only [calculateTextQuotaSummary]
  rw [tokenQuota_congr h, h.base, h.completion, h.cached, h.creation, summaryQuota_congr h.total,
    summaryQuota_congr h.total]
  split <;> rfl

lemma textTokens_claude (hrouter : request.openRouter = false) (source : String)
    (cost : UsageCost) :
    request.textTokens (some (.claude source cost n r w c)) =
      { promptTokens := n
        completionTokens := c
        totalTokens := n + c
        cacheTokens := r
        cacheCreationTokens := w
        cacheCreationTokens5m := 0
        cacheCreationTokens1h := 0
        nonCacheTokens := max (n + c - r - w) 0
        imageTokens := 0
        audioTokens := 0
        cacheApart := true } := by
  simp [textTokens, Usage.claude, usageSemanticFromUsage, hrouter]

lemma textTokens_openai (source : String) (cost : UsageCost) :
    request.textTokens (some (.openai source cost n r w c)) =
      { promptTokens := n + r + w
        completionTokens := c
        totalTokens := n + r + w + c
        cacheTokens := r
        cacheCreationTokens := w
        cacheCreationTokens5m := 0
        cacheCreationTokens1h := 0
        nonCacheTokens := n + c
        imageTokens := 0
        audioTokens := 0
        cacheApart := false } := by
  have hnonCache : max ((n + r + w + c : ℤ) - r - w) 0 = n + c := by omega
  simp [textTokens, Usage.openai, usageSemanticFromUsage,
    isLegacyClaudeDerivedOpenAIUsage, hnonCache]

lemma tokens_of_semantic (hrouter : request.openRouter = false) (hpos : 0 < n + c)
    (source source' : String) (cost cost' : UsageCost) :
      (request.textTokens (some (.claude source cost n r w c))).PricedAlike request
      (request.textTokens (some (.openai source' cost' n r w c))) := by
  rw [textTokens_claude hrouter, textTokens_openai]
  constructor
  case base =>
    simp only [TextTokens.baseTokens]
    simp
  case creation =>
    have hmax : max ((w : ℤ) - 0 - 0) 0 = w := by omega
    simp only [TextTokens.cachedCreationTokensWithRatio]
    simp
  case total =>
    show (n + c : ℤ) = 0 ↔ (n + r + w + c : ℤ) = 0
    omega
  all_goals rfl

/-- The tokens that the discount of a user is for are the same in both reports,
    and there are some. -/
lemma discountableTokens_openai (htokens : request.priceData.usePrice = false) (source : String)
    (cost : UsageCost) :
    (request.calculateTextQuotaSummary (some (.openai source cost n r w c))).discountableTokens =
      n + c := by
  have hbase : (request.textTokens (some (.openai source cost n r w c))).baseTokens request =
      (n : ℤ) := by
    rw [textTokens_openai]
    simp only [TextTokens.baseTokens]
    simp
  simp only [calculateTextQuotaSummary, htokens, hbase, intPart_intCast]
  rw [textTokens_openai]
  rfl

variable (request r w) in
/-- The provider adds nothing per token, or no token is cached. -/
def ChargesAlike : Prop :=
  ¬request.pricing.Applies ∨ request.pricing.pricingType = .ratio ∨
    request.pricing.deltaRatio * request.priceData.groupRatio = 0 ∨ r + w = 0

/-- The difference counts the tokens that are not cached. For the report that leaves the cached ones
    out of the prompt these are taken off once more. -/
lemma delta_of_semantic_iff (hpos : 0 < n + c) :
    request.pricing.delta request.quotaPerUnit false request.priceData.groupRatio ((n + c : ℤ) : ℚ)
        ((max (n + c - r - w : ℤ) 0 : ℤ) : ℚ) false =
      request.pricing.delta request.quotaPerUnit false request.priceData.groupRatio
        ((n + r + w + c : ℤ) : ℚ) ((n + c : ℤ) : ℚ) false ↔
    request.pricing.deltaRatio * request.priceData.groupRatio = 0 ∨ r + w = 0 := by
  have hclaude : ¬(((max (n + c - r - w : ℤ) 0 : ℤ) : ℚ) < 0 ∨
      ((n + c : ℤ) : ℚ) < ((max (n + c - r - w : ℤ) 0 : ℤ) : ℚ)) := by
    rw [Int.cast_lt_zero, Int.cast_lt]
    omega
  have hopenai : ¬(((n + c : ℤ) : ℚ) < 0 ∨ ((n + r + w + c : ℤ) : ℚ) < ((n + c : ℤ) : ℚ)) := by
    rw [Int.cast_lt_zero, Int.cast_lt]
    omega
  have htokens : ((max (n + c - r - w : ℤ) 0 : ℤ) : ℚ) = ((n + c : ℤ) : ℚ) ↔ r + w = 0 := by
    rw [Int.cast_inj]
    omega
  simp only [delta, Bool.false_eq_true, if_false, if_neg hclaude, if_neg hopenai]
  rw [mul_right_comm, mul_right_comm _ ((n + c : ℤ) : ℚ), mul_eq_mul_left_iff, htokens, or_comm]

end TextRequest

/-! ## A resold model

A provider resells a model at twice the price, or at one more per token. A
request has 1000 tokens in the prompt besides 600 cached ones, and 100 in the
completion. -/

namespace Resold

def pricing (pricingType : ProviderPricingType) : ProviderPricing where
  providerId := 1
  providerPublicModel := "claude-sonnet"
  importPriceRatio := 1
  importCachePriceRatio := 1
  pricingType := pricingType
  pricingRatio := 2
  deltaPrice := 0
  deltaRatio := 1

def priceData : TextPriceData where
  modelRatio := 3 / 2
  completionRatio := 5
  cacheRatio := 1 / 10
  cacheCreationRatio := 5 / 4
  cacheCreation5mRatio := 5 / 4
  cacheCreation1hRatio := 2
  imageRatio := 0
  modelPrice := -1
  usePrice := false
  groupRatio := 1
  userDiscount := 1
  otherRatios := .empty

def request (pricingType : ProviderPricingType) : TextRequest where
  originModelName := "claude-sonnet-4"
  priceData := priceData
  openRouter := false
  claudeFormat := true
  estimatePromptTokens := 0
  subscription := false
  providerId := 1
  responsesUsageInfo := none
  chatSearchContextSize := ""
  claudeWebSearchRequests := 0
  imageGenerationCall := none
  pricing := pricing pricingType
  quotaPerUnit := 500000
  tools := ⟨fun _ _ => 0, 0, 0, fun _ _ => 0, fun _ => 0⟩
  defaultModelRatio := fun _ => none

def claude : Option Usage := some (.claude "" .absent 1000 600 0 100)

def openai : Option Usage := some (.openai "" .absent 1000 600 0 100)

end Resold

/-! ## Both reports -/

/-- What the provider of a request asks for, before it is rounded. -/
def TextRequest.exactPrice (request : TextRequest) (report : Option Usage) : ℚ :=
  let summary := request.calculateTextQuotaSummary report
  request.pricing.providerPrice request.quotaPerUnit summary.quota summary.cacheQuotaComponent
    request.priceData.usePrice request.priceData.groupRatio summary.tokens.totalTokens
    summary.tokens.nonCacheTokens false

/-- Both reports of a request have the same quota and the same cost of the provider. The provider's
    price is the same, before it is rounded, just where it has no difference on cached tokens; so
    is its charge then. -/
theorem textCharge_of_semantic (request : TextRequest)
    (htokens : request.priceData.usePrice = false) (hrouter : request.openRouter = false)
    (n r w c : ℕ) (hpos : 0 < n + c) (source source' : String) (cost cost' : UsageCost) :
    (request.calculateTextQuotaSummary (some (.claude source cost n r w c))).quota =
        (request.calculateTextQuotaSummary (some (.openai source' cost' n r w c))).quota ∧
      (request.postTextConsumeQuota (some (.claude source cost n r w c))).importCostQuota =
        (request.postTextConsumeQuota (some (.openai source' cost' n r w c))).importCostQuota ∧
      (¬request.pricing.Applies ∨ request.exactPrice (some (.claude source cost n r w c)) =
          request.exactPrice (some (.openai source' cost' n r w c)) ↔ request.ChargesAlike r w) ∧
      (request.ChargesAlike r w →
        (request.postTextConsumeQuota (some (.claude source cost n r w c))).quota =
          (request.postTextConsumeQuota (some (.openai source' cost' n r w c))).quota) := by
  have hsummary := request.calculateTextQuotaSummary_congr
    (request.tokens_of_semantic hrouter hpos source source' cost cost' (r := r) (w := w))
  have htok := request.discountableTokens_openai htokens source' cost' (n := n) (r := r)
    (w := w) (c := c)
  have hprice : request.exactPrice (some (.claude source cost n r w c)) =
      request.exactPrice (some (.openai source' cost' n r w c)) ↔
      request.pricing.pricingType = .ratio ∨
        request.pricing.deltaRatio * request.priceData.groupRatio = 0 ∨ r + w = 0 := by
    unfold TextRequest.exactPrice providerPrice
    rw [hsummary]
    dsimp only
    rw [request.calculateTextQuotaSummary_tokens, request.textTokens_claude hrouter,
      request.textTokens_openai, htokens]
    cases request.pricing.pricingType with
    | ratio => exact iff_of_true rfl (.inl rfl)
    | delta => simpa using request.delta_of_semantic_iff hpos
  refine ⟨by rw [hsummary], ?_, or_congr_right hprice, fun halike => ?_⟩
  · unfold TextRequest.postTextConsumeQuota
    rw [hsummary]
    split
    · simp only [applyProviderTokenPricingQuota, applyProviderPricingQuota]
      split <;> rfl
    · rfl
  · by_cases happlies : request.pricing.Applies
    · have hexact := hprice.2 (halike.resolve_left (not_not.2 happlies))
      dsimp only [TextRequest.exactPrice] at hexact
      dsimp only [TextRequest.postTextConsumeQuota, applyProviderTokenPricingQuota,
        applyProviderPricingQuota]
      have hsome : ¬((n : ℤ) + c ≤ 0) := by omega
      -- The fallback of the discount is not taken.
      rw [hexact, hsummary]
      simp only [htok, if_neg hsome]
    · unfold TextRequest.postTextConsumeQuota
      rw [hsummary, if_neg happlies, if_neg happlies]

/-- A provider that sells at twice the price charges the same for both reports. -/
theorem textCharge_of_semantic_resold :
    ((Resold.request .ratio).postTextConsumeQuota Resold.claude).quota =
        ((Resold.request .ratio).postTextConsumeQuota Resold.openai).quota ∧
      (Resold.request .ratio).postTextConsumeQuota Resold.openai = ⟨4590, some 2340⟩ :=
  ⟨(textCharge_of_semantic (Resold.request .ratio) rfl rfl 1000 600 0 100 (by decide) "" "" .absent
    .absent).2.2.2
    (.inr (.inl rfl)), by decide +kernel⟩

/-- A provider that adds one per token charges 600 less for the one report. -/
theorem charge_differs_delta : (Resold.request .delta).postTextConsumeQuota Resold.claude =
    ⟨2840, some 2340⟩ ∧
      (Resold.request .delta).postTextConsumeQuota Resold.openai = ⟨3440, some 2340⟩ := by
  decide +kernel

end Allrouter
