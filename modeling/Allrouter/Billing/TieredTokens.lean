import Allrouter.Billing.TextQuota

/-!
# The tokens of a tiered expression

An expression prices some parts of the tokens by variables of their own. What it does not price so
is left in `p` and `c` (`buildTieredTokenParams`); of these, cached tokens and media are not
discounted.

* `tokens_counted_once`: every reported token is counted by one variable, and the parts of `p` and
  `c` that are discounted stay within them.
-/

namespace Allrouter

/-- The usage with the tokens of images and of sound in the output. -/
structure DetailedUsage extends Usage where
  (completionImageTokens completionAudioTokens : ℤ := 0)

/-- The variables of an expression. The source has floating-point numbers, which are exact for
    counts. -/
structure TokenParams where
  (p c len cr cc cc1h img imgO ai ao discountableP discountableC cacheFallbackP : ℤ := 0)
  hasBreakdown : Bool := false

section

variable (usedVars : String → Bool)

/-- The tokens, if the expression has the variable for them. -/
def priced (name : String) (tokens : ℤ) : ℤ := if usedVars name then tokens else 0

/-- The tokens, if the expression has no variable for them. -/
def unpriced (name : String) (tokens : ℤ) : ℤ := if usedVars name then 0 else tokens

def TokenParams.pricedInput (t : TokenParams) : ℤ :=
  priced usedVars "cr" t.cr + priced usedVars "cc" t.cc + priced usedVars "cc1h" t.cc1h +
    priced usedVars "img" t.img + priced usedVars "ai" t.ai

def TokenParams.pricedOutput (t : TokenParams) : ℤ :=
  priced usedVars "img_o" t.imgO + priced usedVars "ao" t.ao

/-- The numbers of tokens that a price is computed from. -/
def buildTieredTokenParams (usage : Option DetailedUsage) (isClaudeUsageSemantic : Bool) :
    TokenParams :=
  match usage with
  | none => {}
  | some usage =>
    let cc := normalizeCacheCreationSplit usage.cachedCreationTokens
      usage.claudeCacheCreation5mTokens
      usage.claudeCacheCreation1hTokens
    let t : TokenParams :=
      { cr := usage.cachedTokens, cc := cc.1, cc1h := cc.2, img := usage.imageTokens,
        ai := usage.audioTokens
        imgO := usage.completionImageTokens, ao := usage.completionAudioTokens,
          hasBreakdown := true }
    if isClaudeUsageSemantic then
      { t with
        p := max usage.promptTokens 0
        c := max usage.completionTokens 0
        len := usage.promptTokens + t.cr + t.cc + t.cc1h
        discountableP := max usage.promptTokens 0
        discountableC := max usage.completionTokens 0 }
    else
      let p := max (usage.promptTokens - t.pricedInput usedVars) 0
      let c := max (usage.completionTokens - t.pricedOutput usedVars) 0
      let cacheFallbackP := unpriced usedVars "cr" t.cr + unpriced usedVars "cc" t.cc +
        unpriced usedVars "cc1h" t.cc1h
      let nonDiscountableP := cacheFallbackP + unpriced usedVars "img" t.img +
        unpriced usedVars "ai" t.ai
      let nonDiscountableC := unpriced usedVars "img_o" t.imgO + unpriced usedVars "ao" t.ao
      { t with
        p := p
        c := c
        len := usage.promptTokens
        discountableP := p - min nonDiscountableP p
        discountableC := c - min nonDiscountableC c
        cacheFallbackP := min cacheFallbackP p }

lemma unpriced_nonneg (name : String) {tokens : ℤ} (h : 0 ≤ tokens) :
    0 ≤ unpriced usedVars name tokens := by
  rw [unpriced]
  split_ifs
  · exact le_rfl
  · exact h

/-- The counts of a report that are priced on their own are not negative. -/
structure DetailedUsage.Nonneg (usage : DetailedUsage) : Prop where
  cached : 0 ≤ usage.cachedTokens
  created : 0 ≤ usage.claudeCacheCreation5mTokens ∧ 0 ≤ usage.claudeCacheCreation1hTokens
  media : 0 ≤ usage.imageTokens ∧ 0 ≤ usage.audioTokens
  output : 0 ≤ usage.completionImageTokens ∧ 0 ≤ usage.completionAudioTokens

/-- What the report says was written to the cache: at least the parts that it names. -/
def DetailedUsage.created (usage : DetailedUsage) : ℤ :=
  max usage.cachedCreationTokens (usage.claudeCacheCreation5mTokens +
    usage.claudeCacheCreation1hTokens)

/-- The variables for the parts of a report: what was written to the cache and is not said to be
    kept for an hour is `cc`. -/
structure TokenParams.Reports (t : TokenParams) (usage : DetailedUsage) : Prop where
  cr : t.cr = usage.cachedTokens
  cc : t.cc = usage.created - usage.claudeCacheCreation1hTokens
  cc1h : t.cc1h = usage.claudeCacheCreation1hTokens
  input : t.img = usage.imageTokens ∧ t.ai = usage.audioTokens
  output : t.imgO = usage.completionImageTokens ∧ t.ao = usage.completionAudioTokens

/-- The tokens of the prompt that the report puts into a part with a variable of its own. -/
def DetailedUsage.pricedInput (usage : DetailedUsage) : ℤ :=
  priced usedVars "cr" usage.cachedTokens +
    priced usedVars "cc" (usage.created - usage.claudeCacheCreation1hTokens) +
    priced usedVars "cc1h" usage.claudeCacheCreation1hTokens +
      priced usedVars "img" usage.imageTokens +
    priced usedVars "ai" usage.audioTokens

def DetailedUsage.pricedOutput (usage : DetailedUsage) : ℤ :=
  priced usedVars "img_o" usage.completionImageTokens +
    priced usedVars "ao" usage.completionAudioTokens

lemma reports_buildTieredTokenParams (usage : DetailedUsage) :
    (buildTieredTokenParams usedVars (some usage) false).Reports usage where
  cr := rfl
  cc := by
    have : usage.claudeCacheCreation5mTokens + max (usage.cachedCreationTokens -
        usage.claudeCacheCreation5mTokens - usage.claudeCacheCreation1hTokens) 0 =
        usage.created - usage.claudeCacheCreation1hTokens := by
      rw [DetailedUsage.created]
      omega
    exact this
  cc1h := rfl
  input := ⟨rfl, rfl⟩
  output := ⟨rfl, rfl⟩

lemma TokenParams.Reports.pricedInput {t : TokenParams} {usage : DetailedUsage}
    (h : t.Reports usage) :
    t.pricedInput usedVars = usage.pricedInput usedVars := by
  rw [TokenParams.pricedInput, h.cr, h.cc, h.cc1h, h.input.1, h.input.2, DetailedUsage.pricedInput]

lemma TokenParams.Reports.pricedOutput {t : TokenParams} {usage : DetailedUsage}
    (h : t.Reports usage) :
    t.pricedOutput usedVars = usage.pricedOutput usedVars := by
  rw [TokenParams.pricedOutput, h.output.1, h.output.2, DetailedUsage.pricedOutput]

/-- **Every token is counted once.** Where the parts that have variables fit into the totals, `p`
    and `c` are what they leave of these, each variable is the count of the report, and what is
    discounted stays within `p` and `c`. -/
theorem tokens_counted_once (usage : DetailedUsage) (h : usage.Nonneg)
    (hinput : usage.pricedInput usedVars ≤ usage.promptTokens)
    (houtput : usage.pricedOutput usedVars ≤ usage.completionTokens) :
    let t := buildTieredTokenParams usedVars (some usage) false
    t.Reports usage ∧ t.p + usage.pricedInput usedVars = usage.promptTokens ∧
      t.c + usage.pricedOutput usedVars = usage.completionTokens ∧
      0 ≤ t.discountableP ∧ t.discountableP ≤ t.p - t.cacheFallbackP ∧
        t.p - t.cacheFallbackP ≤ t.p ∧
      0 ≤ t.discountableC ∧ t.discountableC ≤ t.c := by
  intro t
  have hreports : t.Reports usage := reports_buildTieredTokenParams usedVars usage
  rw [← hreports.pricedInput] at hinput ⊢
  rw [← hreports.pricedOutput] at houtput ⊢
  have hcache := unpriced_nonneg usedVars "cr" h.cached
  have hcc := unpriced_nonneg usedVars "cc" (add_nonneg h.created.1 (le_max_right
    (usage.cachedCreationTokens - usage.claudeCacheCreation5mTokens
      - usage.claudeCacheCreation1hTokens) 0))
  have hcc1h := unpriced_nonneg usedVars "cc1h" h.created.2
  have himg := unpriced_nonneg usedVars "img" h.media.1
  have hai := unpriced_nonneg usedVars "ai" h.media.2
  have houtputs := add_nonneg (unpriced_nonneg usedVars "img_o" h.output.1)
    (unpriced_nonneg usedVars "ao" h.output.2)
  -- The sums fit, so `p` and `c` are not cut off at zero.
  refine ⟨hreports, ?_, ?_, sub_nonneg.2 (min_le_right _ _), ?_, sub_le_self _ ?_,
    sub_nonneg.2 (min_le_right _ _), sub_le_self _ ?_⟩
  · exact (congrArg (· + _) (max_eq_left (sub_nonneg.2 hinput))).trans (sub_add_cancel _ _)
  · exact (congrArg (· + _) (max_eq_left (sub_nonneg.2 houtput))).trans (sub_add_cancel _ _)
  · refine sub_le_sub_left (min_le_min_right _ ?_) _
    exact le_add_of_le_of_nonneg (le_add_of_nonneg_right himg) hai
  · exact le_min (add_nonneg (add_nonneg hcache hcc) hcc1h) (le_max_right _ _)
  · exact le_min houtputs (le_max_right _ _)

end

/-- A prompt of which a part was cached, for an expression that prices what was read from the
    cache. -/
def cachedPrompt : DetailedUsage where
  promptTokens := 1000
  completionTokens := 200
  cachedTokens := 600
  cachedCreationTokens := 100
  completionAudioTokens := 50

/-- The cached part of a prompt has a price of its own. -/
theorem tokens_counted_once_cachedPrompt :
    (buildTieredTokenParams (· = "cr") (some cachedPrompt) false).p + 600 = 1000 :=
  (tokens_counted_once (· = "cr") cachedPrompt ⟨by decide, by decide, by decide, by decide⟩
    (by decide)
    (by decide)).2.1

end Allrouter
