import Allrouter.Library.Text

/-!
# The model name of an attempt

A request names a model, and each channel that is tried may map it to another one, along a
chain of entries. What an attempt starts from is kept with the request (`ModelInfo`): the name
asked for is also what the next attempt starts from. Two steps write to it: in the mode
of compact responses the mapping puts back the name that it has found, and the handler of Gemini
requests asks for the model without thinking where that one has a price of its own.

* `mapped_along_chain`: a mapping gives an error exactly if its chain enters a cycle, and else the
  first model that is not mapped to another one;
* `initChannelMeta_attempt`: an attempt that leaves the name alone leaves nothing behind for the
  next one;
* `sent_independent`: after such attempts, a channel is sent the name that it would be sent
  if it were tried first;
* `sent_mapped_before`: in the mode of compact responses, the mapping of the first channel
  decides what the second one is sent.
-/

namespace Allrouter

open Text List Function

/-! ## Names and mappings -/

def compactModelSuffix : String := "-openai-compact"

def withCompactModelSuffix (modelName : String) : String :=
  if hasSuffix compactModelSuffix modelName then modelName else modelName ++ compactModelSuffix

/-- What a request asks for. -/
inductive RelayMode
  | chatCompletions
  | responses
  | responsesCompact
  | gemini
  | other (mode : ℕ)
  deriving DecidableEq

/-- The text `model_mapping` of a channel. -/
inductive ModelMapping
  /-- It is empty, or that of the empty object. -/
  | absent
  /-- It is not an object of texts. -/
  | invalid
  | entries (map : List (String × String))
  deriving DecidableEq

/-- Why a model is not mapped. -/
inductive MappingError
  /-- "unmarshal_model_mapping_failed" -/
  | unmarshal
  /-- "model_mapping_contains_cycle" -/
  | cycle
  deriving DecidableEq

/-- The model that an entry maps to; of several entries for a model the last one counts, and the
    empty name is none. -/
def mappedModel (map : List (String × String)) (model : String) : Option String :=
  (map.reverse.lookup model).filter (· ≠ "")

/-- Where following a mapping ends. -/
inductive Followed
  /-- The model asked for is mapped to itself. -/
  | itself
  | reached (model : String) (isModelMapped : Bool)
  deriving DecidableEq

variable {current next origin : String} {isModelMapped : Bool} {map : List (String × String)}
  {visited : List String}

lemma mem_of_mappedModel {model : String} (h : mappedModel map model = some next) :
    (model, next) ∈ map := by
  have hlookup := (Option.filter_eq_some_iff.1 h).1
  obtain ⟨l, r, hsplit, -⟩ := lookup_eq_some_iff.1 hlookup
  rw [← mem_reverse, hsplit]
  exact mem_append_right _ mem_cons_self

/-- The chain from `current` on; `visited` are the models on it so far. -/
def follow (map : List (String × String)) (origin current : String) (visited : List String)
    (isModelMapped : Bool) : Except MappingError Followed :=
  match _h : mappedModel map current with
  | none => .ok (.reached current isModelMapped)
  | some next =>
    if _hnext : next ∈ visited then
      if next = current then
        if current = origin then .ok .itself else .ok (.reached current true)
      else .error .cycle
    else follow map origin next (next :: visited) true
-- Every model on the chain is the target of an entry, and is visited once.
termination_by ((map.map Prod.snd).toFinset \ visited.toFinset).card
decreasing_by
  apply Finset.card_lt_card
  have hmem : next ∈ (map.map Prod.snd).toFinset :=
    mem_toFinset.2 (mem_map_of_mem (mem_of_mappedModel _h))
  refine Finset.ssubset_iff_of_subset (fun model hmodel => ?_) |>.2 ⟨next, ?_, ?_⟩
  · simp only [Finset.mem_sdiff, mem_toFinset, mem_cons, not_or] at hmodel ⊢
    exact ⟨hmodel.1, hmodel.2.2⟩
  · exact Finset.mem_sdiff.2 ⟨hmem, fun h => _hnext (mem_toFinset.1 h)⟩
  · simp

lemma follow_eq : follow map origin current visited isModelMapped =
    match mappedModel map current with
    | none => .ok (.reached current isModelMapped)
    | some next =>
      if next ∈ visited then
        if next = current then .ok (if current = origin then .itself else .reached current true)
          else .error .cycle
      else follow map origin next (next :: visited) true := by
  rw [follow]
  split
  case h_1 h => rw [h]
  case h_2 next h =>
    rw [h]
    dsimp only
    split_ifs <;> rfl

lemma follow_step (h : mappedModel map current = some next) (hnext : next ∉ visited) :
    follow map origin current visited isModelMapped =
      follow map origin next (next :: visited) true := by
  rw [follow_eq, h]
  exact if_neg hnext

lemma follow_end (h : mappedModel map current = none) :
    follow map origin current visited isModelMapped = .ok (.reached current isModelMapped) := by
  rw [follow_eq, h]

/-! ## Chains -/

/-- `follow` with at most `n` lookups. -/
def followWithin (map : List (String × String)) (origin : String) :
    ℕ → String → List String → Bool → Option (Except MappingError Followed)
  | 0, _, _, _ => none
  | n + 1, current, visited, isModelMapped =>
    match mappedModel map current with
    | none => some (.ok (.reached current isModelMapped))
    | some next =>
      if next ∈ visited then
        some (if next = current then .ok (if current = origin then .itself
          else .reached current true) else .error .cycle)
      else followWithin map origin n next (next :: visited) true

variable (map) in
/-- The model after `model` on a chain; the last one is followed by itself. -/
def nextModel (model : String) : String := (mappedModel map model).getD model

variable (map) in
/-- The chain from `model` enters a cycle of two or more models. -/
def EntersCycle (model : String) : Prop :=
  ∃ i, (nextModel map)^[i] model ∈ periodicPts (nextModel map) ∧
    ¬IsFixedPt (nextModel map) ((nextModel map)^[i] model)

variable (map) in
/-- `last` is the first one on the chain from `model` that is not mapped to another one. -/
def EndsAt (model last : String) : Prop :=
  ∃ n, (nextModel map)^[n] model = last ∧ IsFixedPt (nextModel map) last ∧
    ∀ i < n, ¬IsFixedPt (nextModel map) ((nextModel map)^[i] model)

lemma EndsAt.not_entersCycle {last : String} (h : EndsAt map current last) :
    ¬EntersCycle map current := by
  rintro ⟨i, ⟨p, hp, hperiod⟩, hne⟩
  obtain ⟨n, rfl, hfixed, -⟩ := h
  have hle : n ≤ n * p + i := (Nat.le_mul_of_pos_right n hp).trans (Nat.le_add_right ..)
  have hback : (nextModel map)^[i] current = (nextModel map)^[n] current :=
    calc (nextModel map)^[i] current = (nextModel map)^[n * p] ((nextModel map)^[i] current) :=
      (hperiod.const_mul n).symm
      _ = (nextModel map)^[n * p + i - n] ((nextModel map)^[n] current) := by
        rw [← iterate_add_apply, ← iterate_add_apply, Nat.sub_add_cancel hle]
      _ = (nextModel map)^[n] current := hfixed.iterate _
  exact hne (hback ▸ hfixed)

lemma EndsAt.cons {last : String} (h : EndsAt map (nextModel map current) last)
    (hne : ¬IsFixedPt (nextModel map) current) : EndsAt map current last := by
  obtain ⟨n, hn, hfixed, hfirst⟩ := h
  refine ⟨n + 1, hn, hfixed, fun i hi => ?_⟩
  cases i with
  | zero => exact hne
  | succ i => exact hfirst i (by omega)

/-- What following the mapping has found is so. -/
def Leads (map : List (String × String)) (origin current : String) :
    Except MappingError Followed → Prop
  | .error e => e = .cycle ∧ EntersCycle map current
  | .ok .itself => EndsAt map current origin
  | .ok (.reached last isModelMapped) => EndsAt map current last ∧ (isModelMapped ↔ last ≠ origin)

lemma Leads.cons {r : Except MappingError Followed} (h : Leads map origin (nextModel map current) r)
    (hne : ¬IsFixedPt (nextModel map) current) : Leads map origin current r :=
  match r, h with
  | .error _, ⟨he, i, hi⟩ => ⟨he, i + 1, hi⟩
  | .ok .itself, h => EndsAt.cons h hne
  | .ok (.reached _ _), h => ⟨h.1.cons hne, h.2⟩

/-- The models that were looked up are different keys, and lead to the current one. -/
lemma followWithin_leads {n : ℕ} (hnodup : (current :: visited).Nodup)
    (hkeys : visited ⊆ map.map Prod.fst)
    (hn : (map.map Prod.fst).toFinset.card < n + visited.length)
    (horigin : origin ∈ current :: visited) (hmapped : isModelMapped ↔ current ≠ origin)
    (hback : ∀ model ∈ current :: visited, ∃ k, (nextModel map)^[k] model = current) :
    followWithin map origin n current (current :: visited) isModelMapped =
        some (follow map origin current (current :: visited) isModelMapped) ∧
      Leads map origin current (follow map origin current (current :: visited) isModelMapped) := by
  induction n generalizing current visited isModelMapped with
  | zero =>
    have hle := Finset.card_le_card fun model hmodel =>
      mem_toFinset.2 (hkeys (mem_toFinset.1 hmodel))
    rw [toFinset_card_of_nodup (nodup_cons.1 hnodup).2] at hle
    omega
  | succ n ih =>
    rw [followWithin, follow_eq]
    cases hnext : mappedModel map current with
    | none => exact ⟨rfl, ⟨0, rfl, by rw [IsFixedPt, nextModel, hnext]; rfl, nofun⟩, hmapped⟩
    | some next =>
      obtain rfl : nextModel map current = next := by rw [nextModel, hnext]; rfl
      dsimp only
      split_ifs with hmem hself horigin'
      · exact ⟨rfl, 0, horigin', horigin' ▸ hself, nofun⟩
      · exact ⟨rfl, ⟨0, rfl, hself, nofun⟩, iff_of_true rfl horigin'⟩
      · obtain ⟨k, hk⟩ := hback _ hmem
        exact ⟨rfl, rfl, 0, ⟨k + 1, k.succ_pos, hk⟩, hself⟩
      · have hback' : ∀ model ∈ nextModel map current :: current :: visited,
            ∃ k, (nextModel map)^[k] model = nextModel map current := by
          refine forall_mem_cons.2 ⟨⟨0, rfl⟩, fun model hmodel => ?_⟩
          obtain ⟨k, hk⟩ := hback model hmodel
          exact ⟨k + 1, by rw [iterate_succ_apply', hk]⟩
        obtain ⟨hwithin, hrest⟩ := ih (nodup_cons.2 ⟨hmem, hnodup⟩)
          (cons_subset.2 ⟨mem_map_of_mem (mem_of_mappedModel hnext), hkeys⟩)
            (by simp only [length_cons]; omega)
          (mem_cons_of_mem _ horigin) (iff_of_true rfl fun h => hmem (h ▸ horigin)) hback'
        exact ⟨hwithin, hrest.cons fun h => hmem (h.symm ▸ mem_cons_self)⟩

/-! ## An attempt -/

/-- What a relay run keeps about the model of its request. -/
structure ModelInfo where
  relayMode : RelayMode
  originModelName : String
  /-- The model in the request itself; some requests have none. -/
  requestModel : Option String
  /-- The request turns thinking off, and the adapter for this is enabled. -/
  noThinking : Bool := false
  upstreamModelName : String := ""
  isModelMapped : Bool := false

/-- The request with another model; the empty name changes nothing. -/
def setModelName (modelName : String) (requestModel : Option String) : Option String :=
  if modelName = "" then requestModel else requestModel.map fun _ => modelName

lemma setModelName_setModelName (modelName : String) (requestModel : Option String) :
    setModelName modelName (setModelName modelName requestModel) =
      setModelName modelName requestModel := by
  rw [setModelName, setModelName]
  split_ifs
  · rfl
  · rw [Option.map_map]
    rfl

/-- What is read of a channel that a request is tried on. -/
structure TriedChannel where
  modelMapping : ModelMapping
  /-- It answers responses by way of chat completions. -/
  responsesChat : Bool := false

def TriedChannel.relayMode (channel : TriedChannel) (mode : RelayMode) : RelayMode :=
  if channel.responsesChat ∧ (mode = .responses ∨ mode = .responsesCompact) then .chatCompletions
    else mode

/-- The model names that go to the channel: that of its address, and that of the request. -/
structure SentModel where
  upstreamModelName : String
  requestModel : Option String
  deriving DecidableEq

namespace ModelInfo

variable (info : ModelInfo)

/-- The start of an attempt. Before it, the context has been set up with the name asked for. -/
def initChannelMeta (originalModel : String) : ModelInfo :=
  { info with
    upstreamModelName := originalModel
    isModelMapped := false
    requestModel := setModelName info.originModelName info.requestModel }

def mappingModelName (mode : RelayMode) : String :=
  if mode = .responsesCompact then trimSuffix compactModelSuffix info.originModelName
  else info.originModelName

/-- The end of the mapping, which only compact responses and the request see. -/
def mapped (mode : RelayMode) (requestModel : Option String) : SentModel × ModelInfo :=
  let info' :=
    if mode = .responsesCompact then
      let final :=
        if info.isModelMapped ∧ info.upstreamModelName ≠ "" then info.upstreamModelName
        else info.mappingModelName mode
      { info with upstreamModelName := final, originModelName := withCompactModelSuffix final }
    else info
  (⟨info'.upstreamModelName, setModelName info'.upstreamModelName requestModel⟩, info')

/-- The mapping, on a copy of the request. -/
def modelMappedHelper (mode : RelayMode) (mapping : ModelMapping) (requestModel : Option String) :
    Except MappingError SentModel × ModelInfo :=
  match mapping with
  | .absent =>
    let (sent, info') := info.mapped mode requestModel
    (.ok sent, info')
  | .invalid => (.error .unmarshal, info)
  | .entries map =>
    let model := info.mappingModelName mode
    match follow map info.originModelName model [model] info.isModelMapped with
    | .error e => (.error e, { info with isModelMapped := true })
    | .ok .itself =>
      (.ok ⟨info.upstreamModelName, requestModel⟩, { info with isModelMapped := false })
    | .ok (.reached current isModelMapped) =>
      let info₁ := { info with isModelMapped }
      let info₂ := if isModelMapped then { info₁ with upstreamModelName := current } else info₁
      let (sent, info') := info₂.mapped mode requestModel
      (.ok sent, info')

/-- **The chain of a mapping.** It is followed in as many lookups as there are models, and one more.
    It gives an error exactly if it enters a cycle, and else ends at the first model that is not
    mapped to another one. -/
theorem mapped_along_chain {mode : RelayMode} (hmode : mode ≠ .responsesCompact)
    (hstart : info.isModelMapped = false) (hname : info.upstreamModelName = info.originModelName)
    (map : List (String × String)) (requestModel : Option String) :
    let x := info.originModelName
    let result := info.modelMappedHelper mode (.entries map) requestModel
    followWithin map x ((map.map Prod.fst).toFinset.card + 1) x [x] false =
      some (follow map x x [x] false) ∧
      (result.1 = .error .cycle ↔ EntersCycle map x) ∧
      (¬EntersCycle map x → EndsAt map x result.2.upstreamModelName ∧
        (result.2.isModelMapped ↔ result.2.upstreamModelName ≠ x)) ∧
      (map = [] → info.modelMappedHelper mode .absent requestModel = result) := by
  obtain ⟨hwithin, hleads⟩ := followWithin_leads (n := (map.map Prod.fst).toFinset.card + 1)
    (nodup_singleton _)
    (nil_subset _) (Nat.lt_succ_self _) (mem_singleton_self info.originModelName)
      (by simp : false ↔ _)
    (forall_mem_singleton.2 ⟨0, rfl⟩)
  refine ⟨hwithin, ?_⟩
  rw [← and_assoc]
  refine ⟨?_, ?_⟩
  · simp only [modelMappedHelper, mappingModelName, if_neg hmode, hstart, mapped]
    match hr : follow map info.originModelName info.originModelName
        [info.originModelName] false with
    | .error e =>
      obtain ⟨rfl, h⟩ : e = .cycle ∧ _ := hr ▸ hleads
      exact ⟨iff_of_true rfl h, absurd h⟩
    | .ok .itself =>
      have h : EndsAt map _ _ := hr ▸ hleads
      exact ⟨iff_of_false nofun h.not_entersCycle, fun _ => ⟨hname.symm ▸ h, by simp [hname]⟩⟩
    | .ok (.reached last isModelMapped) =>
      obtain ⟨h, hlast⟩ : EndsAt map _ last ∧ _ := hr ▸ hleads
      refine ⟨iff_of_false nofun h.not_entersCycle, fun _ => ?_⟩
      cases isModelMapped <;> simp_all
  · rintro rfl
    obtain ⟨⟩ := info
    cases hstart
    simp [modelMappedHelper, follow_end, mappedModel]

/-- A chain of three models, and a cycle. -/
def chainAndCycle : List (String × String) := [("a", "b"), ("b", "c"), ("x", "y"), ("y", "x")]

/-- One model that is mapped twice, and one on a cycle. -/
theorem mapped_along_chain_two : EndsAt chainAndCycle "a" "c" ∧ EntersCycle chainAndCycle "x" := by
  have hmode : RelayMode.responses ≠ .responsesCompact := by decide
  obtain ⟨-, hcycle, hends, -⟩ :=
    mapped_along_chain ⟨.responses, "a", none, false, "a", false⟩ hmode rfl rfl
    chainAndCycle none
  obtain ⟨-, hcycle', -⟩ :=
    mapped_along_chain ⟨.responses, "x", none, false, "x", false⟩ hmode rfl rfl
    chainAndCycle none
  constructor
  · have hnot : ¬EntersCycle chainAndCycle "a" := fun h => absurd (hcycle.2 h) (by decide +kernel)
    have hname : (ModelInfo.modelMappedHelper ⟨.responses, "a", none, false, "a", false⟩ .responses
        (.entries chainAndCycle) none).2.upstreamModelName = "c" := by decide +kernel
    exact hname ▸ (hends hnot).1
  · exact hcycle'.1 (by decide +kernel)

-- The models that have a price of their own.
variable (hasModelBillingConfig : String → Bool)

/-- A Gemini request without thinking asks for the model without thinking. -/
def RenamesModel : Prop :=
  info.relayMode = .gemini ∧ info.noThinking ∧
    ¬"-nothinking".toList <:+: info.originModelName.toList ∧
    hasModelBillingConfig (info.originModelName ++ "-nothinking")

instance : Decidable (info.RenamesModel hasModelBillingConfig) :=
  inferInstanceAs (Decidable (_ ∧ _ ∧ _ ∧ _))

/-- An attempt on a channel, from its start on: the names sent to it, and what is kept for the
    next attempt. -/
def startedAttempt (channel : TriedChannel) : Except MappingError SentModel × ModelInfo :=
  let result := info.modelMappedHelper (channel.relayMode info.relayMode) channel.modelMapping
    info.requestModel
  match result.1 with
  | .error e => (.error e, result.2)
  | .ok sent =>
    if result.2.RenamesModel hasModelBillingConfig then
      let name := result.2.originModelName ++ "-nothinking"
      (.ok { sent with upstreamModelName := name },
        { result.2 with originModelName := name, upstreamModelName := name })
    else (.ok sent, result.2)

def attempt (channel : TriedChannel) : Except MappingError SentModel × ModelInfo :=
  (info.initChannelMeta info.originModelName).startedAttempt hasModelBillingConfig channel

/-- The model after the channels that were tried. -/
def attempts (channels : List TriedChannel) : ModelInfo :=
  channels.foldl (fun info channel => (info.attempt hasModelBillingConfig channel).2) info

/-- An attempt on the channel leaves the name asked for as it is: no name is put back by a mapping
    for compact responses, and the model is not renamed. -/
structure LeavesModel (channel : TriedChannel) : Prop where
  compact : channel.relayMode info.relayMode = .responsesCompact →
    ∃ base, info.originModelName = base ++ compactModelSuffix ∧ ¬hasSuffix compactModelSuffix base ∧
      ∀ map, channel.modelMapping = .entries map → ∀ next, mappedModel map base = some next →
        next = base
  notRenamed : ¬info.RenamesModel hasModelBillingConfig

/-! ## What an attempt leaves -/

variable {channel : TriedChannel} {mode : RelayMode}

/-- The end of the mapping changes the upstream name only, unless it puts back another name. -/
lemma mapped_snd (requestModel : Option String)
    (h : mode = .responsesCompact → ∃ base, info.originModelName = base ++ compactModelSuffix ∧
      ¬hasSuffix compactModelSuffix base ∧ (info.isModelMapped → info.upstreamModelName = base)) :
    ∃ upstream, (info.mapped mode requestModel).2 =
      { info with upstreamModelName := upstream } := by
  by_cases hmode : mode = .responsesCompact
  · obtain ⟨base, horigin, hbase, hupstream⟩ := h hmode
    have hfinal : (if info.isModelMapped ∧ info.upstreamModelName ≠ "" then info.upstreamModelName
        else info.mappingModelName mode) = base := by
      split_ifs with hmapped
      · exact hupstream hmapped.1
      · rw [mappingModelName, if_pos hmode, horigin, trimSuffix_append]
    refine ⟨base, ?_⟩
    rw [mapped, if_pos hmode]
    dsimp only
    rw [hfinal, withCompactModelSuffix, if_neg hbase, ← horigin]
  · exact ⟨info.upstreamModelName, by rw [mapped, if_neg hmode]⟩

lemma follow_of_mappedModel_self {map : List (String × String)} {origin model : String}
    (isModelMapped : Bool) (h : ∀ next, mappedModel map model = some next → next = model)
    (horigin : model ≠ origin) :
    ∃ b, follow map origin model [model] isModelMapped = .ok (.reached model b) := by
  rw [follow]
  split
  case h_1 => exact ⟨_, rfl⟩
  case h_2 next hnext =>
    obtain rfl := h next hnext
    simp [horigin]

/-- The mapping changes the upstream name and the mark only, unless it puts back another name. -/
lemma modelMappedHelper_snd {mapping : ModelMapping} (requestModel : Option String)
    (hstart : info.isModelMapped = false)
    (h : mode = .responsesCompact → ∃ base, info.originModelName = base ++ compactModelSuffix ∧
      ¬hasSuffix compactModelSuffix base ∧
      ∀ map, mapping = .entries map → ∀ next, mappedModel map base = some next → next = base) :
    ∃ upstream isModelMapped, (info.modelMappedHelper mode mapping requestModel).2 =
      { info with upstreamModelName := upstream, isModelMapped } := by
  cases mapping with
  | absent =>
    obtain ⟨upstream, hupstream⟩ := info.mapped_snd requestModel fun hmode => by
      obtain ⟨base, horigin, hbase, -⟩ := h hmode
      exact ⟨base, horigin, hbase, by simp [hstart]⟩
    exact ⟨upstream, info.isModelMapped, hupstream⟩
  | invalid => exact ⟨_, _, rfl⟩
  | entries map =>
    rw [modelMappedHelper]
    dsimp only
    split
    case h_1 => exact ⟨_, _, rfl⟩
    case h_2 => exact ⟨_, _, rfl⟩
    case h_3 current isModelMapped hfollow =>
      set info₂ : ModelInfo := if isModelMapped then _ else _ with hinfo₂
      have hframe : info₂ =
          { info with upstreamModelName := info₂.upstreamModelName, isModelMapped } := by
        rw [hinfo₂]
        split_ifs <;> rfl
      obtain ⟨upstream, hupstream⟩ := info₂.mapped_snd requestModel fun hmode => by
        obtain ⟨base, horigin, hbase, hmap⟩ := h hmode
        have hne : base ≠ info.originModelName := by
          intro hbase'
          rw [hbase', horigin] at hbase
          exact hbase (hasSuffix_append _ _)
        have hname : info.mappingModelName mode = base := by
          rw [mappingModelName, if_pos hmode, horigin, trimSuffix_append]
        -- The chain ends where it starts, so what is put back is the name asked for.
        obtain ⟨b, hb⟩ := follow_of_mappedModel_self info.isModelMapped (hmap map rfl) hne
        rw [hname, hb] at hfollow
        obtain ⟨rfl, rfl⟩ : base = current ∧ b = isModelMapped := by simpa using hfollow
        refine ⟨base, by rw [hframe]; exact horigin, hbase, fun hmapped => ?_⟩
        rw [hframe] at hmapped
        rw [hinfo₂, if_pos hmapped]
      refine ⟨upstream, isModelMapped, ?_⟩
      rw [hupstream, hframe]

variable {info hasModelBillingConfig}

lemma attempt_snd (h : info.LeavesModel hasModelBillingConfig channel) :
    ∃ upstream isModelMapped, (info.attempt hasModelBillingConfig channel).2 =
      { info.initChannelMeta info.originModelName with upstreamModelName := upstream, isModelMapped
        } := by
  have hcompact := h.compact
  rw [show info.relayMode = (info.initChannelMeta info.originModelName).relayMode
    from rfl] at hcompact
  obtain ⟨upstream, isModelMapped, hsnd⟩ :=
    (info.initChannelMeta info.originModelName).modelMappedHelper_snd
    (info.initChannelMeta info.originModelName).requestModel rfl hcompact
  refine ⟨upstream, isModelMapped, ?_⟩
  rw [attempt, startedAttempt]
  split
  · exact hsnd
  · rw [if_neg]
    · exact hsnd
    · rw [hsnd]
      exact h.notRenamed

lemma initChannelMeta_attempt (h : info.LeavesModel hasModelBillingConfig channel) :
    (info.attempt hasModelBillingConfig channel).2.initChannelMeta
        (info.attempt hasModelBillingConfig channel).2.originModelName =
          info.initChannelMeta info.originModelName := by
  obtain ⟨upstream, isModelMapped, hafter⟩ := attempt_snd h
  rw [hafter]
  simp only [initChannelMeta, setModelName_setModelName]

lemma initChannelMeta_attempts {channels : List TriedChannel}
    (h : ∀ channel ∈ channels, info.LeavesModel hasModelBillingConfig channel) :
    (info.attempts hasModelBillingConfig channels).initChannelMeta
        (info.attempts hasModelBillingConfig channels).originModelName =
          info.initChannelMeta info.originModelName := by
  induction channels generalizing info with
  | nil => rfl
  | cons channel channels ih =>
    have hfirst := h channel mem_cons_self
    rw [← initChannelMeta_attempt hfirst]
    apply ih
    intro other hother
    obtain ⟨upstream, isModelMapped, hafter⟩ := attempt_snd hfirst
    have hleaves := h other (mem_cons_of_mem _ hother)
    change (info.attempt hasModelBillingConfig channel).2.LeavesModel hasModelBillingConfig other
    rw [hafter]
    exact ⟨hleaves.compact, hleaves.notRenamed⟩

/-- What is sent for a channel does not depend on the channels that were tried before, if these left
    the model of the request. -/
theorem sent_independent {earlier : List TriedChannel} (channel : TriedChannel)
    (h : ∀ tried ∈ earlier, info.LeavesModel hasModelBillingConfig tried) :
    ((info.attempts hasModelBillingConfig earlier).attempt hasModelBillingConfig channel).1 =
      (info.attempt hasModelBillingConfig channel).1 := by
  rw [attempt, initChannelMeta_attempts h, attempt]

end ModelInfo

namespace TwoChannels

def asked (mode : RelayMode) (model : String) : ModelInfo :=
  { relayMode := mode, originModelName := model, requestModel := some model }

def mapping (map : List (String × String)) : TriedChannel := { modelMapping := .entries map }

end TwoChannels

namespace ModelInfo

open TwoChannels

/-- A chat request after a channel that maps its model. -/
theorem sent_independent_chat :
    (((asked .chatCompletions "gpt-4o").attempts (fun _ =>
      false) [mapping [("gpt-4o", "azure-gpt4o")]]).attempt
        (fun _ => false) (mapping [("gpt-4o", "gpt-4o-mini")])).1 =
          .ok ⟨"gpt-4o-mini", some "gpt-4o-mini"⟩ := by
  rw [sent_independent]
  · have hfollow : follow [("gpt-4o", "gpt-4o-mini")] "gpt-4o" "gpt-4o" ["gpt-4o"] false =
        .ok (.reached "gpt-4o-mini" true) :=
      (follow_step (by decide) (by decide)).trans (follow_end (by decide))
    simp [attempt, startedAttempt, initChannelMeta, modelMappedHelper, mapped, mappingModelName,
      setModelName, asked, mapping, TriedChannel.relayMode, RenamesModel, hfollow]
  · rintro tried -
    refine ⟨?_, ?_⟩
    · simp [TriedChannel.relayMode, asked]
    · simp [RenamesModel]

/-- A compact request is sent with the model of the channel that was tried before. -/
theorem sent_mapped_before :
    ((asked .responsesCompact "gpt-5-openai-compact").attempt (fun _ => false) ⟨.absent, false⟩).1 =
        .ok ⟨"gpt-5", some "gpt-5"⟩ ∧
          (((asked .responsesCompact "gpt-5-openai-compact").attempts (fun _ => false)
          [mapping [("gpt-5", "azure-gpt5")]]).attempt (fun _ => false) ⟨.absent, false⟩).1 =
        .ok ⟨"azure-gpt5", some "azure-gpt5"⟩ := by
  have hfollow : follow [("gpt-5", "azure-gpt5")] "gpt-5-openai-compact" "gpt-5" ["gpt-5"] false =
      .ok (.reached "azure-gpt5" true) :=
    (follow_step (by decide) (by decide)).trans (follow_end (by decide))
  have htrim : trimSuffix compactModelSuffix "gpt-5-openai-compact" = "gpt-5" := by decide
  have hafter : (asked .responsesCompact "gpt-5-openai-compact").attempts (fun _ => false)
      [mapping [("gpt-5", "azure-gpt5")]] =
      { relayMode := .responsesCompact, originModelName := "azure-gpt5-openai-compact",
        requestModel := some "gpt-5-openai-compact", upstreamModelName :=
            "azure-gpt5", isModelMapped := true } := by
    have hsuffix : withCompactModelSuffix "azure-gpt5" = "azure-gpt5-openai-compact" := by decide
    simp [attempts, attempt, startedAttempt, initChannelMeta, modelMappedHelper, mapped,
      mappingModelName, setModelName, asked, mapping, TriedChannel.relayMode, RenamesModel, htrim,
        hfollow, hsuffix]
  rw [hafter]
  exact ⟨by decide, by decide⟩

end ModelInfo

end Allrouter
