import Allrouter.Relay.Responses
import Allrouter.Relay.ResponsesInput

/-!
# The history of tool calls

The tool calls of a response are remembered under its id, so that a later request which only has
their outputs can be sent with the calls as well. All responses are in one store, whoever they were
for: a call that is not in the response that the request refers to is looked for by its id in all of
them, and is found if only one has it. The calls are restored in the order of the store.

* `chatRequest`: the input is restored from the store, and converted;
* `chatRequest_eq`: what is remembered for other users does not matter to a request if it decides
  neither which calls it is given nor their order;
* `chatRequest_of_same_callID`: a call id that is theirs brings their call into the request.
-/

namespace Allrouter

open List Text Function

/-- What is read of an item to find it again. -/
structure ResponsesChatHistoryItem where
  type : String
  (callID id : String := "")
  deriving DecidableEq

namespace ResponsesChatHistoryItem

def resolvedCallID (item : ResponsesChatHistoryItem) : String :=
  if trimSpace item.callID = "" then trimSpace item.id else trimSpace item.callID

end ResponsesChatHistoryItem

def isResponsesToolCallType (type : String) : Bool :=
  type = "function_call" || type = "custom_tool_call" || type = "tool_search_call"

def isResponsesToolOutputType (type : String) : Bool :=
  type = "function_call_output" || type = "custom_tool_call_output" || type = "tool_search_output"

/-- What texts decode to, and how values are encoded. -/
structure ResponsesCodec where
  historyItem : String → Option ResponsesChatHistoryItem
  /-- The fields of an object, as texts. -/
  object : String → Option (String → Option String)
  encodeObject : (String → Option String) → String
  array : String → Option (List String)
  encodeArray : List String → String
  string : String → Option String
  encodeOutput : ResponsesOutput → String
  /-- An item as the conversion reads it. -/
  item : String → ResponsesItem

/-- What the restoration and the conversion read of a request. -/
structure ResponsesRequest where
  (previousResponseID instructions input : String := "")
  deriving DecidableEq

/-! ## The store -/

/-- The calls of each response, the oldest response first. The ids are also the keys of a map. -/
abbrev ResponsesChatHistoryStore := List (String × List String)

def responsesChatHistoryLimit : ℕ := 512

section

variable (codec : ResponsesCodec)

def rememberResponsesChatToolHistory (store : ResponsesChatHistoryStore) (responseID : String)
    (output : List ResponsesOutput) : ResponsesChatHistoryStore :=
  let responseID := trimSpace responseID
  let items := (output.filter fun item => isResponsesToolCallType item.type &&
    ResponsesChatHistoryItem.resolvedCallID ⟨item.type, item.callId, item.id⟩ ≠ "").map
      codec.encodeOutput
  if responseID = "" ∨ items = [] then store
  else
    let store := if store.any fun entry => entry.1 = responseID then
        store.map fun entry => if entry.1 = responseID then (responseID, items) else entry
      else store ++ [(responseID, items)]
    store.drop (store.length - responsesChatHistoryLimit)

def callsWith (callID : String) (calls : List String) : List String :=
  calls.filter fun raw => (codec.historyItem raw).any fun item => item.resolvedCallID = callID

namespace ResponsesChatHistoryStore

variable (store : ResponsesChatHistoryStore)

def callsOf (responseID : String) : List String :=
  ((store.find? fun entry => entry.1 = responseID).map Prod.snd).getD []

/-- The call that is taken for an id: the last one of the given response, or else the first one of
    the only response that has it. -/
def selected (responseID callID : String) : Option String :=
  (callsWith codec callID (store.callsOf responseID)).getLast?.or
    (match store.filter fun entry => callsWith codec callID entry.2 ≠ [] with
      | [entry] => (callsWith codec callID entry.2).head?
      | _ => none)

end ResponsesChatHistoryStore

/-- The selected calls in the order of the ids, each of them once. -/
def pick (selected : String → Option String) : List String → List String
  | [] => []
  | callID :: callIDs =>
    match selected callID with
    | some raw => raw :: pick (update selected callID none) callIDs
    | none => pick selected callIDs

def callIDs (calls : List String) : List String :=
  calls.filterMap fun raw => (codec.historyItem raw).map ResponsesChatHistoryItem.resolvedCallID

def ResponsesChatHistoryStore.lookup (store : ResponsesChatHistoryStore) (responseID : String)
    (requestedIDs : List String) :
    List String :=
  pick (fun callID => if callID ∈ requestedIDs then store.selected codec responseID callID
    else none)
    (store.flatMap fun entry => callIDs codec entry.2)

/-! ## The restoration -/

def responseInputItems (input : String) : Option (List String × Bool) :=
  match codec.array input with
  | some items => some (items, true)
  | none => (codec.object input).map fun _ => ([input], false)

def idsOfType (types : String → Bool) (items : List String) : List String :=
  items.filterMap fun raw => (codec.historyItem raw).bind fun item =>
    if types item.type && item.resolvedCallID ≠ "" then some item.resolvedCallID else none

def isEmptyJSONValue (raw : String) : Bool := trimSpace raw ∈ ["", "null", "\"\"", "\x7b\x7d", "[]"]

def enrichedKeys : List String :=
  ["id", "call_id", "name", "namespace", "arguments", "input", "status", "execution",
    "reasoning_content", "reasoning"]

def missingValue (current source : String → Option String) (key : String) : Option String :=
  if (current key).all isEmptyJSONValue then (source key).filter fun value =>
    !isEmptyJSONValue value else none

def enrichResponsesToolCallItem (item cached : String) : Option String := do
  let current ← codec.object item
  let source ← codec.object cached
  if enrichedKeys.any fun key => (missingValue current source key).isSome then
    some (codec.encodeObject fun key =>
      if key ∈ enrichedKeys then (missingValue current source key).or (current key)
        else current key)
  else none

def enrichFirst (call : ResponsesChatHistoryItem) (raw : String) : List String → List String × ℕ
  | [] => ([], 0)
  | item :: items =>
    if (codec.historyItem item).any fun existing =>
        existing.resolvedCallID = call.resolvedCallID && existing.type = call.type then
      match enrichResponsesToolCallItem codec item raw with
      | some item => (item :: items, 1)
      | none => (item :: items, 0)
    else (item :: (enrichFirst call raw items).1, (enrichFirst call raw items).2)

/-- The items, those that are missing, and how many were enriched. -/
structure Restored where
  items : List String
  missing : List String := []
  changed : ℕ := 0

/-- A remembered call is added, or completes the one there is. -/
def restoreCall (existingIDs : List String) (r : Restored) (raw : String) : Restored :=
  match codec.historyItem raw with
  | none => r
  | some call =>
    if call.resolvedCallID = "" then r
    else if call.resolvedCallID ∈ existingIDs then
      { r with
        items := (enrichFirst codec call raw r.items).1
        changed := r.changed + (enrichFirst codec call raw r.items).2 }
    else { r with missing := r.missing ++ [raw] }

/-- The calls that are missing, before the first output. -/
def insertMissing (items missing : List String) : List String :=
  let isOutput raw := (codec.historyItem raw).any fun item => isResponsesToolOutputType item.type
  items.takeWhile (fun raw => !isOutput raw) ++ missing ++ items.dropWhile fun raw => !isOutput raw

/-- The ids that the store is asked for, none if the request has no outputs. -/
def ResponsesRequest.requestedIDs (req : ResponsesRequest) : List String :=
  match responseInputItems codec req.input with
  | none => []
  | some (items, _) =>
    if idsOfType codec isResponsesToolOutputType items = [] then []
    else idsOfType codec isResponsesToolOutputType items ++
      idsOfType codec isResponsesToolCallType items

/-- The request with the calls that its outputs belong to, and the number of changes. -/
def restoreResponsesChatToolHistory (store : ResponsesChatHistoryStore) (req : ResponsesRequest) :
    ResponsesRequest × ℕ :=
  if trimSpace req.previousResponseID = "" ∨ req.input = "" then (req, 0)
  else match responseInputItems codec req.input with
    | none => (req, 0)
    | some (items, wasArray) =>
      let history := store.lookup codec req.previousResponseID (req.requestedIDs codec)
      let r := history.foldl (restoreCall codec (idsOfType codec isResponsesToolCallType items))
        { items := items }
      if r.missing = [] ∧ r.changed = 0 then (req, 0)
      else
        let items := if r.missing = [] then r.items else insertMissing codec r.items r.missing
        let input := match wasArray, items with
          | false, [item] => item
          | _, items => codec.encodeArray items
        ({ req with input := input }, r.changed + r.missing.length)

def convertResponsesInputToMessages (req : ResponsesRequest) : Except String (List Message) :=
  let messages : List Message := match codec.string req.instructions with
    | some instructions => if trimSpace instructions = "" then []
      else [{ role := "system", content := .text instructions }]
    | none => []
  if req.input = "" then .ok messages
  else match codec.array req.input, codec.string req.input, codec.object req.input with
    | some items, _, _ => .ok (convertResponsesItems messages (items.map codec.item))
    | none, some text, _ =>
      .ok (if trimSpace text = "" then messages
        else messages ++ [{ role := "user", content := .text text }])
    | none, none, some _ => .ok (convertResponsesItems messages [codec.item req.input])
    | none, none, none => .error "failed to parse input"

/-- The chat request: whatever is made of the request after its history was restored. -/
def chatRequest {χ : Type} (convert : ResponsesRequest → χ) (store : ResponsesChatHistoryStore)
    (req : ResponsesRequest) : χ :=
  convert (restoreResponsesChatToolHistory codec store req).1

end

/-! ## Other users -/

section

variable (codec : ResponsesCodec) (own : String → Bool) (store : ResponsesChatHistoryStore)

/-- The ids that the store is asked for; nothing is asked without a previous response and an
    input. -/
def ResponsesRequest.askedIDs (req : ResponsesRequest) : List String :=
  if trimSpace req.previousResponseID = "" ∨ req.input = "" then [] else req.requestedIDs codec

namespace ResponsesChatHistoryStore

/-- The responses of the user. -/
def ownPart : ResponsesChatHistoryStore := store.filter fun entry => own entry.1

/-- The responses of other users. -/
def foreignPart : ResponsesChatHistoryStore := store.filter fun entry => !own entry.1

/-- The responses with a call that has the id. -/
def holders (callID : String) : ResponsesChatHistoryStore :=
  store.filter fun entry => callsWith codec callID entry.2 ≠ []

/-- The responses of other users do not decide which call is taken for the id. Either the call is in
    the user's previous response; or the previous response, if it is another user's, does not have
    it, and the others neither add a response with it to none or one, nor make one of the user's
    ambiguous. -/
def Undisturbed (responseID callID : String) : Prop :=
  callsWith codec callID ((store.ownPart own).callsOf responseID) ≠ [] ∨
  callsWith codec callID ((store.foreignPart own).callsOf responseID) = [] ∧
    ((store.foreignPart own).holders codec callID = [] ∨
      2 ≤ ((store.ownPart own).holders codec callID).length ∨
      (store.ownPart own).holders codec callID = [] ∧
        2 ≤ ((store.foreignPart own).holders codec callID).length)

/-- The ids for which the store gives a call. -/
def given (responseID : String) (ids : List String) : List String :=
  ids.filter fun callID => callsWith codec callID (store.callsOf responseID) ≠ [] ∨
    (store.holders codec callID).length = 1

/-- Ids in the order in which the store has calls with them, each once. -/
def firstSeen (ids : List String) : List String :=
  ((store.flatMap fun entry => callIDs codec entry.2).filter (· ∈ ids)).eraseDups

/-- The responses of other users matter neither to which calls a request is given nor to their
    order: that is the order of all responses in the store. -/
def Unaffected (req : ResponsesRequest) : Prop :=
  (∀ callID ∈ req.askedIDs codec, store.Undisturbed codec own req.previousResponseID callID) ∧
  store.firstSeen codec ((store.ownPart own).given codec req.previousResponseID
    (req.askedIDs codec)) =
    (store.ownPart own).firstSeen codec
      ((store.ownPart own).given codec req.previousResponseID (req.askedIDs codec))

instance (responseID callID : String) : Decidable (store.Undisturbed codec own responseID callID) :=
  inferInstanceAs (Decidable (_ ∨ _ ∧ _))

instance (req : ResponsesRequest) : Decidable (store.Unaffected codec own req) :=
  inferInstanceAs (Decidable (_ ∧ _))

end ResponsesChatHistoryStore

variable {codec own store}

/-- The picked calls are those of the selected ids, in the order of their first occurrences. -/
lemma pick_eq (selected : String → Option String) (ids : List String) :
    pick selected ids = ((ids.filter fun callID => (selected callID).isSome).eraseDups).filterMap
      selected := by
  induction ids generalizing selected with
  | nil => rfl
  | cons callID ids ih =>
    rw [pick, filter_cons]
    cases hselected : selected callID with
    | none => exact ih selected
    | some raw =>
      dsimp only [Option.isSome_some]
      rw [if_pos rfl, eraseDups_cons, filterMap_cons, hselected, filter_filter]
      have hleft : (fun id => (update selected callID none id).isSome) =
          fun id => !id == callID && (selected id).isSome := by
        funext id
        rcases eq_or_ne id callID with rfl | hne
        · simp
        · simp [hne]
      rw [ih, hleft]
      refine congrArg (raw :: ·) (filterMap_congr fun id hid => update_of_ne ?_ ..)
      rintro rfl
      simp [mem_eraseDups] at hid

namespace ResponsesChatHistoryStore

variable {responseID callID : String}

lemma selected_isSome_iff : (store.selected codec responseID callID).isSome ↔
    callsWith codec callID (store.callsOf responseID) ≠ [] ∨
      (store.holders codec callID).length = 1 := by
  rw [selected, Option.isSome_or, Bool.or_eq_true]
  refine or_congr (by simp) ?_
  rw [← holders]
  rcases hholders : store.holders codec callID with - | ⟨entry, - | ⟨entry', rest⟩⟩
  · simp
  · have hentry : entry ∈ store.holders codec callID := hholders ▸ mem_singleton_self entry
    have hne : callsWith codec callID entry.2 ≠ [] := by simpa using (mem_filter.1 hentry).2
    simpa using hne
  · simp

lemma callsOf_part (p : String → Bool) : callsOf (store.filter fun entry => p entry.1) responseID =
    if p responseID then store.callsOf responseID else [] := by
  have hcond : (fun entry : String × List String =>
      decide (p entry.1 = true ∧ decide (entry.1 = responseID) = true)) =
      fun entry => p responseID && decide (entry.1 = responseID) := by
    funext entry
    by_cases heq : entry.1 = responseID
    · simp [heq]
    · simp [heq]
  rw [callsOf, callsOf, find?_filter, hcond]
  cases p responseID with
  | true => simp
  | false => simp [find?_eq_none.2]

variable (codec own store callID) in
lemma length_holders : (store.holders codec callID).length =
    ((store.ownPart own).holders codec callID).length +
      ((store.foreignPart own).holders codec callID).length := by
  have hpart (p : String → Bool) : holders codec (store.filter fun entry => p entry.1) callID =
      (store.holders codec callID).filter fun entry => p entry.1 := filter_comm ..
  rw [ownPart, foreignPart, hpart own, hpart fun id => !own id]
  exact length_eq_length_filter_add _

lemma holders_own (h : (store.foreignPart own).holders codec callID = []) :
    store.holders codec callID = (store.ownPart own).holders codec callID := by
  rw [holders, holders, ownPart, filter_filter]
  refine filter_congr fun entry hentry => ?_
  cases hown : own entry.1 with
  | true => simp
  | false =>
    have hmem : entry ∈ store.foreignPart own := mem_filter.2 ⟨hentry, by simp [hown]⟩
    simpa using filter_eq_nil_iff.1 h entry hmem

lemma selected_of_not_one (hcalls : callsWith codec callID (store.callsOf responseID) = [])
    (hlength : (store.holders codec callID).length ≠ 1) :
    store.selected codec responseID callID = none := by
  rw [← Option.not_isSome_iff_eq_none, selected_isSome_iff]
  exact not_or.2 ⟨not_not.2 hcalls, hlength⟩

/-- An undisturbed id is given the call that the user's own responses give. -/
lemma selected_own (h : store.Undisturbed codec own responseID callID) :
    store.selected codec responseID callID =
      (store.ownPart own).selected codec responseID callID := by
  have hown : (store.ownPart own).callsOf responseID =
      if own responseID then store.callsOf responseID else [] := callsOf_part own
  have hforeign : (store.foreignPart own).callsOf responseID =
      if !own responseID then store.callsOf responseID else [] := callsOf_part fun id => !own id
  rcases h with hprevious | ⟨hprevious, hholders⟩
  · -- The previous response is the user's own, and the call is taken from it in both.
    have hcalls : (store.ownPart own).callsOf responseID = store.callsOf responseID := by
      rw [hown] at hprevious ⊢
      split_ifs at hprevious ⊢ with hresponse
      · rfl
      · exact absurd rfl hprevious
    rw [hcalls] at hprevious
    rw [selected, selected, hcalls, getLast?_eq_some_getLast hprevious]
    rfl
  · have hcalls : callsWith codec callID (store.callsOf responseID) =
        callsWith codec callID ((store.ownPart own).callsOf responseID) := by
      rw [hforeign] at hprevious
      rw [hown]
      cases hresponse : own responseID with
      | true => rfl
      | false => simpa [hresponse, callsWith] using hprevious
    by_cases hnone : callsWith codec callID ((store.ownPart own).callsOf responseID) = []
    · have hlength := length_holders codec own store callID
      rcases hholders with hnobody | htwo | ⟨hnobody, htwo⟩
      · rw [selected, selected, hcalls, ← holders, holders_own hnobody]
        rfl
      · rw [selected_of_not_one (hcalls.trans hnone) (by omega),
          selected_of_not_one hnone (by omega)]
      · rw [hnobody, length_nil] at hlength
        rw [selected_of_not_one (hcalls.trans hnone) (by omega),
          selected_of_not_one hnone (by simp [hnobody])]
    · rw [selected, selected, hcalls, getLast?_eq_some_getLast hnone]
      rfl

lemma lookup_own {req : ResponsesRequest} (h : store.Unaffected codec own req)
    (hasked : req.askedIDs codec = req.requestedIDs codec) :
    store.lookup codec req.previousResponseID (req.requestedIDs codec) =
      (store.ownPart own).lookup codec req.previousResponseID (req.requestedIDs codec) := by
  obtain ⟨hcalls, horder⟩ := h
  rw [hasked] at hcalls horder
  have hselected : (fun callID => if callID ∈ req.requestedIDs codec then
      store.selected codec req.previousResponseID callID else none) =
      fun callID => if callID ∈ req.requestedIDs codec then
        (store.ownPart own).selected codec req.previousResponseID callID else none := by
    funext callID
    split_ifs with hid
    · exact selected_own (hcalls callID hid)
    · rfl
  have hgiven : (fun callID => (if callID ∈ req.requestedIDs codec then
      (store.ownPart own).selected codec req.previousResponseID callID else none).isSome) =
      fun callID => decide (callID ∈
        (store.ownPart own).given codec req.previousResponseID (req.requestedIDs codec)) := by
    funext callID
    rw [given, Bool.eq_iff_iff, decide_eq_true_iff, mem_filter, decide_eq_true_iff]
    split_ifs with hid
    · rw [selected_isSome_iff, and_iff_right hid]
    · simp [hid]
  rw [lookup, lookup, hselected, pick_eq, pick_eq, hgiven]
  exact congrArg _ horder

end ResponsesChatHistoryStore

end

/-- What is remembered for other users does not matter to a request that it leaves unaffected. -/
theorem chatRequest_eq (codec : ResponsesCodec) {χ : Type} (convert : ResponsesRequest → χ)
    (own : String → Bool) (store store' : ResponsesChatHistoryStore)
    (hown : (store.filter fun entry => own entry.1) = store'.filter fun entry => own entry.1)
    (req : ResponsesRequest) (hstore : store.Unaffected codec own req)
    (hstore' : store'.Unaffected codec own req) :
    chatRequest codec convert store req = chatRequest codec convert store' req := by
  rw [chatRequest, chatRequest, restoreResponsesChatToolHistory, restoreResponsesChatToolHistory]
  split_ifs with hblank
  · rfl
  · have hasked : req.askedIDs codec = req.requestedIDs codec := if_neg hblank
    rw [ResponsesChatHistoryStore.lookup_own hstore hasked,
      ResponsesChatHistoryStore.lookup_own hstore' hasked, ResponsesChatHistoryStore.ownPart, hown,
      ResponsesChatHistoryStore.ownPart]

/-! ### One call -/

namespace OneCall

def call : ResponsesOutput where
  type := "custom_tool_call"
  id := "ctc_call_1"
  status := "completed"
  callId := "call_1"
  name := "shell"
  input := "cat b.txt"

def callText : String :=
  "\x7b\"type\":\"custom_tool_call\",\"id\":\"ctc_call_1\",\"status\":\"completed\",\"call_id\":\"call_1\"," ++
    "\"name\":\"shell\",\"input\":\"cat b.txt\"\x7d"

def otherText : String :=
  "\x7b\"type\":\"custom_tool_call\",\"status\":\"completed\",\"call_id\":\"call_2\",\"name\":\"shell\"\x7d"

def outputText : String :=
  "\x7b\"type\":\"custom_tool_call_output\",\"call_id\":\"call_1\",\"output\":\"ok\"\x7d"

def toolCall : ToolCallRequest where
  id := "call_1"
  function := { name := "shell", arguments := "\x7b\"input\":\"cat b.txt\"\x7d" }

def toolMessage : Message where
  role := "tool"
  content := .text outputText
  toolCallId := "call_1"

def codec : ResponsesCodec where
  historyItem raw :=
    if raw = callText then some ⟨"custom_tool_call", "call_1", "ctc_call_1"⟩
    else if raw = otherText then some ⟨"custom_tool_call", "call_2", ""⟩
    else if raw = outputText then some ⟨"custom_tool_call_output", "call_1", ""⟩
    else none
  object _ := none
  encodeObject _ := ""
  array raw :=
    if raw = "[" ++ outputText ++ "]" then some [outputText]
    else if raw = "[" ++ callText ++ "," ++ outputText ++ "]" then some [callText, outputText]
    else none
  encodeArray items := "[" ++ ",".intercalate items ++ "]"
  string _ := none
  encodeOutput _ := callText
  item raw :=
    if raw = callText then .toolCall "" (some toolCall)
    else if raw = outputText then .toolOutput toolMessage []
    else .skipped

/-- A request of the user to whom the response `resp_a` was given, with the output of a call. -/
def request : ResponsesRequest where
  previousResponseID := "resp_a"
  input := "[" ++ outputText ++ "]"

def own (responseID : String) : Bool := responseID = "resp_a"

/-- The store after the call was part of a response. -/
def remembered (responseID : String) : ResponsesChatHistoryStore :=
  rememberResponsesChatToolHistory codec [] responseID [call]

end OneCall

/-- The call of the user's own response is restored, although another user has a call with its
    id. -/
theorem chatRequest_eq_oneCall :
    chatRequest OneCall.codec (convertResponsesInputToMessages OneCall.codec)
        (OneCall.remembered "resp_a") OneCall.request =
      chatRequest OneCall.codec (convertResponsesInputToMessages OneCall.codec)
        (OneCall.remembered "resp_a" ++ [("resp_b", [OneCall.otherText, OneCall.callText])])
        OneCall.request :=
  chatRequest_eq OneCall.codec _ OneCall.own _ _ (by decide +kernel) OneCall.request
    (by decide +kernel)
    (by decide +kernel)

/-- A call of another user with the id enters the request. -/
theorem chatRequest_of_same_callID :
    ((OneCall.remembered "resp_b").filter fun entry => OneCall.own entry.1) = [] ∧
      chatRequest OneCall.codec (convertResponsesInputToMessages OneCall.codec) [] OneCall.request =
        .ok [OneCall.toolMessage] ∧
      chatRequest OneCall.codec (convertResponsesInputToMessages OneCall.codec)
        (OneCall.remembered "resp_b")
          OneCall.request =
        .ok [{ role := "assistant", content := .text "", toolCalls := [OneCall.toolCall]
               reasoningContent := some "tool call" }, OneCall.toolMessage] :=
  ⟨by decide +kernel, by rfl, by rfl⟩

end Allrouter
