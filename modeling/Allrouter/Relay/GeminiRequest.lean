import Mathlib
import Allrouter.Library.Runtime
import Allrouter.Relay.Gemini
import Allrouter.Relay.Message

/-!
# From Gemini requests to chat completion requests

The parts of each content become one message: its texts and media, or its calls if there are
any. A function response becomes a message of its own, before that message. Gemini has no
ids for calls: they are numbered within each content, and a response takes the number of the
calls before it in its own content.

* `convertContent_eq`: what becomes of a content;
* `answered_iff`: the ids are distinct and every tool message answers its call just where the calls
  are in one content and there is no response;
* `not_answered_of_response`: a response never answers its call;
* `items_sublist_iff`: texts and calls are kept, in order, just where no content has both.

A request that comes with fewer than four stop sequences may have no room for four of them, and
cutting them then panics.
-/

namespace Allrouter

open Runtime List

/-! ## The request -/

/-- A function that may be called. -/
structure GeminiFunctionDeclaration where
  name : String
  (description parameters : String := "")

/-- The functions of a tool. -/
structure GeminiChatTool where
  /-- The declarations, if there are any; they may fail to decode. -/
  functionDeclarations : Option (Option (List GeminiFunctionDeclaration)) := none

/-- A request in the format of Gemini. -/
structure GeminiChatRequest where
  contents : List GeminiChatContent
  systemInstructions : Option GeminiChatContent := none
  (temperature topP topK : Option ℚ := none)
  maxOutputTokens : Option ℕ := none
  candidateCount : Option ℤ := none
  stopSequences : Slice String := .ofList []
  tools : List GeminiChatTool := []

/-! ## The conversion -/

def convertGeminiRoleToOpenAI (geminiRole : String) : String :=
  match geminiRole with
  | "user" => "user"
  | "model" => "assistant"
  | "function" => "function"
  | _ => "user"

/-- What a part is taken for. -/
inductive PartView
  | media (content : MediaContent)
  | call (call : GeminiFunctionCall)
  | response (response : GeminiFunctionResponse)
  | nothing
  deriving DecidableEq

def GeminiPart.view (part : GeminiPart) : PartView :=
  if part.text ≠ "" then .media { type := .text, text := part.text }
  else match part.inlineData, part.fileData, part.functionCall, part.functionResponse with
    | some data, _, _, _ =>
      .media
        { type := .imageUrl
          imageUrl := some
            { url := "data:" ++ data.mimeType ++ ";base64," ++ data.data
              detail := "auto"
              mimeType := data.mimeType } }
    | none, some data, _, _ =>
      .media
        { type := .imageUrl
          imageUrl := some
            { url := data.fileUri
              detail := "auto"
              mimeType := data.mimeType } }
    | none, none, some call, _ => .call call
    | none, none, none, some response => .response response
    | none, none, none, none => .nothing

def callId (n : ℕ) : String := "call_" ++ n.repr

/-- What the loop over the parts of a content has made so far. -/
structure PartsState where
  mediaContents : List MediaContent := []
  toolCalls : List ToolCallRequest := []
  messages : List Message := []

def PartsState.add (state : PartsState) (part : GeminiPart) : PartsState :=
  match part.view with
  | .media content => { state with mediaContents := state.mediaContents ++ [content] }
  | .call call =>
    { state with
      toolCalls := state.toolCalls ++
        [{ id := callId (state.toolCalls.length + 1)
           function := { name := call.functionName, arguments := call.arguments } }] }
  | .response response =>
    { state with
      messages := state.messages ++
        [{ role := "tool", toolCallId := callId state.toolCalls.length, content :=
          .text response.response }] }
  | .nothing => state

def GeminiChatContent.message (content : GeminiChatContent) (state : PartsState) : Message :=
  let message : Message := { role := convertGeminiRoleToOpenAI content.role }
  if state.toolCalls ≠ [] then { message with toolCalls := state.toolCalls }
  else match state.mediaContents with
    | [] => message
    | [media] => if media.type = .text then { message with content := .text media.text }
      else { message with content := .media [media] }
    | medias => { message with content := .media medias }

/-- The messages for a content: the results of tools, then the rest. -/
def convertContent (content : GeminiChatContent) : List Message :=
  let state := content.parts.foldl PartsState.add {}
  let message := content.message state
  state.messages ++ (if message.parseContent ≠ [] ∨ message.toolCalls ≠ [] then [message] else [])

def extractTextFromGeminiParts (parts : List GeminiPart) : String :=
  String.intercalate "\n" ((parts.map (·.text)).filter (· ≠ ""))

def GeminiChatTool.functions (tool : GeminiChatTool) : List ToolCallRequest :=
  (tool.functionDeclarations.join.getD []).map fun function =>
    { function := { name := function.name, description := function.description, parameters :=
      function.parameters } }

variable (request : GeminiChatRequest)

def geminiMessages : List Message :=
  (request.systemInstructions.map fun system =>
      ({ role := "system", content := .text (extractTextFromGeminiParts system.parts) } :
        Message)).toList ++
    request.contents.flatMap convertContent

def geminiToOpenAIRequest (info : ConversionInfo) : Except (Fault Empty) GeneralOpenAIRequest := do
  let stop ← if request.stopSequences.toList = [] then pure none
    else (request.stopSequences.reslice 4).map fun stop => some (StopValue.many stop.toList)
  return {
    model := info.upstreamModelName
    messages := geminiMessages request
    stream := some info.isStream
    temperature := request.temperature
    topP := request.topP.filter (0 < ·)
    -- The number is cut off towards zero.
    topK := (request.topK.filter (0 < ·)).map Rat.floor
    maxTokens := request.maxOutputTokens.filter (0 < ·)
    stop
    n := request.candidateCount.filter (0 < ·)
    tools := request.tools.flatMap (·.functions) }

/-- The stop sequences can be cut to four. -/
def GeminiChatRequest.StopsFit : Prop :=
  request.stopSequences.toList = [] ∨ 4 ≤ request.stopSequences.cap

variable {request : GeminiChatRequest} {parts : List GeminiPart} {part : GeminiPart}

lemma geminiToOpenAIRequest_eq_ok (h : request.StopsFit) (info : ConversionInfo) :
    ∃ openai, geminiToOpenAIRequest request info = .ok openai ∧
      openai.messages = geminiMessages request := by
  rw [geminiToOpenAIRequest]
  split_ifs with hstop
  · exact ⟨_, rfl, rfl⟩
  · rw [Slice.reslice, dif_pos (by exact h.resolve_left hstop)]
    exact ⟨_, rfl, rfl⟩

lemma stopsFit_of_ok {info : ConversionInfo} {openai : GeneralOpenAIRequest}
    (h : geminiToOpenAIRequest request info = .ok openai) : request.StopsFit := by
  by_contra hfit
  obtain ⟨hstop, hcap⟩ := not_or.1 hfit
  rw [geminiToOpenAIRequest, if_neg hstop, Slice.reslice, dif_neg (by exact hcap)] at h
  cases h

/-! ## What becomes of a content -/

namespace GeminiPart

def media? (part : GeminiPart) : Option MediaContent :=
  match part.view with
  | .media content => some content
  | _ => none

def call? (part : GeminiPart) : Option GeminiFunctionCall :=
  match part.view with
  | .call call => some call
  | _ => none

def response? (part : GeminiPart) : Option GeminiFunctionResponse :=
  match part.view with
  | .response response => some response
  | _ => none

end GeminiPart

open GeminiPart

/-- Calls with their ids, after `n` other ones. -/
def numberedCalls (n : ℕ) (calls : List GeminiFunctionCall) : List ToolCallRequest :=
  (calls.zipIdx n).map fun (call, i) =>
    { id := callId (i + 1), function := { name := call.functionName, arguments := call.arguments } }

/-- The messages of the responses among parts, after `n` calls. -/
def answerMessages : ℕ → List GeminiPart → List Message
  | _, [] => []
  | n, part :: parts =>
    (part.response?.map fun response =>
      ({ role := "tool", toolCallId := callId n, content := .text response.response } :
        Message)).toList ++
    answerMessages (n + part.call?.toList.length) parts

lemma foldl_add (state : PartsState) (parts : List GeminiPart) : parts.foldl PartsState.add state =
      { mediaContents := state.mediaContents ++ parts.filterMap media?
        toolCalls := state.toolCalls ++ numberedCalls state.toolCalls.length (parts.filterMap call?)
        messages := state.messages ++ answerMessages state.toolCalls.length parts } := by
  induction parts generalizing state with
  | nil => simp [numberedCalls, answerMessages]
  | cons part parts ih =>
    rw [foldl_cons, ih]
    cases hview : part.view <;>
      simp [PartsState.add, answerMessages, numberedCalls, media?, call?, response?, hview]

namespace GeminiChatContent

variable (content : GeminiChatContent)

def medias : List MediaContent := content.parts.filterMap media?

def calls : List GeminiFunctionCall := content.parts.filterMap call?

/-- The message of the content itself. -/
def ownMessage : Message :=
  content.message
    { mediaContents := content.medias, toolCalls := numberedCalls 0 content.calls, messages := [] }

/-- It is left out if there is nothing in it. -/
def ownMessages : List Message :=
  if content.ownMessage.parseContent ≠ [] ∨
    content.ownMessage.toolCalls ≠ [] then [content.ownMessage] else []

end GeminiChatContent

open GeminiChatContent

lemma convertContent_eq (content : GeminiChatContent) :
    convertContent content = answerMessages 0 content.parts ++ content.ownMessages := by
  rw [convertContent, foldl_add]
  rfl

lemma callId_injective : Function.Injective callId := by
  intro m n h
  exact Nat.repr_injective (String.append_right_inj _ |>.1 h)

lemma toolCalls_ownMessage (content : GeminiChatContent) :
    content.ownMessage.toolCalls = numberedCalls 0 content.calls := by
  rw [ownMessage, message]
  dsimp only
  split_ifs with hcalls
  · rfl
  · rw [not_not.1 hcalls]
    split
    · rfl
    · split_ifs <;> rfl
    · rfl

lemma role_ownMessage (content : GeminiChatContent) :
    content.ownMessage.role ≠ "system" ∧ content.ownMessage.role ≠ "tool" := by
  have hrole : convertGeminiRoleToOpenAI content.role ≠ "system" ∧
      convertGeminiRoleToOpenAI content.role ≠ "tool" := by
    unfold convertGeminiRoleToOpenAI
    split <;> decide
  have hown : content.ownMessage.role = convertGeminiRoleToOpenAI content.role := by
    rw [ownMessage, message]
    split_ifs
    · rfl
    · split
      · rfl
      · split_ifs <;> rfl
      · rfl
  rwa [hown]

lemma role_answerMessages {n : ℕ} {message : Message}
    (h : message ∈ answerMessages n parts) : message.role = "tool" ∧ message.toolCalls = [] := by
  induction parts generalizing n with
  | nil => cases h
  | cons part parts ih =>
    rcases mem_append.1 h with h | h
    · obtain ⟨response, -, rfl⟩ := Option.map_eq_some_iff.1 (Option.mem_toList.1 h)
      exact ⟨rfl, rfl⟩
    · exact ih h

/-! ## Calls and their answers -/

/-- The calls in messages, in order, each with the place of its message. -/
def callsAt (messages : List Message) : List (ℕ × ToolCallRequest) :=
  messages.zipIdx.flatMap fun (message, i) => message.toolCalls.map (Prod.mk i)

/-- The tool messages, in order, each with its place. -/
def answersAt (messages : List Message) : List (ℕ × Message) :=
  (messages.zipIdx.filter fun (message, _) => message.role = "tool").map Prod.swap

/-- The ids of the calls are distinct, and the `k`-th tool message has the id of the `k`-th call,
    which is in an assistant message before it. -/
structure Answered (messages : List Message) : Prop where
  distinct : ((callsAt messages).map (·.2.id)).Nodup
  answers : ∀ (k j : ℕ) (answer : Message), (answersAt messages)[k]? = some (j, answer) →
    ∃ (i : ℕ) (call : ToolCallRequest), (callsAt messages)[k]? = some (i, call) ∧
      answer.toolCallId = call.id ∧ i < j ∧
      messages[i]?.map (·.role) = some "assistant"

/-- In a conversation, the `k`-th response comes after the `k`-th call. -/
def GeminiChatRequest.Paired : Prop :=
  ∀ before part after, request.contents.flatMap (·.parts) = before ++ part :: after →
    part.response?.isSome →
    (before.filterMap response?).length < (before.filterMap call?).length

lemma callsAt_ids (messages : List Message) :
    (callsAt messages).map (·.2.id) = messages.flatMap fun message =>
      message.toolCalls.map (·.id) := by
  have h (l : List (Message × ℕ)) : (l.flatMap fun (message, i) =>
    message.toolCalls.map (Prod.mk i)).map (·.2.id) =
      (l.map Prod.fst).flatMap fun message => message.toolCalls.map (·.id) := by
    rw [map_flatMap, flatMap_map]
    simp only [map_map]
    rfl
  rw [callsAt, h, zipIdx_map_fst]

lemma toolCalls_geminiMessages (request : GeminiChatRequest) :
    ((geminiMessages request).flatMap fun message => message.toolCalls.map (·.id)) =
      request.contents.flatMap fun content => (numberedCalls 0 content.calls).map (·.id) := by
  have hcontent (content : GeminiChatContent) :
      ((convertContent content).flatMap fun message => message.toolCalls.map (·.id)) =
        (numberedCalls 0 content.calls).map (·.id) := by
    have hanswers : ((answerMessages 0 content.parts).flatMap fun message =>
        message.toolCalls.map (·.id)) = [] :=
      flatMap_eq_nil_iff.2 fun message hmessage => by rw [(role_answerMessages hmessage).2, map_nil]
    rw [convertContent_eq, flatMap_append, hanswers, ← toolCalls_ownMessage, ownMessages]
    split_ifs with hown
    · exact flatMap_singleton _ _
    · rw [not_not.1 (not_or.1 hown).2]
      rfl
  have hsystem : ((request.systemInstructions.map fun system =>
      ({ role := "system", content := .text (extractTextFromGeminiParts system.parts) } :
        Message)).toList.flatMap
        fun message => message.toolCalls.map (·.id)) = [] := by
    cases request.systemInstructions <;> rfl
  rw [geminiMessages, flatMap_append, hsystem, nil_append, flatMap_assoc]
  simp only [hcontent]

lemma nodup_numberedCalls (n : ℕ) (calls : List GeminiFunctionCall) :
    ((numberedCalls n calls).map (·.id)).Nodup := by
  rw [numberedCalls, map_map]
  have hids : (calls.zipIdx n).map ((fun call : ToolCallRequest => call.id) ∘ fun (call, i) =>
      { id := callId (i + 1),
        function := { name := call.functionName, arguments := call.arguments } }) =
      ((calls.zipIdx n).map Prod.snd).map fun i => callId (i + 1) := by
    rw [map_map]
    rfl
  rw [hids, zipIdx_map_snd]
  refine List.Nodup.map (fun i j h => ?_) (nodup_range' ..)
  simpa using callId_injective h

lemma mem_numberedCalls {n m : ℕ} {calls : List GeminiFunctionCall} :
    callId m ∈ (numberedCalls n calls).map (·.id) ↔ n < m ∧ m ≤ n + calls.length := by
  induction calls generalizing n with
  | nil =>
    simp only [numberedCalls, zipIdx_nil, map_nil, not_mem_nil, length_nil, false_iff]
    omega
  | cons call calls ih =>
    have hcons : (numberedCalls n (call :: calls)).map (·.id) =
        callId (n + 1) :: (numberedCalls (n + 1) calls).map (·.id) := rfl
    rw [hcons, mem_cons, callId_injective.eq_iff, ih, length_cons]
    omega

lemma answersAt_geminiMessages (h : ∀ content ∈ request.contents, ∀ part ∈ content.parts,
    part.response? = none) :
    answersAt (geminiMessages request) = [] := by
  have hanswers {n : ℕ} {parts : List GeminiPart} (hparts : ∀ part ∈ parts, part.response? = none) :
      answerMessages n parts = [] := by
    induction parts generalizing n with
    | nil => rfl
    | cons part parts ih =>
      rw [answerMessages, hparts part mem_cons_self, ih fun p hp => hparts p (mem_cons_of_mem _ hp)]
      rfl
  have hrole : ∀ message ∈ geminiMessages request, message.role ≠ "tool" := by
    intro message hmessage
    rcases mem_append.1 hmessage with hmessage | hmessage
    · obtain ⟨system, -, rfl⟩ := Option.map_eq_some_iff.1 (Option.mem_toList.1 hmessage)
      simp
    · obtain ⟨content, hcontent, hmessage⟩ := mem_flatMap.1 hmessage
      rw [convertContent_eq, hanswers (h content hcontent), ownMessages] at hmessage
      split_ifs at hmessage
      · rw [mem_singleton.1 hmessage]
        exact (role_ownMessage content).2
      · cases hmessage
  rw [answersAt, map_eq_nil_iff, filter_eq_nil_iff]
  rintro ⟨message, i⟩ hmessage
  simpa using hrole message (mem_of_getElem? (mk_mem_zipIdx_iff_getElem?.1 hmessage))

/-- The ids of the calls are distinct as long as the calls are in one content: every content with
    calls has one with the id `call_1`. -/
lemma nodup_ids_iff (contents : List GeminiChatContent) :
    (contents.flatMap fun content => (numberedCalls 0 content.calls).map (·.id)).Nodup ↔
      (contents.filter fun content => content.calls ≠ []).length ≤ 1 := by
  have hfilter : (contents.flatMap fun content => (numberedCalls 0 content.calls).map (·.id)) =
      (contents.filter fun content => content.calls ≠ []).flatMap fun content =>
        (numberedCalls 0 content.calls).map (·.id) := by
    induction contents with
    | nil => rfl
    | cons content contents ih =>
      rw [flatMap_cons, ih, filter_cons]
      split_ifs with hnone
      · rfl
      · rw [show content.calls = [] by simpa using hnone]
        rfl
  have hfirst : ∀ content ∈ contents.filter fun content => content.calls ≠ [],
      callId 1 ∈ (numberedCalls 0 content.calls).map (·.id) := by
    intro content hcontent
    have hcalls : content.calls ≠ [] := by simpa using (mem_filter.1 hcontent).2
    exact mem_numberedCalls.2 ⟨Nat.one_pos, by have := length_pos_iff.2 hcalls; omega⟩
  rw [hfilter]
  rcases hcalling : contents.filter fun content => content.calls ≠ [] with
    - | ⟨content, - | ⟨other, rest⟩⟩
  · rw [hcalling]
    simp
  · rw [hcalling, flatMap_singleton]
    simpa using nodup_numberedCalls 0 content.calls
  · rw [hcalling] at hfirst ⊢
    refine iff_of_false (fun hnodup => ?_) (by simp)
    rw [flatMap_cons, flatMap_cons, nodup_append] at hnodup
    exact hnodup.2.2 _ (hfirst content mem_cons_self) _
      (mem_append_left _ (hfirst other (mem_cons_of_mem _ mem_cons_self))) rfl

/-- The message of a response, and the call with its number in the same content, if there is one. -/
lemma exists_answerMessages (hpart : part ∈ parts) (hresponse : part.response?.isSome) (n : ℕ) :
    ∃ m answer, answer ∈ answerMessages n parts ∧ answer.toolCallId = callId m ∧
      m ≤ n + (parts.filterMap call?).length := by
  induction parts generalizing n with
  | nil => cases hpart
  | cons head parts ih =>
    rcases mem_cons.1 hpart with rfl | hpart
    · obtain ⟨response, hresponse⟩ := Option.isSome_iff_exists.1 hresponse
      exact ⟨n, _, mem_append_left _ (by rw [hresponse]; exact mem_singleton_self _), rfl, by omega⟩
    · obtain ⟨m, answer, hanswer, hid, hle'⟩ := ih hpart (n + head.call?.toList.length)
      refine ⟨m, answer, mem_append_right _ hanswer, hid, ?_⟩
      rw [filterMap_cons]
      cases hcall : head.call? with
      | none => simpa [hcall] using hle'
      | some call =>
        simp only [hcall, Option.toList_some, length_cons, length_nil] at hle' ⊢
        omega

def callIds (messages : List Message) : List String := messages.flatMap fun message =>
    message.toolCalls.map (·.id)

lemma mem_callIds_of_callsAt {messages : List Message} {i : ℕ} {call : ToolCallRequest}
    (h : (i, call) ∈ callsAt messages) : call.id ∈ callIds (messages.take (i + 1)) := by
  obtain ⟨⟨message, i'⟩, hmessage, hcall⟩ := mem_flatMap.1 h
  obtain ⟨call', hcall', heq⟩ := mem_map.1 hcall
  obtain ⟨rfl, rfl⟩ : i' = i ∧ call' = call := Prod.mk.inj heq
  refine mem_flatMap.2 ⟨message, ?_, mem_map_of_mem hcall'⟩
  have hget := mk_mem_zipIdx_iff_getElem?.1 hmessage
  exact mem_of_getElem? (by rw [getElem?_take_of_lt (Nat.lt_succ_self _), hget])

variable {content : GeminiChatContent}

lemma not_answered_of_response
    (hcontent : content ∈ request.contents) (hpart : part ∈ content.parts)
    (hresponse : part.response?.isSome) :
    ¬Answered (geminiMessages request) := by
  intro h
  obtain ⟨m, answer, hanswer, hid, hm⟩ := exists_answerMessages hpart hresponse 0
  obtain ⟨before, after, hcontents⟩ := append_of_mem hcontent
  obtain ⟨earlier, later, hanswers⟩ := append_of_mem hanswer
  -- The messages before the answer, and those after it, the content's own one among them.
  obtain ⟨first, second, hmessages, hown⟩ : ∃ first second, geminiMessages request =
    first ++ answer :: second ∧
      (content.ownMessage.toolCalls ≠ [] → content.ownMessage ∈ second) := by
    rw [geminiMessages, hcontents, flatMap_append, flatMap_cons, convertContent_eq, hanswers]
    refine ⟨_ ++ (before.flatMap convertContent ++ earlier), later ++ content.ownMessages ++
      after.flatMap convertContent, by simp only [append_assoc]; rfl, fun hcalls => ?_⟩
    rw [ownMessages, if_pos (.inr hcalls)]
    simp
  have hids : callIds (geminiMessages request) = callIds first ++ callIds (answer :: second) := by
    rw [hmessages, callIds, flatMap_append]
    rfl
  have hnodup : (callIds (geminiMessages request)).Nodup := by
    rw [callIds, ← callsAt_ids]
    exact h.distinct
  -- The call that the answer is for is in a message before it.
  obtain ⟨k, hk⟩ : ∃ k, (answersAt (geminiMessages request))[k]? = some (first.length, answer) := by
    refine mem_iff_getElem?.1 (mem_map.2 ⟨(answer, first.length), mem_filter.2 ⟨?_, ?_⟩, rfl⟩)
    · exact mk_mem_zipIdx_iff_getElem?.2 (by rw [hmessages]; simp)
    · simpa using (role_answerMessages hanswer).1
  obtain ⟨i, call, hcall, hcallId, hi, -⟩ := h.answers k first.length answer hk
  have hbefore : callId m ∈ callIds first := by
    have hmem := mem_callIds_of_callsAt (mem_of_getElem? hcall)
    rw [← hcallId, hid, hmessages, take_append_of_le_length (by omega)] at hmem
    obtain ⟨message, hmessage, hmem⟩ := mem_flatMap.1 hmem
    exact mem_flatMap.2 ⟨message, mem_of_mem_take hmessage, hmem⟩
  have hpositive : 0 < m := by
    have hmem := hids ▸ mem_append_left _ hbefore
    rw [callIds, toolCalls_geminiMessages] at hmem
    obtain ⟨content', -, hmem⟩ := mem_flatMap.1 hmem
    exact (mem_numberedCalls.1 hmem).1
  -- So there is a call with its id in the content's own message too.
  have hsame : callId m ∈ content.ownMessage.toolCalls.map (·.id) := by
    rw [toolCalls_ownMessage]
    exact mem_numberedCalls.2 ⟨hpositive, hm⟩
  have hafter : callId m ∈ callIds (answer :: second) := by
    refine mem_flatMap.2 ⟨content.ownMessage, mem_cons_of_mem _ (hown ?_), hsame⟩
    rintro hnone
    simp [hnone] at hsame
  rw [hids, nodup_append] at hnodup
  exact hnodup.2.2 _ hbefore _ hafter rfl

/-- The exact condition: the conversion returns, there is no response, and the calls are all in one
    content. -/
theorem answered_iff (request : GeminiChatRequest) (info : ConversionInfo) :
    (∃ openai, geminiToOpenAIRequest request info = .ok openai ∧ Answered openai.messages) ↔
      request.StopsFit ∧
      (∀ content ∈ request.contents, ∀ part ∈ content.parts, part.response? = none) ∧
      (request.contents.filter fun content => content.calls ≠ []).length ≤ 1 := by
  constructor
  · rintro ⟨openai, hopenai, h⟩
    have hstops := stopsFit_of_ok hopenai
    obtain ⟨openai', hopenai', hmessages⟩ := geminiToOpenAIRequest_eq_ok hstops info
    obtain rfl : openai = openai' := Except.ok.inj (hopenai.symm.trans hopenai')
    rw [hmessages] at h
    refine ⟨hstops, fun content hcontent part hpart => ?_, ?_⟩
    · by_contra hresponse
      exact not_answered_of_response hcontent hpart (Option.isSome_iff_ne_none.2 hresponse) h
    · rw [← nodup_ids_iff, ← toolCalls_geminiMessages, ← callsAt_ids]
      exact h.distinct
  · rintro ⟨hstops, hresponses, hcalls⟩
    obtain ⟨openai, hopenai, hmessages⟩ := geminiToOpenAIRequest_eq_ok hstops info
    refine ⟨openai, hopenai, ?_, ?_⟩
    · rw [hmessages, callsAt_ids, toolCalls_geminiMessages]
      exact (nodup_ids_iff _).2 hcalls
    · intro k j answer hanswer
      rw [hmessages, answersAt_geminiMessages hresponses] at hanswer
      cases hanswer

namespace Weather

def call : GeminiPart := { functionCall := some ⟨"weather", "[\"Oslo\"]"⟩ }

def response : GeminiPart := { functionResponse := some ⟨"\"rain\""⟩ }

def asked : GeminiChatRequest where
  contents := [⟨"user", [{ text := "Weather?" }]⟩, ⟨"model", [call, call]⟩]

def answered : GeminiChatRequest where
  contents := [⟨"model", [call]⟩, ⟨"user", [response]⟩]

end Weather

/-- Two calls in one content, which are not answered yet. -/
theorem answered_weather :
    ∃ openai, geminiToOpenAIRequest Weather.asked {} = .ok openai ∧ Answered openai.messages :=
  (answered_iff Weather.asked {}).2 ⟨.inl rfl, by decide, by decide⟩

/-- The call has the id `call_1`, and the response to it `call_0`. -/
theorem answered_call_zero :
    Weather.answered.Paired ∧ ∃ openai, geminiToOpenAIRequest Weather.answered {} = .ok openai ∧
      openai.messages.map (fun message =>
        (message.role, message.toolCalls.map (·.id), message.toolCallId)) =
        [("assistant", ["call_1"], ""), ("tool", [], "call_0")] ∧ ¬Answered openai.messages := by
  have hresponse : ¬Answered (geminiMessages Weather.answered) :=
    not_answered_of_response (mem_cons_of_mem _ mem_cons_self) mem_cons_self rfl
  refine ⟨?_, _, rfl, by decide, hresponse⟩
  rintro before part after hparts hpart
  have hparts : [Weather.call, Weather.response] = before ++ part :: after := hparts
  rcases before with - | ⟨first, - | ⟨second, rest⟩⟩
  · obtain ⟨rfl, -⟩ := cons.inj hparts
    cases hpart
  · obtain ⟨rfl, -⟩ := cons.inj hparts
    decide
  · simp at hparts

/-! ## Texts and calls -/

section Lengths

variable {α β : Type*} {l : List α} {f g : α → List β}

lemma length_flatMap_le (h : ∀ a ∈ l, (g a).length ≤ (f a).length) :
    (l.flatMap g).length ≤ (l.flatMap f).length := by
  rw [length_flatMap, length_flatMap]
  exact sum_le_sum h

lemma length_le_of_flatMap (h : ∀ a ∈ l, (g a).length ≤ (f a).length)
    (hlength : (l.flatMap f).length ≤ (l.flatMap g).length) (a : α) (ha : a ∈ l) :
    (f a).length ≤ (g a).length := by
  rw [length_flatMap, length_flatMap] at hlength
  by_contra hlt
  exact absurd (sum_lt_sum _ _ h ⟨a, ha, not_le.1 hlt⟩) (not_lt.2 hlength)

end Lengths

/-- A text or a call, in the parts of a request or in its messages. -/
inductive ConversationItem
  | text (s : String)
  | call (name arguments : String)
  deriving DecidableEq

def GeminiPart.items (part : GeminiPart) : List ConversationItem :=
  (if part.text ≠ "" then [.text part.text] else []) ++
    (part.functionCall.map fun call => .call call.functionName call.arguments).toList

def GeminiChatRequest.items : List ConversationItem :=
  request.contents.flatMap fun content => content.parts.flatMap GeminiPart.items

def textItems (contents : List MediaContent) : List ConversationItem :=
  contents.filterMap fun content => if content.type = .text then some (.text content.text) else none

def Message.items (message : Message) : List ConversationItem :=
  textItems message.parseContent ++ message.toolCalls.map fun call =>
    .call call.function.name call.function.arguments

/-- A content with a call has no text, and the part with the call has nothing else. -/
def GeminiChatContent.Separate (content : GeminiChatContent) : Prop :=
  ∀ part ∈ content.parts, part.functionCall.isSome →
    part.inlineData = none ∧ part.fileData = none ∧ ∀ other ∈ content.parts, other.text = ""

instance (content : GeminiChatContent) : Decidable content.Separate :=
  inferInstanceAs (Decidable (∀ part ∈ content.parts, part.functionCall.isSome →
    part.inlineData = none ∧ part.fileData = none ∧ ∀ other ∈ content.parts, other.text = ""))

lemma call?_eq (part : GeminiPart) :
    part.call? = if part.text = "" ∧ part.inlineData = none ∧
      part.fileData = none then part.functionCall else none := by
  rw [call?, view]
  by_cases htext : part.text = ""
  · cases part.inlineData <;> cases part.fileData <;> cases part.functionCall <;>
      cases part.functionResponse <;>
      simp [htext]
  · simp [htext]

lemma textItems_media? (part : GeminiPart) :
    textItems part.media?.toList = if part.text ≠ "" then [.text part.text] else [] := by
  rw [media?, view]
  by_cases htext : part.text = ""
  · cases part.inlineData <;> cases part.fileData <;> cases part.functionCall <;>
      cases part.functionResponse <;>
      simp [htext, textItems]
  · simp [htext, textItems]

/-- What is kept of a part of the content: its call, or its text if there are no calls. -/
def GeminiChatContent.keptItems (content : GeminiChatContent) (part : GeminiPart) :
    List ConversationItem :=
  if content.calls ≠ [] then
    (part.call?.map fun call => .call call.functionName call.arguments).toList
  else textItems part.media?.toList

lemma length_keptItems_le (content : GeminiChatContent) (part : GeminiPart) :
    (content.keptItems part).length ≤ part.items.length := by
  rw [keptItems, call?_eq, textItems_media?, items, length_append]
  by_cases htext : part.text = "" <;> split_ifs <;> cases part.functionCall <;> simp_all

lemma keptItems_eq (h : content.Separate) (hpart : part ∈ content.parts) :
    content.keptItems part = part.items := by
  rw [keptItems]
  split_ifs with hcalls
  · -- Some part of the content has a call, so no part has a text.
    obtain ⟨call, hcall⟩ := exists_mem_of_ne_nil _ hcalls
    obtain ⟨calling, hcalling, hcall⟩ := mem_filterMap.1 hcall
    have hsome : calling.functionCall.isSome := by
      rw [call?_eq] at hcall
      split_ifs at hcall
      rw [hcall]
      rfl
    have htext := (h calling hcalling hsome).2.2 part hpart
    rw [items, call?_eq]
    cases hown : part.functionCall with
    | none => simp [htext]
    | some call =>
      obtain ⟨hinline, hfile, -⟩ := h part hpart (by rw [hown]; rfl)
      simp [htext, hinline, hfile]
  · have hnone : part.functionCall = none := by
      by_contra hsome
      obtain ⟨hinline, hfile, htext⟩ := h part hpart (Option.isSome_iff_ne_none.2 hsome)
      have hcall := filterMap_eq_nil_iff.1 (not_not.1 hcalls) part hpart
      rw [call?_eq, if_pos ⟨htext part hpart, hinline, hfile⟩] at hcall
      exact hsome hcall
    rw [items, textItems_media?, hnone]
    exact (append_nil _).symm

lemma separate_of_length_le
    (h : ∀ part ∈ content.parts, part.items.length ≤ (content.keptItems part).length) :
    content.Separate := by
  simp only [keptItems, call?_eq, textItems_media?, items, length_append] at h
  intro part hpart hsome
  obtain ⟨call, hcall⟩ := Option.isSome_iff_exists.1 hsome
  by_cases hcalls : content.calls ≠ []
  · simp only [if_pos hcalls] at h
    have htext : ∀ other ∈ content.parts, other.text = "" := by
      intro other hother
      by_contra htext
      simpa [htext] using h other hother
    have hplain : part.inlineData = none ∧ part.fileData = none := by
      by_contra hplain
      simpa [htext part hpart, hplain, hcall] using h part hpart
    exact ⟨hplain.1, hplain.2, htext⟩
  · -- Without calls in the content, that of the part is lost.
    have hkept := h part hpart
    rw [if_neg hcalls, hcall] at hkept
    simp at hkept

lemma parseContent_ownMessage (h : content.calls ≠ []) : content.ownMessage.parseContent = [] := by
  have hcalls : numberedCalls 0 content.calls ≠ [] := by simpa [numberedCalls] using h
  rw [ownMessage, message, if_pos hcalls]
  rfl

lemma textItems_ownMessage (h : content.calls = []) :
    textItems content.ownMessage.parseContent = textItems content.medias := by
  rw [ownMessage, message, h]
  dsimp only
  rw [if_neg (by simp [numberedCalls])]
  split
  · next hmedias => rw [hmedias]; rfl
  · next media hmedias =>
    rw [hmedias]
    split_ifs with htype
    · simp [Message.parseContent, textItems, htype]
    · rfl
  · rfl

lemma map_call_numberedCalls (n : ℕ) (calls : List GeminiFunctionCall) :
    ((numberedCalls n calls).map fun call =>
      ConversationItem.call call.function.name call.function.arguments) =
      calls.map fun call => .call call.functionName call.arguments := by
  have h : (calls.zipIdx n).map (fun x => ConversationItem.call x.1.functionName x.1.arguments) =
      ((calls.zipIdx n).map Prod.fst).map fun call => .call call.functionName call.arguments := by
    rw [map_map]
    rfl
  rw [numberedCalls, map_map]
  exact h.trans (by rw [zipIdx_map_fst])

lemma items_ownMessages (content : GeminiChatContent) :
    content.ownMessages.flatMap Message.items = content.parts.flatMap content.keptItems := by
  have hitems : content.ownMessages.flatMap Message.items = content.ownMessage.items := by
    rw [ownMessages]
    split_ifs with hown
    · exact flatMap_singleton _ _
    · obtain ⟨hcontent, hcalls⟩ := not_or.1 hown
      rw [Message.items, not_not.1 hcontent, not_not.1 hcalls]
      rfl
  have hkept : content.keptItems = if content.calls ≠ [] then
      fun part => (part.call?.map fun call => .call call.functionName call.arguments).toList
      else fun part => textItems part.media?.toList := by
    ext1 part
    rw [keptItems]
    split_ifs <;> rfl
  rw [hitems, Message.items, toolCalls_ownMessage, map_call_numberedCalls, hkept]
  split_ifs with hcalls
  · rw [parseContent_ownMessage hcalls, calls, map_filterMap, filterMap_eq_flatMap_toList]
    rfl
  · rw [textItems_ownMessage (not_not.1 hcalls), not_not.1 hcalls, map_nil, append_nil, medias,
      filterMap_eq_flatMap_toList, textItems, filterMap_flatMap]
    rfl

/-- The messages that contents become: neither the system prompt nor a response of a tool. -/
def turns (messages : List Message) : List Message :=
  messages.filter fun message => message.role ≠ "system" ∧ message.role ≠ "tool"

lemma turns_geminiMessages (request : GeminiChatRequest) :
    turns (geminiMessages request) = request.contents.flatMap ownMessages := by
  have hcontent (content : GeminiChatContent) : turns (convertContent content) =
      content.ownMessages := by
    rw [convertContent_eq, turns, filter_append, filter_eq_nil_iff.2 fun message hmessage => by
      simp [(role_answerMessages hmessage).1], nil_append, ownMessages]
    split_ifs
    · simp [role_ownMessage content]
    · rfl
  have hsystem : turns (request.systemInstructions.map fun system =>
      ({ role := "system", content := .text (extractTextFromGeminiParts system.parts) } :
          Message)).toList = [] := by
    cases request.systemInstructions <;> rfl
  rw [turns] at hsystem
  rw [geminiMessages, turns, filter_append, hsystem, nil_append, filter_flatMap]
  exact flatMap_congr fun content _ => hcontent content

/-- Texts and calls are all kept, in order, just where no content has both: what is kept of a part
    is never more than the part has, so that nothing can stand in for what is lost. -/
lemma items_sublist_iff (request : GeminiChatRequest) :
    request.items.Sublist ((turns (geminiMessages request)).flatMap Message.items) ↔
      ∀ content ∈ request.contents, content.Separate := by
  have hitems : (turns (geminiMessages request)).flatMap Message.items =
      request.contents.flatMap fun content => content.parts.flatMap content.keptItems := by
    rw [turns_geminiMessages, flatMap_assoc]
    exact flatMap_congr fun content _ => items_ownMessages content
  rw [hitems, GeminiChatRequest.items]
  constructor
  · intro hsublist content hcontent
    refine separate_of_length_le
      (length_le_of_flatMap (fun part _ => length_keptItems_le content part)
      (length_le_of_flatMap (fun content _ => ?_) hsublist.length_le content hcontent))
    exact length_flatMap_le fun part _ => length_keptItems_le content part
  · intro h
    rw [flatMap_congr fun content hcontent =>
      flatMap_congr fun part hpart => (keptItems_eq (h content hcontent) hpart).symm]

end Allrouter
