import Allrouter.Relay.Claude
import Allrouter.Relay.GeminiRequest

/-!
# From Claude requests to chat completion requests

The system prompt becomes a message, and so does each message; the results of tools become
messages of their own. An image block is read through a pointer to its source, which may be nil.

* `claudeToOpenAIRequest_noPanic_iff`: the conversion returns a request or an error just where every
  image that it comes to has a source;
* `conversions_return_iff`: that of Gemini requests returns just where their stop sequences can be
  cut to four, and keeps texts and calls just where no content has both.
-/

namespace Allrouter

open Runtime Text Message StopValue

/-! ## The request -/

/-- The content of a message, or a system prompt, by what it decodes to. -/
inductive ClaudeContent
  | absent
  | text (s : String)
  | blocks (l : List ClaudeMediaMessage)
  /-- Neither a text nor a list of blocks. -/
  | invalid

/-- A message of the conversation. -/
structure ClaudeMessage where
  role : String
  content : ClaudeContent

/-- A tool that may be used. -/
structure ClaudeTool where
  name : String
  (description inputSchema : String := "")

/-- The value of `tool_choice`, by what it decodes to. -/
inductive ClaudeToolChoiceValue
  | object (type name : String) (disableParallelToolUse : Bool)
  | text (s : String)
  | other

/-- Whether the model thinks, and for how long. -/
structure ClaudeThinking where
  type : String
  budgetTokens : Option ℤ := none

/-- A request in the format of Claude. -/
structure ClaudeRequest where
  model : String
  system : ClaudeContent := .absent
  messages : List ClaudeMessage := []
  maxTokens : Option ℕ := none
  stopSequences : List String := []
  (temperature topP : Option ℚ := none)
  topK : Option ℤ := none
  stream : Option Bool := none
  tools : List ClaudeTool := []
  /-- The effort in the output configuration. -/
  effort : String := ""
  toolChoice : Option ClaudeToolChoiceValue := none
  thinking : Option ClaudeThinking := none

/-- Why a request is not converted. -/
inductive ClaudeConversionError
  /-- "failed to convert Claude tool_choice" -/
  | toolChoice
  /-- The content of a message does not decode. -/
  | content
  deriving DecidableEq

/-! ## The conversion -/

/-- Which tool is to be used. -/
structure ClaudeToolChoice where
  (type name : String := "")
  disableParallelToolUse : Bool := false

def parseClaudeToolChoice : ClaudeToolChoiceValue →
    Except (Fault ClaudeConversionError) ClaudeToolChoice
  | .object type name disableParallelToolUse => .ok { type, name, disableParallelToolUse }
  | .text "auto" => .ok { type := "auto" }
  | .text "any" => .ok { type := "any" }
  | .text "none" => .ok { type := "none" }
  | .text "required" => .ok { type := "any" }
  | .text _ => .error (.failed .toolChoice)
  | .other => .error (.failed .toolChoice)

/-- The tool choice, and whether calls may be parallel. -/
def convertToolChoice (choice : ClaudeToolChoice) : Option ToolChoice × Option Bool :=
  (match choice.type with
    | "auto" => some .auto
    | "any" => some .required
    | "none" => some .none
    | "tool" => some (.function choice.name)
    | _ => none,
  if choice.type ≠ "" ∧ choice.type ≠ "none" then some !choice.disableParallelToolUse else none)

def ClaudeMessage.parseContent (message : ClaudeMessage) :
    Except (Fault ClaudeConversionError) (List ClaudeMediaMessage) :=
  match message.content with
  | .absent => .ok []
  | .blocks l => .ok l
  | _ => .error (.failed .content)

variable (request : ClaudeRequest)

def ClaudeRequest.searchToolNameByToolCallId (toolCallId : String) : String :=
  let blocks := request.messages.flatMap fun message => message.parseContent.toOption.getD []
  ((blocks.find? fun block => block.id = toolCallId).map (·.name)).getD ""

/-- What the loop over the blocks of a message has made so far. -/
structure BlocksState where
  mediaMessages : List MediaContent := []
  toolCalls : List ToolCallRequest := []
  reasoningContent : String := ""
  messages : List Message := []

def ClaudeRequest.toolMessage (block : ClaudeMediaMessage) : Message where
  role := "tool"
  name := some (if block.name = "" then request.searchToolNameByToolCallId block.toolUseId
    else block.name)
  toolCallId := block.toolUseId
  content := .text (match block.content with
    | .text s => s
    | .encoded json => json)

def BlocksState.add (state : BlocksState) (block : ClaudeMediaMessage) : Except
    (Fault ClaudeConversionError) BlocksState :=
  let text : MediaContent :=
    { type := .text, text := block.getText, cacheControl := block.cacheControl }
  match block.type with
  | .text => .ok { state with mediaMessages := state.mediaMessages ++ [text] }
  | .inputText => .ok { state with mediaMessages := state.mediaMessages ++ [text] }
  | .image => do
    let source ← deref block.source
    return { state with
      mediaMessages := state.mediaMessages ++
        [{ type := .imageUrl, imageUrl := some { url := "data:" ++ source.mediaType ++ ";base64," ++
          source.data } }] }
  | .toolUse =>
    .ok { state with
      toolCalls := state.toolCalls ++
        [{ id := block.id, function := { name := block.name, arguments := block.input } }] }
  | .thinking =>
    .ok { state with reasoningContent := state.reasoningContent ++ block.thinking.getD "" }
  | .toolResult => .ok { state with messages := state.messages ++ [request.toolMessage block] }
  | _ => .ok state

def ClaudeRequest.convertMessage (claudeMessage : ClaudeMessage) :
    Except (Fault ClaudeConversionError)
    (List Message) :=
  match claudeMessage.content with
  | .text s => .ok [{ role := claudeMessage.role, content := .text s }]
  | _ => do
    let contents ← claudeMessage.parseContent
    let state ← contents.foldlM (BlocksState.add request) {}
    let message : Message :=
      { role := claudeMessage.role
        toolCalls := state.toolCalls
        content := if state.mediaMessages = [] then .absent else .media state.mediaMessages
        reasoningContent := if state.reasoningContent = "" then none
          else some state.reasoningContent }
    let kept := message.parseContent ≠ [] ∨ message.toolCalls ≠ [] ∨
      message.reasoningContent.getD "" ≠ ""
    return state.messages ++ (if kept then [message] else [])

def ClaudeRequest.systemMessages (info : ConversionInfo) : List Message :=
  match request.system with
  | .absent => []
  | .invalid => []
  | .text s => if s = "" then [] else [{ role := "system", content := .text s }]
  | .blocks [] => []
  | .blocks systems =>
    if info.isOpenRouter ∧ "anthropic/claude".toList <+: info.upstreamModelName.toList then
      [{ role := "system"
         content := .media (systems.map fun system =>
          { type := .text, text := system.getText, cacheControl := system.cacheControl }) }]
    else [{ role := "system", content := .text (String.join (systems.map (·.getText))) }]

def ClaudeThinking.reasoning (thinking : ClaudeThinking) : RequestReasoning :=
  match thinking.type with
  | "enabled" => { enabled := true, maxTokens := thinking.budgetTokens.getD 0 }
  | "adaptive" => { enabled := true }
  | _ => {}

def claudeToOpenAIRequest (info : ConversionInfo) :
    Except (Fault ClaudeConversionError) GeneralOpenAIRequest := do
  let thinkingSuffix := "-thinking"
  let model :=
    if !info.isOpenRouter ∧ hasSuffix thinkingSuffix info.originModelName ∧
      ¬hasSuffix thinkingSuffix request.model then
      request.model ++ thinkingSuffix
    else request.model
  let stop := match request.stopSequences with
    | [] => none
    | [s] => some (one s)
    | l => some (many l)
  let (toolChoice, parallelToolCalls) ← match request.toolChoice with
    | none => pure (none, none)
    | some value => (parseClaudeToolChoice value).map convertToolChoice
  let messages ← request.messages.mapM request.convertMessage
  return {
    model
    messages := request.systemMessages info ++ messages.flatten
    stream := request.stream
    temperature := request.temperature
    topP := request.topP
    topK := request.topK
    maxTokens := request.maxTokens
    stop
    tools := request.tools.map fun tool =>
      { function := { name := tool.name, description := tool.description, parameters :=
        tool.inputSchema } }
    toolChoice
    parallelToolCalls
    verbosity := if info.isOpenRouter ∧ request.effort ≠ "" then some request.effort else none
    reasoning := if info.isOpenRouter then request.thinking.map (·.reasoning) else none }

/-! ## The conversions do not panic -/

/-- The block is not an image without a source. -/
def ClaudeMediaMessage.Sourced (block : ClaudeMediaMessage) : Prop :=
  block.type = .image → block.source.isSome

/-- The content of the message is read as a text, as blocks or as nothing. -/
def ClaudeMessage.decodes (message : ClaudeMessage) : Bool :=
  match message.content with
  | .invalid => false
  | _ => true

/-- The messages that the conversion comes to: none of them after a tool choice that it refuses, and
    none after a message that does not decode. -/
def ClaudeRequest.reached : List ClaudeMessage :=
  if request.toolChoice.all fun value => (parseClaudeToolChoice value).isOk then
    request.messages.takeWhile (·.decodes)
  else []

/-- Every image that the conversion comes to has a source. -/
def ClaudeRequest.ImagesHaveSource : Prop :=
  ∀ message ∈ request.reached, ∀ blocks, message.content = .blocks blocks →
    ∀ block ∈ blocks, block.Sourced

lemma add_of_sourced (state : BlocksState) {block : ClaudeMediaMessage} (h : block.Sourced) :
    ∃ state', BlocksState.add request state block = .ok state' := by
  rw [BlocksState.add]
  cases htype : block.type with
  | image =>
    obtain ⟨source, hsource⟩ := Option.isSome_iff_exists.1 (h htype)
    rw [hsource]
    exact ⟨_, rfl⟩
  | _ => exact ⟨_, rfl⟩

lemma add_of_not_sourced (state : BlocksState) {block : ClaudeMediaMessage} (h : ¬block.Sourced) :
    BlocksState.add request state block = .error (.panic .nilDereference) := by
  obtain ⟨htype, hsource⟩ := Classical.not_imp.1 h
  rw [BlocksState.add, htype, Option.not_isSome_iff_eq_none.1 hsource]
  rfl

lemma foldlM_add_cases (blocks : List ClaudeMediaMessage) (state : BlocksState) :
    (∀ block ∈ blocks, block.Sourced) ∧
      (∃ state', blocks.foldlM (BlocksState.add request) state = .ok state') ∨
    ¬(∀ block ∈ blocks, block.Sourced) ∧
      blocks.foldlM (BlocksState.add request) state = .error (.panic .nilDereference) := by
  induction blocks generalizing state with
  | nil => exact .inl ⟨List.forall_mem_nil _, state, rfl⟩
  | cons block blocks ih =>
    rw [List.foldlM_cons, List.forall_mem_cons]
    by_cases hblock : block.Sourced
    · obtain ⟨state', hstate'⟩ := add_of_sourced request state hblock
      rw [hstate', and_iff_right hblock]
      exact ih state'
    · rw [add_of_not_sourced request state hblock]
      exact .inr ⟨fun h => hblock h.1, rfl⟩

/-- A message that does not decode is an error; one that does becomes messages, or its images
    panic. -/
lemma convertMessage_cases (message : ClaudeMessage) :
    message.decodes = false ∧ request.convertMessage message = .error (.failed .content) ∨
    message.decodes ∧
      ((∀ blocks, message.content = .blocks blocks → ∀ block ∈ blocks, block.Sourced) ∧
        (∃ messages, request.convertMessage message = .ok messages) ∨
      ¬(∀ blocks, message.content = .blocks blocks → ∀ block ∈ blocks, block.Sourced) ∧
        request.convertMessage message = .error (.panic .nilDereference)) := by
  rw [ClaudeRequest.convertMessage, ClaudeMessage.parseContent, ClaudeMessage.decodes]
  cases message.content with
  | absent => exact .inr ⟨rfl, .inl ⟨nofun, _, rfl⟩⟩
  | text s => exact .inr ⟨rfl, .inl ⟨nofun, _, rfl⟩⟩
  | invalid => exact .inl ⟨rfl, rfl⟩
  | blocks blocks =>
    rcases foldlM_add_cases request blocks {} with
      ⟨hsourced, state, hstate⟩ | ⟨hsourced, hpanic⟩
    · refine .inr ⟨rfl, .inl ⟨?_, ?_⟩⟩
      · rintro _ ⟨⟩
        exact hsourced
      · dsimp only [Except.bind, bind]
        rw [hstate]
        exact ⟨_, rfl⟩
    · refine .inr ⟨rfl, .inr ⟨fun h => hsourced (h blocks rfl), ?_⟩⟩
      dsimp only [Except.bind, bind]
      rw [hpanic]

lemma noPanic_mapM_iff (messages : List ClaudeMessage) :
    NoPanic (messages.mapM request.convertMessage) ↔
      ∀ message ∈ messages.takeWhile (·.decodes), ∀ blocks, message.content = .blocks blocks →
        ∀ block ∈ blocks, block.Sourced := by
  induction messages with
  | nil => exact iff_of_true (.ok _) (List.forall_mem_nil _)
  | cons message messages ih =>
    rw [List.mapM_cons, List.takeWhile_cons]
    rcases convertMessage_cases request message with
      ⟨hdecodes, herror⟩ | ⟨hdecodes, ⟨hsourced, converted, hok⟩ | ⟨hsourced, hpanic⟩⟩
    · rw [herror, hdecodes]
      exact iff_of_true (.failed _) (List.forall_mem_nil _)
    · rw [hok, hdecodes, if_pos rfl, List.forall_mem_cons, and_iff_right hsourced, ← ih]
      exact NoPanic.bind_pure_iff
    · rw [hpanic, hdecodes, if_pos rfl, List.forall_mem_cons]
      exact iff_of_false (fun h => h _ rfl) fun h => hsourced h.1

lemma claudeToOpenAIRequest_noPanic_iff (info : ConversionInfo) :
    NoPanic (claudeToOpenAIRequest request info) ↔ request.ImagesHaveSource := by
  have hmessages := noPanic_mapM_iff request request.messages
  rw [claudeToOpenAIRequest, ClaudeRequest.ImagesHaveSource, ClaudeRequest.reached]
  cases request.toolChoice with
  | none => exact NoPanic.bind_pure_iff.trans hmessages
  | some value =>
    obtain herror | ⟨choice, hchoice⟩ : parseClaudeToolChoice value = .error (.failed .toolChoice) ∨
        ∃ choice, parseClaudeToolChoice value = .ok choice := by
      rw [parseClaudeToolChoice.eq_def]
      split <;> first | exact .inl rfl | exact .inr ⟨_, rfl⟩
    · simp only [Option.all_some, herror]
      exact iff_of_true (.failed _) (List.forall_mem_nil _)
    · simp only [Option.all_some, hchoice]
      exact NoPanic.bind_pure_iff.trans hmessages

/-- The exact conditions: Gemini requests are converted without a loss if their stop sequences can
    be cut to four and no content has both texts and calls, and Claude requests are converted, or
    refused, without a panic if the images that the conversion comes to have sources. -/
theorem conversions_return_iff (request : GeminiChatRequest) (claude : ClaudeRequest)
    (info : ConversionInfo) :
    ((∃ openai, geminiToOpenAIRequest request info = .ok openai ∧
        request.items.Sublist ((turns openai.messages).flatMap items) ∧
        ∀ system, request.systemInstructions = some system → ∃ rest, openai.messages =
          { role := "system"
            content := .text (String.intercalate "\n"
              ((system.parts.map (·.text)).filter (· ≠ ""))) } :: rest) ↔
      request.StopsFit ∧ ∀ content ∈ request.contents, content.Separate) ∧
    (NoPanic (claudeToOpenAIRequest claude info) ↔ claude.ImagesHaveSource) := by
  refine ⟨⟨?_, ?_⟩, claudeToOpenAIRequest_noPanic_iff claude info⟩
  · rintro ⟨openai, hopenai, hitems, -⟩
    have hstops := stopsFit_of_ok hopenai
    obtain ⟨openai', hopenai', hmessages⟩ := geminiToOpenAIRequest_eq_ok hstops info
    obtain rfl : openai = openai' := Except.ok.inj (hopenai.symm.trans hopenai')
    rw [hmessages] at hitems
    exact ⟨hstops, (items_sublist_iff request).1 hitems⟩
  · rintro ⟨hstops, hcontents⟩
    obtain ⟨openai, hopenai, hmessages⟩ := geminiToOpenAIRequest_eq_ok hstops info
    refine ⟨openai, hopenai, ?_, fun system hsystem => ?_⟩
    · rw [hmessages]
      exact (items_sublist_iff request).2 hcontents
    · rw [hmessages, geminiMessages, hsystem]
      exact ⟨_, rfl⟩

namespace Conversions

def geminiRequest (parts : List GeminiPart) (stops : List String) : GeminiChatRequest where
  contents := [⟨"user", [{ text := "Weather?" }]⟩, ⟨"model", parts⟩]
  stopSequences := .ofList stops

def claudeRequest (source : Option ClaudeMessageSource) : ClaudeRequest where
  model := "gpt-4o"
  messages := [⟨"user", .blocks [{ type := .image, source }]⟩]

end Conversions

/-- Five stop sequences and a call, and an image with a source. -/
theorem conversions_return_weather :
    (∃ openai, geminiToOpenAIRequest
        (Conversions.geminiRequest [Weather.call] ["a", "b", "c", "d", "e"]) {} = .ok openai ∧
      [.text "Weather?", .call "weather" "[\"Oslo\"]"].Sublist
        ((turns openai.messages).flatMap items)) ∧
    NoPanic (claudeToOpenAIRequest
      (Conversions.claudeRequest (some { mediaType := "image/png", data := "iVBO" })) {}) := by
  obtain ⟨hgemini, hclaude⟩ := conversions_return_iff
    (Conversions.geminiRequest [Weather.call] ["a", "b", "c", "d", "e"])
    (Conversions.claudeRequest (some { mediaType := "image/png", data := "iVBO" })) {}
  refine ⟨?_, hclaude.2 ?_⟩
  · obtain ⟨openai, hopenai, hitems, -⟩ := hgemini.2 ⟨.inr (by decide), by decide⟩
    exact ⟨openai, hopenai, hitems⟩
  · intro message hmessage blocks hblocks block hblock _
    rw [List.mem_singleton.1 hmessage] at hblocks
    cases hblocks
    rw [List.mem_singleton.1 hblock]
    rfl

/-- One stop sequence in a slice of capacity one, an image without a source, and a text beside a
    call. -/
theorem conversions_fail :
    geminiToOpenAIRequest (Conversions.geminiRequest [] ["END"]) {} = .error (.panic .sliceBounds) ∧
    claudeToOpenAIRequest (Conversions.claudeRequest none) {} = .error (.panic .nilDereference) ∧
    ∃ openai, geminiToOpenAIRequest (Conversions.geminiRequest [{ text := "Let me look." },
      Weather.call] []) {} = .ok openai ∧
      openai.messages.flatMap items = [.text "Weather?", .call "weather" "[\"Oslo\"]"] :=
  ⟨rfl, rfl, _, rfl, by decide⟩

end Allrouter
