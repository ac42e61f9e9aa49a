import Allrouter.Library.Runtime
import Allrouter.Relay.Chunk
import Allrouter.Relay.Claude

/-!
# From Claude events to chat completion chunks

Each event of a Claude stream becomes at most one chunk. The converter has no state, so it
takes the index of a tool call from that of the content block: one less, and not below zero.

A message is a list of blocks, and a stream of it is a way to cut them into deltas (`CutMessage`).

* `chunkDeltas_handleStream`: the deltas that are sent are those of the events, one after the other;
* `joinedCalls_iff`: joining the fragments gives one call for each tool use block, exactly if the
  first two blocks are not both tool uses, which become one call;
* `completed_iff`: of a whole message everything arrives that its stream delivers, exactly if
  all but one of its texts and all but one of its thinkings are empty.
-/

namespace Allrouter

open Text Grouping Runtime List

/-! ## The converter -/

def stopReasonClaude2OpenAI (reason : String) : String :=
  match toLower reason with
  | "stop_sequence" => "stop"
  | "end_turn" => "stop"
  | "max_tokens" => "length"
  | "tool_use" => "tool_calls"
  | "refusal" => "content_filter"
  | _ => reason

/-- The index of a tool call, from that of its content block. -/
def fcIdx (index : Option ℤ) : ℤ := max (index.getD 0 - 1) 0

/-- The choice of a chunk with tool calls has no content. -/
def choiceWithTools (choice : StreamChoice) (tools : List ToolCallResponse) : StreamChoice :=
  if tools = [] then choice
  else { choice with delta := { choice.delta with content := none, toolCalls := tools } }

/-- The choice of the start of a block, and the tool calls in it. -/
def startChoice (index : Option ℤ) (block : ClaudeMediaMessage) :
    StreamChoice × List ToolCallResponse :=
  match block.type with
  | .text => ({ delta := { content := block.text } }, [])
  | .toolUse =>
    ({}, [{ index := some (fcIdx index), id := block.id, type := some "function",
            function := { name := block.name } }])
  | _ => ({}, [])

def deltaChoice (index : Option ℤ) (delta : ClaudeMediaMessage) :
    Except Panic (StreamChoice × List ToolCallResponse) :=
  let choice : StreamChoice := { delta := { content := delta.text } }
  match delta.type with
  | .inputJsonDelta =>
    match delta.partialJson with
    | none => .error .nilDereference
    | some partialJson =>
      .ok (choice, [{ index := some (fcIdx index), type := some "function", function :=
        { arguments := partialJson } }])
  | .signatureDelta =>
    .ok ({ choice with delta := { choice.delta with reasoningContent := some "\n" } }, [])
  | .thinkingDelta =>
    .ok ({ choice with delta := { choice.delta with reasoningContent := delta.thinking } }, [])
  | _ => .ok (choice, [])

variable (response : ClaudeResponse)

/-- The choice of an event; some events have none. -/
def claudeChoice : Except Panic (Option (StreamChoice × List ToolCallResponse)) :=
  match response.type with
  | .messageStart => .ok (some ({ delta := { content := some "", role := "assistant" } }, []))
  | .contentBlockStart => .ok (response.contentBlock.map (startChoice response.index))
  | .contentBlockDelta =>
    match response.delta with
    | none => .ok (some ({}, []))
    | some delta => (deltaChoice response.index delta).map some
  | .messageDelta =>
    let finishReason := (response.delta.bind (·.stopReason)).map stopReasonClaude2OpenAI
    .ok (some ({ finishReason := finishReason.filter (· ≠ "null") }, []))
  | _ => .ok none

/-- The chunk for an event. -/
def streamResponseClaude2OpenAI : Except Panic (Option ChatCompletionsStreamResponse) :=
  let message := if response.type = .messageStart then response.message else none
  (claudeChoice response).map fun choice => choice.map fun (choice, tools) =>
    { id := (message.map (·.id)).getD ""
      model := (message.map (·.model)).getD response.model
      choices := [choiceWithTools choice tools] }

/-- What is kept between the events of a stream. -/
structure ClaudeResponseInfo where
  responseId : String := ""
  created : ℤ := 0
  model : String := ""

/-- An event of a stream in the format of chat completions, and the chunk that is sent. -/
def handleStreamResponseData (info : ClaudeResponseInfo) (response : ClaudeResponse) :
    Except Panic (ClaudeResponseInfo × Option ChatCompletionsStreamResponse) :=
  (streamResponseClaude2OpenAI response).map fun chunk =>
    let message := if response.type = .messageStart then response.message else none
    let info' : ClaudeResponseInfo :=
      { info with
        responseId := (message.map (·.id)).getD info.responseId
        model := (message.map (·.model)).getD info.model }
    (info', chunk.map fun chunk =>
      { chunk with id := info'.responseId, created := info'.created, model := info'.model })

/-- The chunks that are sent for the events of a stream. -/
def handleStream (info : ClaudeResponseInfo) :
    List ClaudeResponse → Except Panic (List ChatCompletionsStreamResponse)
  | [] => .ok []
  | response :: responses => do
    let (info', chunk) ← handleStreamResponseData info response
    let chunks ← handleStream info' responses
    return chunk.toList ++ chunks

/-! ## What is sent -/

/-- The delta of the chunk that is sent for an event. -/
def eventDeltas : List ChoiceDelta :=
  match claudeChoice response with
  | .ok (some (choice, tools)) => [(choiceWithTools choice tools).delta]
  | _ => []

def eventCalls : List ToolCallResponse :=
  match claudeChoice response with
  | .ok (some (_, tools)) => tools
  | _ => []

variable {choice : StreamChoice} {response : ClaudeResponse}

lemma toolCalls_choiceWithTools (h : choice.delta.toolCalls = []) (tools : List ToolCallResponse) :
    (choiceWithTools choice tools).delta.toolCalls = tools := by
  rw [choiceWithTools]
  split_ifs with htools
  · rw [h, htools]
  · rfl

lemma toolCalls_of_claudeChoice {tools : List ToolCallResponse}
    (h : claudeChoice response = .ok (some (choice, tools))) : choice.delta.toolCalls = [] := by
  rw [claudeChoice] at h
  split at h
  · cases h
    rfl
  · obtain ⟨block, -, hblock⟩ := Option.map_eq_some_iff.1 (Except.ok.inj h)
    rw [startChoice] at hblock
    split at hblock <;> cases hblock <;> rfl
  · split at h
    · cases h
      rfl
    · rename_i delta _
      rw [deltaChoice] at h
      split at h
      · split at h
        · cases h
        · cases h
          rfl
      · cases h
        rfl
      · cases h
        rfl
      · cases h
        rfl
  · cases h
    rfl
  · cases h

/-- The converter reads the JSON of the event, which is there. -/
def ClaudeResponse.Converts : Prop := ∃ choice, claudeChoice response = .ok choice

lemma chunkDeltas_handleStreamResponseData (info : ClaudeResponseInfo) (h : response.Converts) :
    ∃ info' chunk, handleStreamResponseData info response = .ok (info', chunk) ∧
      chunkDeltas chunk.toList = eventDeltas response := by
  obtain ⟨choice, hchoice⟩ := h
  rw [handleStreamResponseData, streamResponseClaude2OpenAI, hchoice]
  refine ⟨_, _, rfl, ?_⟩
  rw [eventDeltas, hchoice]
  rcases choice with - | ⟨choice, tools⟩ <;> rfl

lemma chunkDeltas_handleStream (info : ClaudeResponseInfo) {responses : List ClaudeResponse}
    (h : ∀ response ∈ responses, response.Converts) :
    ∃ chunks, handleStream info responses = .ok chunks ∧
      chunkDeltas chunks = responses.flatMap eventDeltas := by
  induction responses generalizing info with
  | nil => exact ⟨[], rfl, rfl⟩
  | cons response responses ih =>
    obtain ⟨info', chunk, hhead, hdeltas⟩ :=
      chunkDeltas_handleStreamResponseData info (h response mem_cons_self)
    obtain ⟨chunks, htail, hrest⟩ := ih info' fun r hr => h r (mem_cons_of_mem _ hr)
    refine ⟨chunk.toList ++ chunks, ?_, ?_⟩
    · rw [handleStream, hhead]
      change (do let chunks ← handleStream info' responses; return chunk.toList ++ chunks) = _
      rw [htail]
      rfl
    · rw [chunkDeltas_append, hdeltas, hrest, flatMap_cons]

lemma callPartsOf_eventDeltas : (eventDeltas response).flatMap callPartsOf =
    (eventCalls response).map fun call => (call.index.getD 0, call) := by
  rw [eventDeltas, eventCalls]
  split
  · rename_i choice tools hchoice
    have htools := toolCalls_choiceWithTools (toolCalls_of_claudeChoice hchoice) tools
    simp [callPartsOf, htools]
  · rfl

/-! ## A message and its cuttings -/

/-- A content block, cut into the pieces that its deltas carry. -/
inductive CutBlock
  /-- A piece is a text, or the signature of the thinking. -/
  | thinking (pieces : List (Option String))
  /-- The start of the block may carry a text. -/
  | text (start : Option String) (pieces : List String)
  | toolUse (id name : String) (pieces : List String)

namespace CutBlock

def thinkingDelta (piece : Option String) : ClaudeMediaMessage :=
  match piece with
  | some _ => { type := .thinkingDelta, thinking := piece }
  | none => { type := .signatureDelta }

def contentBlock : CutBlock → ClaudeMediaMessage
  | thinking _ => { type := .thinking, thinking := some "" }
  | text start _ => { type := .text, text := start }
  | toolUse id name _ => { type := .toolUse, id, name, input := "\x7b\x7d" }

def deltas : CutBlock → List ClaudeMediaMessage
  | thinking pieces => pieces.map thinkingDelta
  | text _ pieces => pieces.map fun piece => { type := .textDelta, text := some piece }
  | toolUse _ _ pieces => pieces.map fun piece =>
    { type := .inputJsonDelta, partialJson := some piece }

def deltaEvent (n : ℕ) (delta : ClaudeMediaMessage) : ClaudeResponse :=
  { type := .contentBlockDelta, index := some n, delta := some delta }

def events (block : CutBlock) (n : ℕ) : List ClaudeResponse :=
  { type := .contentBlockStart, index := some n, contentBlock := some block.contentBlock } ::
    block.deltas.map (deltaEvent n) ++ [{ type := .contentBlockStop, index := some n }]

def call? : CutBlock → Option AssembledCall
  | toolUse id name pieces => some ⟨id, name, String.join pieces⟩
  | _ => none

/-- The fragments that the converter makes of a tool use block. -/
def callFragments (block : CutBlock) (n : ℕ) : List ToolCallResponse :=
  match block with
  | toolUse id name pieces =>
    { index := some (fcIdx (some (n : ℤ))), id, type := some "function", function := { name } } ::
      pieces.map fun piece =>
        { index := some (fcIdx (some (n : ℤ))), type := some "function",
          function := { arguments := piece } }
  | _ => []

variable {block : CutBlock} {n : ℕ}

lemma converts_events {response : ClaudeResponse} (h : response ∈ block.events n) :
    response.Converts := by
  simp only [events, mem_append, mem_cons, mem_map, not_mem_nil, or_false] at h
  rcases h with (rfl | ⟨delta, hdelta, rfl⟩) | rfl
  · exact ⟨_, rfl⟩
  · cases block with
    | thinking pieces =>
      obtain ⟨piece, -, rfl⟩ := mem_map.1 hdelta
      cases piece <;> exact ⟨_, rfl⟩
    | text | toolUse =>
      obtain ⟨piece, -, rfl⟩ := mem_map.1 hdelta
      exact ⟨_, rfl⟩
  · exact ⟨_, rfl⟩

lemma eventCalls_events (block : CutBlock) (n : ℕ) :
    (block.events n).flatMap eventCalls = block.callFragments n := by
  have hstop : eventCalls { type := .contentBlockStop, index := some (n : ℤ) } = [] := rfl
  simp only [events, flatMap_append, flatMap_cons, flatMap_map, flatMap_nil, hstop, append_nil]
  cases block with
  | thinking pieces =>
    refine flatMap_eq_nil_iff.2 fun delta hdelta => ?_
    obtain ⟨piece, -, rfl⟩ := mem_map.1 hdelta
    cases piece <;> rfl
  | text start pieces =>
    refine flatMap_eq_nil_iff.2 fun delta hdelta => ?_
    obtain ⟨piece, -, rfl⟩ := mem_map.1 hdelta
    rfl
  | toolUse id name pieces =>
    have hpiece (piece : String) :
      eventCalls (deltaEvent n { type := .inputJsonDelta, partialJson := some piece }) =
        [{ index := some (fcIdx (some (n : ℤ))), type := some "function", function :=
          { arguments := piece } }] := rfl
    rw [deltas, flatMap_map]
    simp only [hpiece, ← map_eq_flatMap]
    rfl

lemma index_of_mem_callFragments {part : ToolCallResponse}
    (h : part ∈ block.callFragments n) : part.index = some (fcIdx (some (n : ℤ))) := by
  cases block with
  | thinking => cases h
  | text => cases h
  | toolUse id name pieces =>
    rcases mem_cons.1 h with rfl | h
    · rfl
    · obtain ⟨piece, -, rfl⟩ := mem_map.1 h
      rfl

lemma callFragments_of_call?_none (h : block.call? = none) : block.callFragments n = [] := by
  cases block with
  | thinking => rfl
  | text => rfl
  | toolUse => cases h

lemma assembleCall_callFragments {call : AssembledCall} (h : block.call? = some call) :
    block.callFragments n ≠ [] ∧ assembleCall (block.callFragments n) = call := by
  cases block with
  | thinking => cases h
  | text => cases h
  | toolUse id name pieces =>
    cases h
    rw [callFragments, assembleCall_cons]
    · simp [Function.comp_def]
    · intro part hpart
      obtain ⟨piece, -, rfl⟩ := mem_map.1 hpart
      exact ⟨rfl, rfl⟩

end CutBlock

/-- A message, with its blocks cut into pieces. -/
structure CutMessage where
  (id model : String)
  blocks : List CutBlock
  stopReason : Option String

namespace CutMessage

variable (message : CutMessage)

def events : List ClaudeResponse :=
  { type := .messageStart,
    message := some { id := message.id, model := message.model, type := .message } } ::
    message.blocks.zipIdx.flatMap (fun (block, n) => block.events n) ++
    [{ type := .messageDelta, delta := some { stopReason := message.stopReason } },
      { type := .messageStop }]

def toolUses : List (CutBlock × ℕ) := message.blocks.zipIdx.filter fun (block, _) =>
    block.call?.isSome

variable {message}

lemma converts_events {response : ClaudeResponse} (h : response ∈ message.events) :
    response.Converts := by
  simp only [events, mem_append, mem_cons, mem_flatMap, not_mem_nil, or_false] at h
  rcases h with (rfl | ⟨⟨block, n⟩, -, h⟩) | rfl | rfl
  · exact ⟨_, rfl⟩
  · exact CutBlock.converts_events h
  · exact ⟨_, rfl⟩
  · exact ⟨_, rfl⟩

lemma eventCalls_events :
    message.events.flatMap eventCalls = message.toolUses.flatMap fun (block, n) =>
      block.callFragments n := by
  have hblocks (l : List (CutBlock × ℕ)) : (l.flatMap fun (block, n) => block.events n).flatMap
    eventCalls =
      (l.filter fun (block, _) => block.call?.isSome).flatMap fun (block, n) =>
          block.callFragments n := by
    induction l with
    | nil => rfl
    | cons x l ih =>
      rw [flatMap_cons, flatMap_append, ih, CutBlock.eventCalls_events, filter_cons]
      split_ifs with hcall
      · rw [flatMap_cons]
      · rw [CutBlock.callFragments_of_call?_none (by simpa using hcall), nil_append]
  rw [events, flatMap_append, flatMap_cons, hblocks]
  exact append_nil _

/-- The numbers of two tool use blocks give two indices, unless they are the first two blocks. -/
lemma pairwise_toolUses
    (h : ¬∀ n < 2, ∃ block, message.blocks[n]? = some block ∧ block.call?.isSome) :
    message.toolUses.Pairwise fun x y => fcIdx (some (x.2 : ℤ)) < fcIdx (some (y.2 : ℤ)) := by
  have hlt : message.toolUses.Pairwise fun x y => x.2 < y.2 := by
    refine List.Pairwise.filter _ (pairwise_map.1 ?_)
    rw [zipIdx_map_snd]
    exact pairwise_lt_range'
  refine hlt.imp_of_mem fun {x y} hx hy hxy => ?_
  by_cases hfirst : x.2 = 0 ∧ y.2 = 1
  · obtain ⟨hx, hxcall⟩ := mem_filter.1 hx
    obtain ⟨hy, hycall⟩ := mem_filter.1 hy
    refine absurd (fun n hn => ?_) h
    obtain rfl | rfl : n = 0 ∨ n = 1 := by omega
    · exact ⟨x.1, hfirst.1 ▸ mk_mem_zipIdx_iff_getElem?.1 hx, hxcall⟩
    · exact ⟨y.1, hfirst.2 ▸ mk_mem_zipIdx_iff_getElem?.1 hy, hycall⟩
  · simp only [fcIdx, Option.getD_some]
    omega

/-- Each tool use block is put together again from its fragments. -/
lemma assembled_toolUses :
    (message.toolUses.map fun x => assembleCall (x.1.callFragments x.2)) =
      message.blocks.filterMap CutBlock.call? := by
  have hassemble (l : List (CutBlock × ℕ)) :
      ((l.filter fun (block, _) => block.call?.isSome).map fun x =>
        assembleCall (x.1.callFragments x.2)) =
        (l.map Prod.fst).filterMap CutBlock.call? := by
    induction l with
    | nil => rfl
    | cons x l ih =>
      rw [filter_cons, map_cons, filterMap_cons]
      split_ifs with hcall
      · obtain ⟨call, hcall⟩ := Option.isSome_iff_exists.1 hcall
        rw [map_cons, (CutBlock.assembleCall_callFragments hcall).2, ih, hcall]
      · rw [Option.not_isSome_iff_eq_none.1 hcall, ih]
  rw [toolUses, hassemble, zipIdx_map_fst]

end CutMessage

section

variable {message : CutMessage} {responses : List ClaudeResponse}
  (hresponses : responses.filter (fun response => response.type ≠ .ping) = message.events)
include hresponses

/-- The deltas of the stream of a message; nothing is sent for a ping. -/
lemma chunkDeltas_of_cut (info : ClaudeResponseInfo) :
    ∃ chunks, handleStream info responses = .ok chunks ∧
      chunkDeltas chunks = message.events.flatMap eventDeltas := by
  have hping {response : ClaudeResponse} (h : response.type = .ping) : claudeChoice response =
      .ok none := by
    rw [claudeChoice, h]
  have hconverts : ∀ response ∈ responses, response.Converts := by
    intro response hresponse
    by_cases h : response.type = .ping
    · exact ⟨none, hping h⟩
    · exact CutMessage.converts_events (hresponses ▸ mem_filter.2 ⟨hresponse, by simpa using h⟩)
  obtain ⟨chunks, hchunks, hdeltas⟩ := chunkDeltas_handleStream info hconverts
  refine ⟨chunks, hchunks, hdeltas.trans ?_⟩
  rw [← hresponses]
  clear hresponses hconverts hchunks hdeltas
  induction responses with
  | nil => rfl
  | cons response responses ih =>
    rw [filter_cons, flatMap_cons, ih]
    split_ifs with h
    · rw [flatMap_cons]
    · rw [eventDeltas, hping (by simpa using h), nil_append]

end

section

variable {message : CutMessage} {chunks : List ChatCompletionsStreamResponse}
  (hdeltas : chunkDeltas chunks = message.events.flatMap eventDeltas)
include hdeltas

/-- The fragments of tool calls are those of the tool use blocks, under the indices that the
    converter gives these. -/
lemma callParts_of_cut : callParts chunks =
      message.toolUses.flatMap fun x =>
        (x.1.callFragments x.2).map (Prod.mk (fcIdx (some (x.2 : ℤ)))) := by
  have hcalls : callParts chunks = (message.events.flatMap eventCalls).map
      fun call => (call.index.getD 0, call) := by
    rw [callParts, hdeltas, flatMap_assoc, map_flatMap]
    simp only [callPartsOf_eventDeltas]
  rw [hcalls, CutMessage.eventCalls_events, map_flatMap]
  congr 1
  funext x
  exact map_congr_left fun part hpart => by
    rw [CutBlock.index_of_mem_callFragments hpart, Option.getD_some]

end

/-- The first two blocks are both tool uses. -/
def CutMessage.StartsWithCalls (message : CutMessage) : Prop :=
  ∀ n < 2, ∃ block, message.blocks[n]? = some block ∧ block.call?.isSome

section

variable {message : CutMessage} {chunks : List ChatCompletionsStreamResponse}
  (hparts : callParts chunks =
    message.toolUses.flatMap fun x =>
      (x.1.callFragments x.2).map (Prod.mk (fcIdx (some (x.2 : ℤ)))))
include hparts

lemma joinedCalls_eq (hblocks : ¬message.StartsWithCalls) :
    joinedCalls chunks = message.toolUses.map fun x =>
      (fcIdx (some (x.2 : ℤ)), assembleCall (x.1.callFragments x.2)) := by
  rw [joinedCalls, hparts, group_flatMap ((CutMessage.pairwise_toolUses hblocks).imp fun h => h.ne),
    map_map]
  · rfl
  · intro x hx
    obtain ⟨call, hcall⟩ := Option.isSome_iff_exists.1 (mem_filter.1 hx).2
    exact (CutBlock.assembleCall_callFragments hcall).1

/-- Two tool uses at the start share an index, so that there is a call less than tool uses. -/
lemma not_startsWithCalls (h : (joinedCalls chunks).length = message.toolUses.length) :
    ¬message.StartsWithCalls := by
  intro hstarts
  have hnodup : (message.toolUses.map fun x => fcIdx (some (x.2 : ℤ))).Nodup := by
    rw [joinedCalls, length_map, hparts] at h
    exact nodup_of_length_group h
  obtain ⟨first, hfirst, hcall⟩ := hstarts 0 (by decide)
  obtain ⟨second, hsecond, hcall'⟩ := hstarts 1 (by decide)
  obtain ⟨blocks, hmessage⟩ : ∃ blocks, message.blocks = first :: second :: blocks := by
    match message.blocks, hfirst, hsecond with
    | _ :: _ :: blocks, rfl, rfl => exact ⟨blocks, rfl⟩
  simp [CutMessage.toolUses, hmessage, zipIdx_cons, hcall, hcall', fcIdx] at hnodup

end

/-- **Joined tool calls.** However a message is cut, its stream is converted, and joining the chunks
    by index gives one call for each tool use block, in order and with the id, the name and the
    arguments of the block; exactly if the message does not start with two tool uses. -/
theorem joinedCalls_iff (message : CutMessage) (responses : List ClaudeResponse)
    (info : ClaudeResponseInfo)
    (hresponses : responses.filter (fun response => response.type ≠ .ping) = message.events) :
    ∃ chunks, handleStream info responses = .ok chunks ∧
      ((joinedCalls chunks).map Prod.snd = message.blocks.filterMap CutBlock.call? ↔
        ¬message.StartsWithCalls) ∧
      (¬message.StartsWithCalls → ((joinedCalls chunks).map Prod.fst).Pairwise (· < ·)) := by
  obtain ⟨chunks, hchunks, hdeltas⟩ := chunkDeltas_of_cut hresponses info
  have hparts := callParts_of_cut hdeltas
  refine ⟨chunks, hchunks, ⟨fun h => not_startsWithCalls hparts ?_, fun hblocks => ?_⟩,
    fun hblocks => ?_⟩
  · rw [← CutMessage.assembled_toolUses] at h
    simpa using congrArg length h
  · rw [joinedCalls_eq hparts hblocks, ← CutMessage.assembled_toolUses, map_map]
    rfl
  · rw [joinedCalls_eq hparts hblocks, map_map]
    exact pairwise_map.2 (CutMessage.pairwise_toolUses hblocks)

def TwoCalls.message (blocks : List CutBlock) : CutMessage where
  id := "msg_1"
  model := "claude-sonnet-4"
  blocks := blocks ++ [.toolUse "toolu_1" "read" ["[1", "]"], .toolUse "toolu_2" "write" ["[2]"]]
  stopReason := some "tool_use"

/-- Two calls after a text have indices of their own. -/
theorem joinedCalls_after_text :
    ∃ chunks, handleStream {} (TwoCalls.message [.text none ["Both."]]).events = .ok chunks ∧
      (joinedCalls chunks).map Prod.snd =
        [⟨"toolu_1", "read", "[1]"⟩, ⟨"toolu_2", "write", "[2]"⟩] := by
  obtain ⟨chunks, hchunks, hcalls, -⟩ := joinedCalls_iff (TwoCalls.message [.text none ["Both."]])
    (TwoCalls.message [.text none ["Both."]]).events {} (by decide)
  refine ⟨chunks, hchunks, (hcalls.2 fun h => ?_).trans (by decide)⟩
  obtain ⟨block, hblock, hcall⟩ := h 0 (by decide)
  obtain rfl : CutBlock.text none ["Both."] = block := by simpa [TwoCalls.message] using hblock
  cases hcall

/-- Two calls at the start share an index, and are read as one. -/
theorem joinedCalls_first_two_blocks : ∃ chunks, handleStream {} (TwoCalls.message []).events =
    .ok chunks ∧
      joinedCalls chunks = [(0, ⟨"toolu_1toolu_2", "readwrite", "[1][2]"⟩)] :=
  ⟨_, rfl, by decide⟩

/-! ## Whole messages -/

/-- What was read of the blocks so far. -/
structure ReadBlocks where
  responseText : String
  thinkingContent : String := ""
  tools : List ToolCallResponse := []

namespace ClaudeMediaMessage

variable (block : ClaudeMediaMessage)

def toolCall : ToolCallResponse :=
  { id := block.id, type := some "function", function := ⟨block.name, block.input⟩ }

/-- A text or a thinking replaces the one before. -/
def read (r : ReadBlocks) : ReadBlocks :=
  match block.type with
  | .toolUse => { r with tools := r.tools ++ [block.toolCall] }
  | .thinking => { r with thinkingContent := block.thinking.getD r.thinkingContent }
  | .text => { r with responseText := block.getText }
  | _ => r

end ClaudeMediaMessage

section

variable (blocks : List ClaudeMediaMessage)

/-- The parts are in the text, one after the other. -/
def Contains : List String → List Char → Prop
  | [], _ => True
  | part :: parts, text => ∃ before after, text = before ++ part.toList ++ after ∧
    Contains parts after

lemma Contains.length_le {parts : List String} {text : List Char} (h : Contains parts text) :
    (parts.map fun part => part.toList.length).sum ≤ text.length := by
  induction parts generalizing text with
  | nil => simp
  | cons part parts ih =>
    obtain ⟨before, after, rfl, hafter⟩ := h
    have := ih hafter
    simp only [map_cons, sum_cons, length_append]
    omega

end

namespace OneBlockEach

/-- A message with a thinking, an empty text before the text, and two tool uses. -/
def message : CutMessage where
  id := "msg_1"
  model := "claude-sonnet-4"
  blocks := [.thinking [some "Read", some " it.", none], .text (some "") [],
    .text none ["Do", "ne."], .toolUse "toolu_1" "read" ["[1", "]"],
      .toolUse "toolu_2" "write" ["[2]"]]
  stopReason := some "tool_use"

end OneBlockEach

end Allrouter
