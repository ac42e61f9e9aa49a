import Allrouter.Library.Text
import Allrouter.Relay.Message

/-!
# The input of a Responses request

The items of the input become the messages of a chat request, one after the other. Reasoning waits
for the assistant message that it belongs to, and media of tool outputs for a user message of their
own (`InputState`).
-/

namespace Allrouter

open Text

/-- An item of the input, by what it decodes to. -/
inductive ResponsesItem
  /-- An item that gives nothing. -/
  | skipped
  /-- A message, or a part of one, with its role in the chat request. -/
  | message (role : String) (content : MessageContent)
  /-- A call of a tool and its reasoning; there is no call if the item does not decode to one. -/
  | toolCall (reasoning : String) (call : Option ToolCallRequest)
  /-- The message for an output, and the media that were taken out of it. -/
  | toolOutput (message : Message) (media : List MediaContent)
  | reasoning (text : String)
  | compaction (text : String)
  deriving DecidableEq

/-- The messages so far, and what waits for a later one. -/
structure InputState where
  messages : List Message := []
  pendingReasoning : String := ""
  pendingMedia : List MediaContent := []
  callNames : String → String := fun _ => ""

def Message.addReasoning (message : Message) (text : String) : Message :=
  { message with
    reasoningContent := some (match message.reasoningContent with
      | some before => if trimSpace before = "" then text else before ++ "\n\n" ++ text
      | none => text) }

/-- The last message that is not an output has more reasoning, if it is of the assistant; from the
    end. -/
def attachReasoning (text : String) : List Message → List Message
  | [] => []
  | message :: messages =>
    if message.role = "tool" then message :: attachReasoning text messages
    else if message.role = "assistant" then message.addReasoning text :: messages
    else message :: messages

/-- The last message that is not an output has a call with the id; from the end. -/
def hasPrecedingResponsesToolCall (callID : String) : List Message → Bool
  | [] => false
  | message :: messages =>
    if message.role = "tool" then hasPrecedingResponsesToolCall callID messages
    else message.role = "assistant" && message.toolCalls.any fun call => call.id = callID

/-- The messages with one more call, in the last message if that is of the assistant. -/
def appendResponsesToolCallMessage (messages : List Message) (call : ToolCallRequest) :
    List Message :=
  match messages.getLast? with
  | some last =>
    if last.role = "assistant" then messages.dropLast ++
      [{ last with toolCalls := last.toolCalls ++ [call] }]
    else messages ++ [{ role := "assistant", content := .text "", toolCalls := [call] }]
  | none => [{ role := "assistant", content := .text "", toolCalls := [call] }]

namespace InputState

variable (s : InputState)

def consumePendingReasoning : InputState :=
  let text := trimSpace s.pendingReasoning
  match s.messages.getLast? with
  | some last =>
    if text ≠ "" ∧ last.role = "assistant" then
      { s with messages := s.messages.dropLast ++ [last.addReasoning text], pendingReasoning := "" }
    else s
  | none => s

/-- What is left of the reasoning when a turn ends goes to the message before. -/
def attachPendingReasoningToPreviousAssistant : InputState :=
  let text := trimSpace s.pendingReasoning
  if text = "" then s
  else { s with messages := (attachReasoning text s.messages.reverse).reverse, pendingReasoning :=
    "" }

def appendReasoning (text : String) : InputState :=
  { s with pendingReasoning := if s.pendingReasoning = "" then text
    else s.pendingReasoning ++ "\n\n" ++ text }

def appendUniquePendingReasoning (reasoning : String) : InputState :=
  let text := trimSpace reasoning
  if text = "" then s
  else if text.toList <:+: s.pendingReasoning.toList then s
  else s.appendReasoning text

def flushPendingToolMedia : InputState :=
  if s.pendingMedia = [] then s
  else { s with messages := s.messages ++
    [{ role := "user", content := .media s.pendingMedia }], pendingMedia := [] }

def queuePendingToolMedia (callID : String) (media : List MediaContent) : InputState :=
  if media = [] then s
  else { s with pendingMedia := s.pendingMedia ++
    { type := .text, text := "[media output of tool call " ++ callID ++ "]" } :: media }

def append (message : Message) : InputState := { s with messages := s.messages ++ [message] }

def recordResponsesToolCallName (call : ToolCallRequest) : InputState :=
  let id := trimSpace call.id
  let name := trimSpace call.function.name
  if id ≠ "" ∧ name ≠ "" then { s with callNames := Function.update s.callNames id name } else s

/-- An output of a call that is not just before is given the name of the tool, if it is known. -/
def setResponsesToolMessageName (message : Message) : Message :=
  let name := trimSpace (s.callNames message.toolCallId)
  if message.name.isSome then message
  else if trimSpace message.toolCallId ≠ "" ∧
    hasPrecedingResponsesToolCall message.toolCallId s.messages.reverse then
    message
  else if name = "" then message
  else { message with name := some name }

/-- The next item of the input. -/
def convertItem : ResponsesItem → InputState
  | .skipped => s
  | .message role content =>
    if role = "assistant" then
      (s.append { role := role, content := content }).consumePendingReasoning
    else (s.attachPendingReasoningToPreviousAssistant.flushPendingToolMedia).append
      { role := role, content := content }
  | .toolCall reasoning call =>
    let s := (s.appendUniquePendingReasoning reasoning).flushPendingToolMedia
    match call with
    | none => s
    | some call =>
      let s := s.recordResponsesToolCallName call
      { s with messages := appendResponsesToolCallMessage s.messages call }.consumePendingReasoning
  | .toolOutput message media =>
    let s := s.queuePendingToolMedia message.toolCallId media
    s.append (s.setResponsesToolMessageName message)
  | .reasoning text => if text = "" then s else s.appendReasoning text
  | .compaction text =>
    { s with pendingReasoning := "" }.append { role := "user", content := .text text }

end InputState

def backfillToolCallReasoningPlaceholders (messages : List Message) : List Message :=
  messages.map fun message =>
    if message.role = "assistant" ∧ message.toolCalls ≠ [] ∧
        trimSpace (message.reasoningContent.getD "") = "" then
      { message with reasoningContent := some "tool call" }
    else message

/-- The messages for the items, after those that are there. -/
def convertResponsesItems (messages : List Message) (items : List ResponsesItem) : List Message :=
  let s := items.foldl InputState.convertItem { messages := messages }
  let s := s.attachPendingReasoningToPreviousAssistant.flushPendingToolMedia
  backfillToolCallReasoningPlaceholders s.messages

end Allrouter
