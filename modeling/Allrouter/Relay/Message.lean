import Mathlib.Tactic

/-!
# Chat completion requests

The messages of a chat completion request, and the fields of the request that the conversions
from other protocols set. Values that are passed on as JSON are texts.
-/

namespace Allrouter

/-- The kinds of items. -/
inductive MediaContentType
  | text
  | imageUrl
  deriving DecidableEq

/-- An image, by its URL. -/
structure MessageImageUrl where
  url : String
  (detail mimeType : String := "")
  deriving DecidableEq

/-- An item of a message. -/
structure MediaContent where
  type : MediaContentType
  text : String := ""
  imageUrl : Option MessageImageUrl := none
  cacheControl : Option String := none
  deriving DecidableEq

/-- The content of a message, a text or items. -/
inductive MessageContent
  | absent
  | text (s : String)
  | media (contents : List MediaContent)
  deriving DecidableEq

/-- A function: its declaration, or a call of it. -/
structure FunctionRequest where
  name : String
  (description parameters arguments : String := "")
  deriving DecidableEq

/-- A call of a tool, or a tool. -/
structure ToolCallRequest where
  id : String := ""
  type : String := "function"
  function : FunctionRequest
  deriving DecidableEq

/-- A message of the conversation. -/
structure Message where
  role : String
  content : MessageContent := .absent
  (name reasoningContent : Option String := none)
  toolCalls : List ToolCallRequest := []
  toolCallId : String := ""
  deriving DecidableEq

def Message.parseContent (message : Message) : List MediaContent :=
  match message.content with
  | .absent => []
  | .text s => [{ type := .text, text := s }]
  | .media contents => contents

/-- The value of `stop`. -/
inductive StopValue
  | one (s : String)
  | many (l : List String)
  deriving DecidableEq

/-- The value of `tool_choice`. -/
inductive ToolChoice
  | auto
  | required
  | none
  | function (name : String)
  deriving DecidableEq

/-- What OpenRouter is told of the thinking. -/
structure RequestReasoning where
  enabled : Bool := false
  maxTokens : ℤ := 0
  deriving DecidableEq

/-- A request in the format of OpenAI. -/
structure GeneralOpenAIRequest where
  model : String
  messages : List Message := []
  stream : Option Bool := none
  (temperature topP : Option ℚ := none)
  topK : Option ℤ := none
  maxTokens : Option ℕ := none
  n : Option ℤ := none
  stop : Option StopValue := none
  tools : List ToolCallRequest := []
  toolChoice : Option ToolChoice := none
  parallelToolCalls : Option Bool := none
  verbosity : Option String := none
  reasoning : Option RequestReasoning := none

/-- What a conversion reads of the relay. -/
structure ConversionInfo where
  (originModelName upstreamModelName : String := "")
  isStream : Bool := false
  /-- The channel is one of OpenRouter. -/
  isOpenRouter : Bool := false

end Allrouter
