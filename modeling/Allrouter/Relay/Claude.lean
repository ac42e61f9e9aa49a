import Allrouter.Billing.TextQuota

/-!
# Claude messages

The content blocks and the stream events of the Claude protocol, with the fields that the
conversions read or write.
-/

namespace Allrouter

/-- The types of content blocks, and of the deltas in a stream. -/
inductive ClaudeBlockType
  | text
  | inputText
  | image
  | thinking
  | toolUse
  | toolResult
  | textDelta
  | thinkingDelta
  | signatureDelta
  | inputJsonDelta
  | message
  | other (type : String)
  deriving DecidableEq

/-- The source of an image. -/
structure ClaudeMessageSource where
  mediaType : String := ""
  /-- The data as it is printed. -/
  data : String := ""
  deriving DecidableEq

/-- The content of the result of a tool. -/
inductive ClaudeResultContent
  | text (s : String)
  /-- The blocks in it, encoded again. -/
  | encoded (json : String)
  deriving DecidableEq

/-- The tokens of a message. -/
structure ClaudeUsage where
  (inputTokens outputTokens : ℤ)
  (cacheCreationInputTokens cacheReadInputTokens : ℤ := 0)
  /-- The tokens written to the cache for five minutes and for one hour. -/
  cacheCreation : Option (ℤ × ℤ) := none
  deriving DecidableEq

/-- A block, a change of one, or a message. -/
structure ClaudeMediaMessage where
  type : ClaudeBlockType := .other ""
  (text thinking partialJson stopReason : Option String := none)
  source : Option ClaudeMessageSource := none
  (id name model role : String := "")
  /-- The input of a tool use, encoded. -/
  input : String := ""
  content : ClaudeResultContent := .encoded "null"
  toolUseId : String := ""
  cacheControl : Option String := none
  usage : Option ClaudeUsage := none
  deriving DecidableEq

def ClaudeMediaMessage.getText (block : ClaudeMediaMessage) : String := block.text.getD ""

/-- The events of a stream. -/
inductive ClaudeEventType
  | messageStart
  | contentBlockStart
  | contentBlockDelta
  | contentBlockStop
  | messageDelta
  | messageStop
  | ping
  | other (type : String)
  deriving DecidableEq

/-- An event of a stream. -/
structure ClaudeResponse where
  type : ClaudeEventType
  model : String := ""
  index : Option ℤ := none
  (contentBlock delta message : Option ClaudeMediaMessage := none)
  usage : Option ClaudeUsage := none
  deriving DecidableEq

end Allrouter
