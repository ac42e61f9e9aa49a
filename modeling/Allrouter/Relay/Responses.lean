import Mathlib.Tactic

/-!
# Responses

The items of a response, with the fields that the conversions set. Arguments of calls are the
JSON that is sent.
-/

namespace Allrouter

/-- A text with its type: a part of the content of a message or of the summary of a reasoning. -/
structure ResponsesPart where
  type : String
  text : String := ""
  deriving DecidableEq

/-- An item of the output. -/
structure ResponsesOutput where
  type : String
  id : String := ""
  status : String
  role : String := ""
  content : List ResponsesPart := []
  (callId name : String := "")
  arguments : Option String := none
  summary : List ResponsesPart := []
  (namespaceName execution input reasoningContent : String := "")
  deriving DecidableEq

end Allrouter
