import Mathlib.Tactic

/-!
# Gemini contents

The parts of Gemini contents, with the fields that the conversions read or write. Arguments and
responses of functions are given by their JSON.
-/

namespace Allrouter

/-- A file that is sent along. -/
structure GeminiInlineData where
  (mimeType data : String)
  deriving DecidableEq

/-- A file that is referred to. -/
structure GeminiFileData where
  (mimeType fileUri : String := "")
  deriving DecidableEq

/-- A call of a function. -/
structure GeminiFunctionCall where
  (functionName arguments : String)
  deriving DecidableEq

/-- What a function has returned. -/
structure GeminiFunctionResponse where
  response : String
  deriving DecidableEq

/-- Code that the model has run. -/
structure GeminiPartExecutableCode where
  (language code : String := "")
  deriving DecidableEq

/-- What the code has printed. -/
structure GeminiPartCodeExecutionResult where
  output : String := ""
  deriving DecidableEq

/-- A part of a content. -/
structure GeminiPart where
  text : String := ""
  thought : Bool := false
  inlineData : Option GeminiInlineData := none
  functionCall : Option GeminiFunctionCall := none
  functionResponse : Option GeminiFunctionResponse := none
  fileData : Option GeminiFileData := none
  thoughtSignature : Option String := none
  executableCode : Option GeminiPartExecutableCode := none
  codeExecutionResult : Option GeminiPartCodeExecutionResult := none
  deriving DecidableEq

/-- A turn of the conversation. -/
structure GeminiChatContent where
  role : String := ""
  parts : List GeminiPart := []
  deriving DecidableEq

end Allrouter
