import Allrouter.Library.Grouping
import Allrouter.Billing.TextQuota

/-!
# Chat completion chunks

The chunks of a chat completion stream, and what a client that reads them puts together: the
texts of all deltas one after the other, and one tool call for each index, out of the fragments
with that index.
-/

namespace Allrouter

open Grouping String List

/-- A piece of a call: the name, or more of the arguments. -/
structure FunctionResponse where
  (name arguments : String := "")
  deriving DecidableEq

/-- A piece of the call with this index. -/
structure ToolCallResponse where
  index : Option ℤ := none
  id : String := ""
  type : Option String := none
  function : FunctionResponse := {}
  deriving DecidableEq

/-- What a chunk adds to the answer. -/
structure ChoiceDelta where
  (content reasoningContent reasoning : Option String := none)
  role : String := ""
  toolCalls : List ToolCallResponse := []
  deriving DecidableEq

/-- What a chunk adds, and why the answer ends. -/
structure StreamChoice where
  delta : ChoiceDelta := {}
  finishReason : Option String := none
  index : ℤ := 0
  deriving DecidableEq

/-- A chunk of a stream. -/
structure ChatCompletionsStreamResponse where
  id : String := ""
  created : ℤ := 0
  model : String := ""
  choices : List StreamChoice := []
  usage : Option Usage := none

namespace ChoiceDelta

variable (delta : ChoiceDelta)

end ChoiceDelta

/-! ## What a client puts together -/

/-- A call put together from its pieces. -/
structure AssembledCall where
  (id name arguments : String)
  deriving DecidableEq

/-- The texts of the fragments, one after the other. -/
def assembleCall (parts : List ToolCallResponse) : AssembledCall where
  id := join (parts.map (·.id))
  name := join (parts.map (·.function.name))
  arguments := join (parts.map (·.function.arguments))

lemma join_eq_empty {texts : List String} (h : ∀ text ∈ texts, text = "") : join texts = "" := by
  induction texts with
  | nil => rfl
  | cons text texts ih =>
    rw [join_cons, h text mem_cons_self, ih fun t ht => h t (mem_cons_of_mem _ ht)]
    rfl

/-- Where only the first fragment has an id and a name, the call has these. -/
lemma assembleCall_cons {first : ToolCallResponse} {rest : List ToolCallResponse}
    (h : ∀ part ∈ rest, part.id = "" ∧ part.function.name = "") : assembleCall (first :: rest) =
      ⟨first.id, first.function.name, join ((first :: rest).map (·.function.arguments))⟩ := by
  have hid : join (rest.map (·.id)) = "" :=
    join_eq_empty (by simpa using fun part hpart => (h part hpart).1)
  have hname : join (rest.map (·.function.name)) = "" :=
    join_eq_empty (by simpa using fun part hpart => (h part hpart).2)
  rw [assembleCall, map_cons, map_cons, join_cons, join_cons, hid, hname, append_empty,
    append_empty]

variable (chunks : List ChatCompletionsStreamResponse)

def chunkDeltas : List ChoiceDelta :=
  chunks.flatMap fun chunk => chunk.choices.map (·.delta)

/-- The fragments of tool calls in a delta, each with its index; one without an index belongs to
    the first call. -/
def callPartsOf (delta : ChoiceDelta) : List (ℤ × ToolCallResponse) :=
  delta.toolCalls.map fun call => (call.index.getD 0, call)

def callParts : List (ℤ × ToolCallResponse) :=
  (chunkDeltas chunks).flatMap callPartsOf

/-- The calls by index, put together. -/
def joinedCalls : List (ℤ × AssembledCall) :=
  (group (callParts chunks)).map fun group => (group.1, assembleCall group.2)

variable (chunks' : List ChatCompletionsStreamResponse)

@[simp]
lemma chunkDeltas_append :
    chunkDeltas (chunks ++ chunks') = chunkDeltas chunks ++ chunkDeltas chunks' :=
  flatMap_append

end Allrouter
