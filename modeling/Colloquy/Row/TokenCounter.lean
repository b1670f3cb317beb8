import Colloquy.Conversation.Document
import Colloquy.Datum.Order
import Colloquy.Error.Conversion

/-!
# Token counts

An advisory count of the tokens of a row. What is counted are compact JSON texts, one for each
message and one for each tool.
-/

set_option autoImplicit false

namespace Colloquy

/-- How tokens are counted. Counting may take long enough for other rows to run. -/
structure TokenCounter where
  suspends : Bool
  count : List Message → List ToolSpec → Datum → Except Error TokenCount

def TokenCount.ofParts (messages tools : Int) : TokenCount := ⟨messages, tools, messages + tools⟩

def compactText (document : Except Datum.NoDocument Fields) : Except Error String := do
  let fields ← document.mapError Error.ofNoDocument
  jsonText .compact fields.toDatum

def Message.tokenText (message : Message) : Except Error String :=
  compactText ((message.documentAs .repeated).map fun fields => fields.remove "generation_id")

def ToolSpec.tokenText (spec : ToolSpec) : Except Error String :=
  compactText (spec.documentAs .repeated)

def measureAll (measure : String → Nat) (texts : List String) : Nat :=
  texts.foldl (fun total text => total + measure text) 0

/-- The texts in which the tokens of messages and of tools are counted. -/
def tokenTexts (messages : List Message) (tools : List ToolSpec) :
    Except Error (List String × List String) := do
  let messageTexts ← messages.mapM Message.tokenText
  return (messageTexts, ← tools.mapM ToolSpec.tokenText)

def TokenCounter.ofMeasure (measure : String → Nat) : TokenCounter :=
  ⟨true, fun messages tools _ => do
    let (messageTexts, toolTexts) ← tokenTexts messages tools
    return .ofParts (measureAll measure messageTexts) (measureAll measure toolTexts)⟩

def TokenCounter.ofParts : TokenCounter :=
  ⟨false, fun messages tools _ => .ok (.ofParts messages.length tools.length)⟩

/-- The name of the model whose tokens are counted where none is given. -/
def defaultTokenModel : String := "gpt-4o"

def tokenWarning (model : Datum) (error : Error) : String :=
  "Token counting failed | Model: " ++ model.spoken ++ " | Error: " ++ error.message

def checkWorkers (workers : Datum) : Except Error Unit := do
  if ← workers.ordered .below (.int 1) then .error .noWorkers else .ok ()

def defaultWorkers : Datum := .int 3

def measuredTexts (messages : List Message) (tools : List ToolSpec) : List String :=
  ((messages.map Message.tokenText ++ tools.map ToolSpec.tokenText).takeWhile
    Except.isOk).filterMap Except.toOption

end Colloquy
