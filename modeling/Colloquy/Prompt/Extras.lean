import Colloquy.Error.Conversion
import Colloquy.Schema.Context

/-!
# Extra prompt messages

Messages that a caller adds to every model call, or to the calls for one kind of entry. They are
given as a list, or by code that runs against the context.
-/

set_option autoImplicit false

namespace Colloquy

inductive PromptSource where
  | fixed (messages : Datum)
  | computed (messages : Decision Datum)

/-- The extra messages of a run, by the kind of entry they are for. -/
structure PromptExtras where
  common : Option PromptSource
  system : Option PromptSource
  user : Option PromptSource
  assistant : Option PromptSource
  toolCall : Option PromptSource
  toolResult : Option PromptSource

namespace PromptExtras

def sourceFor (extras : PromptExtras) (target : Datum) : Except Error (Option PromptSource) :=
  match target with
  | .text "system" => .ok extras.system
  | .text "user" => .ok extras.user
  | .text "assistant" => .ok extras.assistant
  | .text "tool_call" => .ok extras.toolCall
  | .text "tool_result" => .ok extras.toolResult
  | .text "global_" => .ok extras.common
  | .text _ => .ok .none
  | other =>
      .error (.unsupported .type ("attribute name must be string, not '" ++ other.typePath ++ "'"))

end PromptExtras

/-- The messages that a source has given, each of which has to be a mapping. -/
def promptMessages (given : Datum) : Except Error (List Datum) :=
  if given.isTruthy then do
    (← given.elements).mapM fun message => do return .mapping (← message.asEntries)
  else .ok []

def PromptSource.messages : Option PromptSource → Decision (List Datum)
  | none => .done []
  | some (.fixed messages) => .ofExcept (promptMessages messages)
  | some (.computed messages) => messages.bind fun given => .ofExcept (promptMessages given)

/-- The extra messages for a kind of entry: those for every call come first. -/
def PromptExtras.messagesFor (extras : PromptExtras) (target : Datum) :
    Decision (List Datum) := do
  let source ← Decision.ofExcept (extras.sourceFor target)
  let common ← PromptSource.messages extras.common
  return common ++ (← PromptSource.messages source)

/-- The extra messages for a kind of entry, if there are any at all. -/
def extraMessages (extras : Option PromptExtras) (target : Datum) : Decision (List Datum) :=
  match extras with
  | some extras => extras.messagesFor target
  | none => .done []

end Colloquy
