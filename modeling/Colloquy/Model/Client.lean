import Colloquy.Model.Hoisting
import Colloquy.Resolution.Shared

/-!
# Model clients

A client answers model calls. It has a state of its own, such as a record of the calls, and may
write to the shared log.
-/

set_option autoImplicit false

namespace Colloquy

structure Client (μ : Type) where
  name : Datum
  answer : ModelCall → Process (Shared × μ) Empty Empty (Except Error Reply)

namespace Client

variable {μ α : Type}

/-- The client with the system messages of every call ahead of the others. -/
def hoisted (client : Client μ) : Client μ :=
  ⟨client.name, fun call =>
    match Model.hoist call.messages with
    | .ok messages => client.answer ⟨call.form, messages⟩
    | .error error => .done (.error error)⟩

/-- A computation on what rows share, its calls being answered by the client. -/
def serve (client : Client μ) (process : RowProcess α) : Process (Shared × μ) Empty Empty α :=
  (process.zoom Prod.fst fun shared both => (shared, both.2)).handle client.answer

/-- The absence of a client, which is noticed when a schema asks for the model. -/
def absent : Client μ :=
  ⟨.null, fun _ => .done (.error (.configuration .noClient))⟩

def operationName : ReplyForm → String
  | .text => "generate_text"
  | .object _ => "generate_object"

/-- What rows get in place of a client that is absent: nothing, which lacks every operation. It is
noticed only when the model is called. -/
def hollow : Client μ :=
  ⟨.null, fun call => .done (.error (.unsupported .attribute
    ("'" ++ Datum.null.typeName ++ "' object has no attribute '" ++
      operationName call.form ++ "'")))⟩

end Client

end Colloquy
