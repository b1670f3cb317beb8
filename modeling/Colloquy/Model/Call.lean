import Colloquy.Conversation.Basic
import Colloquy.Error.Basic

/-!
# Model calls

What is asked of the language model, and what it answers.
-/

set_option autoImplicit false

namespace Colloquy

inductive ReplyForm where
  | text
  | object (shape : Shape)

def ReplyForm.name : ReplyForm → String
  | text => "text"
  | object shape => "object:" ++ shape.name

/-- A request to the model: what to write, and the messages it is shown. -/
structure ModelCall where
  form : ReplyForm
  messages : List Datum

/-- What the model has written, and the id that its provider gave the answer, or null. -/
structure Reply where
  value : Datum
  responseId : Datum

def promptMessage (role content : String) : Datum :=
  .mapping [(.text "role", .text role), (.text "content", .text content)]

end Colloquy
