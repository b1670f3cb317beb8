import Colloquy.Conversation.Document
import Colloquy.Dataset.RunConfig
import Colloquy.Error.Conversion

/-!
# Formatted rows

A row in the form in which it is written: as it was generated, or as tools and messages for chat
templates. In the second form the calls of a message stand behind the parts of its content. A message
whose content already is a list of parts takes its calls into that list for good, so a row that is
formatted twice has them twice.
-/

set_option autoImplicit false

namespace Colloquy

def ExportFormat.columns : ExportFormat → List String
  | messages => ["messages", "tools", "plan", "meta"]
  | chatTemplate => ["tools", "messages"]

def ToolSpec.chatPart (spec : ToolSpec) : Datum :=
  Fields.toDatum [("type", .text "function"), ("function", Fields.toDatum [
    ("name", .text spec.name), ("description", .text spec.description),
    ("parameters", spec.parameters.toDatum)])]

def CallPart.chatPart (part : CallPart) : Datum :=
  Fields.toDatum [("type", .text "tool_call"), ("tool_call_id", .text part.id),
    ("tool_name", .text part.name), ("input", part.arguments.toDatum)]

def textPart (text : String) : Datum :=
  Fields.toDatum [("type", .text "text"), ("text", .text text)]

/-- Content as a list of parts; content that is neither text nor a list is written as JSON. -/
def contentParts (content : Datum) : Except Error (List Datum) :=
  match content with
  | .null => .ok []
  | .list parts => .ok parts
  | .text text => .ok [textPart text]
  | other => do return [textPart (← jsonText .line other)]

namespace Message

def callParts (message : Message) : List Datum :=
  (message.toolCalls.getD []).map CallPart.chatPart

/-- The parts of the content of a message, with its calls or with the result that it is. -/
def chatParts (message : Message) : Except Error (List Datum) :=
  if message.role = .tool then
    .ok [Fields.toDatum [("type", .text "tool_result"),
      ("tool_call_id", .ofText? message.toolCallId), ("tool_name", .ofText? message.name),
      ("output", message.content)]]
  else do return (← contentParts message.content) ++ message.callParts

def chatForm (message : Message) : Except Error Datum := do
  return Fields.toDatum [("role", .text message.role.name), ("content", .list (← message.chatParts))]

def absorbed (message : Message) : Message :=
  match message.role, message.content with
  | .tool, _ => message
  | _, .list parts => { message with content := .list (parts ++ message.callParts) }
  | _, _ => message

end Message

/-- Messages as chat templates have them, and the messages afterwards. -/
def chatMessages : List Message → Except Error (List Datum) × List Message
  | [] => (.ok [], [])
  | message :: messages =>
      match message.chatForm with
      | .error error => (.error error, message :: messages)
      | .ok first =>
          let (rest, after) := chatMessages messages
          (rest.map (first :: ·), message.absorbed :: after)

def ExportFormat.form (format : ExportFormat) (row : Row) : Except Error Fields × Row :=
  match format with
  | messages => (row.document.mapError Error.ofNoDocument, row)
  | chatTemplate =>
      let (parts, after) := chatMessages row.messages
      (parts.map fun parts =>
        [("tools", .list (row.tools.map ToolSpec.chatPart)), ("messages", .list parts)],
        { row with messages := after })

theorem Message.absorbed_of_no_calls {message : Message}
    (noCalls : message.toolCalls.getD [] = []) : message.absorbed = message := by
  obtain ⟨role, content, calls, callId, name, generationId⟩ := message
  unfold Message.absorbed Message.callParts
  split <;> simp_all

end Colloquy
