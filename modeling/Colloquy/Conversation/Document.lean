import Colloquy.Conversation.Basic
import Colloquy.Datum.Document

/-!
# Documents of conversations

Rows and their parts as documents: every field present, in the order of its declaration.
-/

set_option autoImplicit false

namespace Colloquy

def documentOf (form : Datum.DocumentForm) (fields : Fields) : Except Datum.NoDocument Datum :=
  fields.toDatum.documentAs form .other

def CallPart.documentAs (form : Datum.DocumentForm) (part : CallPart) :
    Except Datum.NoDocument Fields := do
  return [("id", .text part.id), ("name", .text part.name),
    ("arguments", ← documentOf form part.arguments)]

def CallPart.document (part : CallPart) : Except Datum.NoDocument Fields := part.documentAs .full

def Message.documentAs (form : Datum.DocumentForm) (message : Message) :
    Except Datum.NoDocument Fields := do
  let content ← message.content.documentAs form .other
  let calls ← message.toolCalls.mapM fun calls => calls.mapM fun call => do
    return Fields.toDatum (← call.documentAs form)
  return [("role", .text message.role.name), ("content", content),
    ("tool_calls", (calls.map Datum.list).getD .null),
    ("tool_call_id", .ofText? message.toolCallId), ("name", .ofText? message.name),
    ("generation_id", .text message.generationId)]

def Message.document (message : Message) : Except Datum.NoDocument Fields :=
  message.documentAs .full

def ToolSpec.documentAs (form : Datum.DocumentForm) (spec : ToolSpec) :
    Except Datum.NoDocument Fields := do
  let parameters ← documentOf form spec.parameters
  let output ← documentOf form spec.output
  return [("name", .text spec.name), ("description", .text spec.description),
    ("parameters", parameters), ("output", output)]

def ToolSpec.document (spec : ToolSpec) : Except Datum.NoDocument Fields := spec.documentAs .full

def PlanEntry.documentAs (form : Datum.DocumentForm) (entry : PlanEntry) :
    Except Datum.NoDocument Fields := do
  let content ← entry.content.documentAs form .other
  let arguments ← entry.arguments.documentAs form .other
  return [("kind", .text entry.kind.name), ("role", .text entry.role.name), ("content", content),
    ("tool_name", .ofText? entry.toolName), ("tool_call_id", .ofText? entry.toolCallId),
    ("arguments", arguments), ("draw_count", .int entry.drawCount)]

def PlanEntry.document (entry : PlanEntry) : Except Datum.NoDocument Fields :=
  entry.documentAs .full

def documentList {α : Type} (document : α → Except Datum.NoDocument Fields) (parts : List α) :
    Except Datum.NoDocument Datum := do
  return .list (← parts.mapM fun part => do return Fields.toDatum (← document part))

def Plan.document (plan : Plan) : Except Datum.NoDocument Fields := do
  let entries ← documentList PlanEntry.document plan.entries
  let tools ← documentList ToolSpec.document plan.tools
  let metadata ← (Datum.mapping plan.metadata).document
  return [("entries", entries), ("tools", tools), ("metadata", metadata)]

def TokenCount.document (count : TokenCount) : Fields :=
  [("message_tokens", .int count.messageTokens), ("tool_tokens", .int count.toolTokens),
    ("total", .int count.total)]

def RowMeta.document (origin : RowMeta) : Except Datum.NoDocument Fields := do
  let metadata ← documentOf .full origin.metadata
  let tokens := (origin.tokenCount.map fun count => Fields.toDatum count.document).getD .null
  return [("seed", .ofInt? origin.seed), ("model", .text origin.model),
    ("output", .ofText? origin.output), ("start_timestamp", .text origin.startTimestamp),
    ("token_count", tokens), ("metadata", metadata)]

def Row.document (row : Row) : Except Datum.NoDocument Fields := do
  let messages ← documentList Message.document row.messages
  let tools ← documentList ToolSpec.document row.tools
  let plan ← row.plan.document
  let origin ← row.provenance.document
  return [("messages", messages), ("tools", tools), ("plan", plan.toDatum),
    ("meta", origin.toDatum)]

end Colloquy
