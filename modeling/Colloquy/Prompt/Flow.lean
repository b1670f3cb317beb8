import Colloquy.Conversation.Document
import Colloquy.Error.Conversion
import Colloquy.Schema.Context

/-!
# The flow of a conversation

What a prompt shows of the conversation: the messages made so far, then the plan of the rest, and a
mark on the entry that is being made. Absent fields, also those of validated data, generation ids and
draw counts are left out.
-/

set_option autoImplicit false

namespace Colloquy

def currentMark : String := "CURRENTLY_GENERATING"

def absentField {α : Type} (name : String) (value : Option α) : List String :=
  if value.isNone then [name] else []

def nullField (name : String) (value : Datum) : List String :=
  if value.isNull then [name] else []

def Message.view (message : Message) : Except Datum.NoDocument Fields := do
  let hidden := "generation_id" :: nullField "content" message.content ++
    absentField "tool_calls" message.toolCalls ++
    absentField "tool_call_id" message.toolCallId ++ absentField "name" message.name
  return (← message.documentAs .sparse).filter fun field => !hidden.contains field.1

def PlanEntry.view (entry : PlanEntry) : Except Datum.NoDocument Fields := do
  let hidden := "draw_count" :: nullField "content" entry.content ++
    absentField "tool_name" entry.toolName ++ absentField "tool_call_id" entry.toolCallId ++
    nullField "arguments" entry.arguments
  return (← entry.documentAs .sparse).filter fun field => !hidden.contains field.1

def Context.viewAt (context : Context) (position : Nat) (entry : PlanEntry) :
    Except Datum.NoDocument Fields :=
  match context.messages[position]? with
  | some message => message.view
  | none =>
      if position = context.messages.length then do
        return (← entry.view).set currentMark (.bool true)
      else entry.view

def Context.viewsFrom (context : Context) (position : Nat) :
    List PlanEntry → Except Datum.NoDocument (List Fields)
  | [] => .ok []
  | entry :: entries => do
      let first ← context.viewAt position entry
      return first :: (← context.viewsFrom (position + 1) entries)

def Context.flow (context : Context) : Except Datum.NoDocument (List Fields) :=
  context.viewsFrom 0 context.plan.entries

def Context.flowText (context : Context) : Except Error String := do
  let items ← context.flow.mapError Error.ofNoDocument
  jsonText .pretty (.list (items.map Fields.toDatum))

def Context.toolsText (context : Context) : Except Error String :=
  if context.tools.isEmpty then .ok "(none)"
  else do
    let specs ← (documentList ToolSpec.document context.tools).mapError Error.ofNoDocument
    jsonText Json.Style.pretty.escaped specs

end Colloquy
