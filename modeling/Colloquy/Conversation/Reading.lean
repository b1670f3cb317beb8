import Colloquy.Conversation.Basic
import Colloquy.Shape.Scalar
import Colloquy.Shape.Fit

/-!
# Reading conversations from data

Rows, plans and messages read from mappings. Unknown fields are ignored, absent optional fields take
their default, and all misfits are reported in the order of the fields.
-/

set_option autoImplicit false

namespace Colloquy

namespace Fit

def required {α : Type} (data : Datum) (name : String) (read : Datum → Fitted α) : Fitted α :=
  match data.get? name with
  | some value => (read value).under (.key name)
  | none => (Fitted.misfit .missing).under (.key name)

def optional {α : Type} (data : Datum) (name : String) (fallback : α) (read : Datum → Fitted α) :
    Fitted α :=
  match data.get? name with
  | some value => (read value).under (.key name)
  | none => .ok fallback

def nullable {α : Type} (read : Datum → Fitted α) (value : Datum) : Fitted (Option α) :=
  if value.isNull then .ok none else (read value).map some

def any (value : Datum) : Fitted Datum := .ok value

def named {α : Type} (misfit : Misfit) (ofName? : String → Option α) (name : Option String) :
    Fitted α :=
  match name.bind ofName? with
  | some found => .ok found
  | none => .misfit misfit

def itemsFrom {α : Type} (read : Datum → Fitted α) (position : Nat) :
    List Datum → Fitted (List α)
  | [] => .ok []
  | item :: items =>
      (((read item).under (.index position)).both (itemsFrom read (position + 1) items)).map
        fun pair => pair.1 :: pair.2

def listOf {α : Type} (read : Datum → Fitted α) (value : Datum) : Fitted (List α) :=
  match value.sequence? with
  | some items => itemsFrom read 0 items
  | none => .misfit .listType

def namedEntries : List (Datum × Datum) → Fitted Fields
  | [] => .ok []
  | (key, value) :: entries =>
      (((Fit.key key).under (.ofKey key)).both (namedEntries entries)).map fun pair =>
        (pair.1, value) :: pair.2

def dictionary (value : Datum) : Fitted Fields :=
  match value with
  | .mapping entries => (namedEntries entries).map (Fields.merge [])
  | _ => .misfit .dictionaryType

def record {α : Type} (read : Datum → Fitted α) (value : Datum) : Fitted α :=
  match value with
  | .mapping _ => read value
  | _ => .misfit .shapeType

end Fit

def Role.read (value : Datum) : Fitted Role := Fit.named .literal Role.ofName? value.text?

def EntryKind.read (value : Datum) : Fitted EntryKind :=
  Fit.named .choice EntryKind.ofName? (Fit.text value).toOption

def CallPart.read : Datum → Fitted CallPart :=
  Fit.record fun data =>
    (((Fitted.apply (.ok CallPart.mk)
      (Fit.required data "id" Fit.text)).apply
      (Fit.required data "name" Fit.text)).apply
      (Fit.optional data "arguments" [] Fit.dictionary))

def Message.read : Datum → Fitted Message :=
  Fit.record fun data =>
    ((((((Fitted.apply (.ok Message.mk)
      (Fit.required data "role" Role.read)).apply
      (Fit.optional data "content" .null Fit.any)).apply
      (Fit.optional data "tool_calls" none (Fit.nullable (Fit.listOf CallPart.read)))).apply
      (Fit.optional data "tool_call_id" none (Fit.nullable Fit.text))).apply
      (Fit.optional data "name" none (Fit.nullable Fit.text))).apply
      (Fit.required data "generation_id" Fit.text))

def ToolSpec.read : Datum → Fitted ToolSpec :=
  Fit.record fun data =>
    ((((Fitted.apply (.ok ToolSpec.mk)
      (Fit.required data "name" Fit.text)).apply
      (Fit.required data "description" Fit.text)).apply
      (Fit.optional data "parameters" [] Fit.dictionary)).apply
      (Fit.optional data "output" [] Fit.dictionary))

def PlanEntry.read : Datum → Fitted PlanEntry :=
  Fit.record fun data =>
    (((((((Fitted.apply (.ok PlanEntry.mk)
      (Fit.required data "kind" EntryKind.read)).apply
      (Fit.required data "role" Role.read)).apply
      (Fit.optional data "content" .null Fit.any)).apply
      (Fit.optional data "tool_name" none (Fit.nullable Fit.text))).apply
      (Fit.optional data "tool_call_id" none (Fit.nullable Fit.text))).apply
      (Fit.optional data "arguments" .null Fit.any)).apply
      (Fit.optional data "draw_count" 0 Fit.integer))

def Plan.read : Datum → Fitted Plan :=
  Fit.record fun data =>
    (((Fitted.apply (.ok Plan.mk)
      (Fit.optional data "entries" [] (Fit.listOf PlanEntry.read))).apply
      (Fit.optional data "tools" [] (Fit.listOf ToolSpec.read))).apply
      (Fit.optional data "metadata" [] fun value => (Fit.dictionary value).map Fields.toEntries))

def TokenCount.read : Datum → Fitted TokenCount :=
  Fit.record fun data =>
    (((Fitted.apply (.ok TokenCount.mk)
      (Fit.required data "message_tokens" Fit.integer)).apply
      (Fit.required data "tool_tokens" Fit.integer)).apply
      (Fit.required data "total" Fit.integer))

def RowMeta.read : Datum → Fitted RowMeta :=
  Fit.record fun data =>
    ((((((Fitted.apply (.ok RowMeta.mk)
      (Fit.optional data "seed" none (Fit.nullable Fit.integer))).apply
      (Fit.required data "model" Fit.text)).apply
      (Fit.optional data "output" none (Fit.nullable Fit.text))).apply
      (Fit.required data "start_timestamp" Fit.text)).apply
      (Fit.optional data "token_count" none (Fit.nullable TokenCount.read))).apply
      (Fit.optional data "metadata" [] Fit.dictionary))

def Row.read : Datum → Fitted Row :=
  Fit.record fun data =>
    ((((Fitted.apply (.ok Row.mk)
      (Fit.required data "messages" (Fit.listOf Message.read))).apply
      (Fit.optional data "tools" [] (Fit.listOf ToolSpec.read))).apply
      (Fit.required data "plan" Plan.read)).apply
      (Fit.required data "meta" RowMeta.read))

end Colloquy
