import Colloquy.Error.Conversion
import Colloquy.Json.Reread
import Colloquy.Schema.Node
import Colloquy.Selection.Reading

/-!
# Building schema trees

The ways in which authors write nodes, with the checks that are made at once. Weights are looked at
only when a choice is resolved.
-/

set_option autoImplicit false

namespace Colloquy

open Selection (Choice)

def rereadContent (value : Datum) : Except Error Datum :=
  (Json.reread value).mapError Error.ofUnwritable

/-- The content of a fixed message: a text, a list or null as they are, a mapping as JSON has it,
and validated data as its document. -/
def staticContent (content : Datum) : Except Error Datum :=
  match content with
  | .text _ => .ok content
  | .list _ => .ok content
  | .null => .ok content
  | .mapping _ => rereadContent content
  | .object (.instance _) _ => content.document.mapError Error.ofNoDocument
  | other => .error (.schema (.content other.typeName))

/-- The options of a choice as they were given: a list of options, or some value. -/
inductive Options where
  | listed (options : List (Choice Item))
  | value (options : Datum)

def Options.resolve : Options → Except Error (List (Choice Item))
  | listed options => .ok options
  | value options =>
      match options.items? with
      | some items => .ok (items.map fun item => (Choice.ofDatum item).map Item.datum)
      | none => .error (.schema .options)

namespace Node

def message (role : Role) (content : Datum) : Except Error Node := do
  return .leaf (.fixed (.text role.name) (← staticContent content))

def generated (role : Role) (prompt : Datum) : Node :=
  .leaf (.written (.text role.name) prompt)

def grouped (items : List Item) : Except Error Node := do
  return .group (← Item.toNodes items)

def choice (options : Options) (uniqueBy : Option Unique.UniqueBy) : Except Error Node := do
  return .oneOf (← options.resolve) uniqueBy

/-- The number of repetitions, which must not be negative if it is fixed. -/
def checkedCount (count : Datum) : Except Error Count :=
  match count with
  | .int value =>
      if value < 0 then .error (.schema (.negativeTimes value)) else .ok (.ofDatum count)
  | _ => .ok (.ofDatum count)

def repeated (count : Datum) (item : Item) : Except Error Node := do
  let count ← checkedCount count
  return .times count (← item.toNode)

def perhaps (item : Item) (probability : Datum) : Except Error Node := do
  return .optional (← item.toNode) probability

end Node

def Count.checkedRange (minimum maximum : Datum) : Except Error Datum := do
  if ← minimum.ordered .above maximum then .error (.schema (.range minimum maximum))
  else .ok (Count.range minimum maximum)

def ToolDefinition.make (name description : String) (parameters output : Option Shape) :
    Except Error ToolDefinition :=
  if name = "" then .error (.schema .toolName) else .ok ⟨name, description, parameters, output⟩

end Colloquy
