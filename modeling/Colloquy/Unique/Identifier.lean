import Colloquy.Datum.Shown
import Colloquy.Error.Conversion
import Colloquy.Text.Blank
import Colloquy.Unique.Attribute

/-!
# Identifiers of options

A choice without repetition names a collection and says how options are identified: scalar options
by themselves, others by an attribute or by a function. The identifier carries the type of the value
it was made from, so that `1` and `"1"` differ.
-/

set_option autoImplicit false

namespace Colloquy.Unique

inductive ItemId where
  /-- By the attribute or key of that name, which should be a text. -/
  | named (name : Datum)
  /-- By a function, which is shown in messages under a name. -/
  | computed (shown : String) (compute : Datum → Except Error Datum)

/-- A collection and how options are identified in it. -/
structure UniqueBy where
  collection : String
  itemId : Option ItemId

/-- The name of a collection, which has to be a text that is not blank. -/
def collectionName (collection : Datum) : Except Error String :=
  match collection with
  | .text name =>
      if Text.trim name = "" then .error (.unique .blankCollection) else .ok (Text.trim name)
  | _ => .error (.unique .blankCollection)

def UniqueBy.make (collection : Datum) (itemId : Option ItemId) : Except Error UniqueBy := do
  return ⟨← collectionName collection, itemId⟩

def UniqueBy.shown (rule : UniqueBy) : String :=
  match rule.itemId with
  | none => "None"
  | some (.named name) => name.shown
  | some (.computed shown _) => shown

def isScalar : Datum → Bool
  | .text _ => true
  | .int _ => true
  | .float _ => true
  | .bool _ => true
  | _ => false

def attributeUnder (name option : Datum) : Except Error Datum :=
  match name with
  | .text name => .ok (attributeOf option name)
  | other =>
      .error (.unsupported .type ("attribute name must be string, not '" ++ other.typePath ++ "'"))

def namedValue (name option : Datum) : Except Error Datum :=
  match option with
  | .mapping entries => do return (Datum.entry? entries (← name.asKey)).getD .null
  | .null => .error (.unique (.notObject name.shown))
  | other =>
      if isScalar other then .error (.unique (.notObject name.shown))
      else attributeUnder name other

/-- The name by which options are identified if no other is given. -/
def usualName : Datum := .text "id"

def UniqueBy.valueOf (rule : UniqueBy) (option : Datum) : Except Error Datum :=
  match rule.itemId with
  | some (.computed _ compute) => compute option
  | some (.named name) => namedValue (if name.isTruthy then name else usualName) option
  | none => if isScalar option then .ok option else namedValue usualName option

/-- The identifier of an option: the type name of its value and the value. -/
def UniqueBy.keyFor (rule : UniqueBy) (option : Datum) : Except Error String := do
  let value ← rule.valueOf option
  if isScalar value then return value.typeName ++ ":" ++ value.spoken
  else .error (.unique (.unresolved rule.shown value.typeName))

end Colloquy.Unique
