import Colloquy.Number.Numeral

/-!
# Data

A `Datum` is a value that a schema author, a caller or a model may hand over: message content,
tool arguments, metadata, weights, identifiers. Nothing is assumed of it until it is used.
-/

set_option autoImplicit false

namespace Colloquy

/-- What a part of validated data is declared to be, as far as its document depends on it. -/
inductive Declared where
  | other
  | integer
  | number
  | items (item : Declared)
  | values (value : Declared)
  deriving Repr, DecidableEq

/-- The shape that data has been validated for: its name, a text that tells it from other shapes of
that name, and what its fields are declared to be. -/
structure ShapeTag where
  name : String
  signature : String
  parts : List (String × Declared)
  deriving Repr, DecidableEq

def ShapeTag.part (tag : ShapeTag) (name : String) : Declared :=
  (tag.parts.lookup name).getD .other

/-- What kind of object carries named attributes. -/
inductive ObjectKind where
  | bundle
  | record (name : String)
  | node (name : String)
  | instance (tag : ShapeTag)
  /-- A thing without data of its own, known by its type and by how it is shown. -/
  | marker (typeName shown : String)
  deriving Repr, DecidableEq

/-- A value of any kind. Mappings keep the order in which their keys were first written. -/
inductive Datum where
  | null
  | bool (value : Bool)
  | int (value : Int)
  | float (value : Float)
  | text (value : String)
  | list (items : List Datum)
  | tuple (items : List Datum)
  | mapping (entries : List (Datum × Datum))
  | bytes (text : String)
  | decimal (value : Number.Numeral)
  | date (text : String)
  | object (kind : ObjectKind) (fields : List (String × Datum))
  deriving Inhabited

/-- The entries of a mapping in the order in which the keys were first given. -/
abbrev Entries := List (Datum × Datum)

/-- Named values in the order in which the names were first given. -/
abbrev Fields := List (String × Datum)

def Fields.get? (fields : Fields) (name : String) : Option Datum :=
  fields.lookup name

@[simp]
theorem Fields.get?_nil (name : String) : Fields.get? [] name = none := rfl

theorem Fields.get?_cons (first name : String) (value : Datum) (rest : Fields) :
    Fields.get? ((first, value) :: rest) name =
      if first = name then some value else rest.get? name := by
  unfold get?
  by_cases same : first = name
  · simp [same]
  · have other : (name == first) = false := beq_eq_false_iff_ne.2 fun same' => same same'.symm
    simp [List.lookup_cons, same, other]

/-- Replaces the value under a name where it stands, or adds it at the end. -/
def Fields.set : Fields → String → Datum → Fields
  | [], name, value => [(name, value)]
  | (other, old) :: rest, name, value =>
      if other = name then (other, value) :: rest else (other, old) :: Fields.set rest name value

def Fields.remove (fields : Fields) (name : String) : Fields :=
  fields.filter fun field => field.1 ≠ name

def Fields.merge (fields newer : Fields) : Fields :=
  newer.foldl (fun merged field => merged.set field.1 field.2) fields

def Fields.toEntries (fields : Fields) : Entries :=
  fields.map fun field => (.text field.1, field.2)

def Fields.toDatum (fields : Fields) : Datum := .mapping fields.toEntries

namespace Datum

def typeName : Datum → String
  | null => "NoneType"
  | bool _ => "bool"
  | int _ => "int"
  | float _ => "float"
  | text _ => "str"
  | list _ => "list"
  | tuple _ => "tuple"
  | mapping _ => "dict"
  | bytes _ => "bytes"
  | decimal _ => "Decimal"
  | date _ => "date"
  | object .bundle _ => "SimpleNamespace"
  | object (.record name) _ => name
  | object (.node name) _ => name
  | object (.instance tag) _ => tag.name
  | object (.marker typeName _) _ => typeName

/-- The name of a value's type with the place where it is from, if that is told. -/
def typePath (value : Datum) : String :=
  match value with
  | decimal _ => "decimal.Decimal"
  | date _ => "datetime.date"
  | object .bundle _ => "types.SimpleNamespace"
  | other => other.typeName

/-- Whether a value counts as present: neither null, false, zero nor empty. -/
def isTruthy : Datum → Bool
  | null => false
  | bool value => value
  | int value => value ≠ 0
  | float value => !(value == 0)
  | text value => value ≠ ""
  | list items => !items.isEmpty
  | tuple items => !items.isEmpty
  | mapping entries => !entries.isEmpty
  | bytes value => value ≠ ""
  | decimal value => !value.isZero
  | date _ => true
  | object _ _ => true

def isNull : Datum → Bool
  | null => true
  | _ => false

def text? : Datum → Option String
  | text value => some value
  | _ => none

def items? : Datum → Option (List Datum)
  | list items => some items
  | tuple items => some items
  | _ => none

/-- The items of a list or tuple, or the named parts of validated data. -/
def sequence? : Datum → Option (List Datum)
  | object (.instance _) fields => some (fields.map fun field => tuple [text field.1, field.2])
  | other => other.items?

/-- The number of characters, bytes, items or entries of a value that has any. -/
def size? : Datum → Option Nat
  | text value => some value.length
  | bytes value => some value.utf8ByteSize
  | list items => some items.length
  | tuple items => some items.length
  | mapping entries => some entries.length
  | _ => none

def ofFields (fields : Fields) : Datum := fields.toDatum

def ofText? : Option String → Datum
  | some value => text value
  | none => null

def ofInt? : Option Int → Datum
  | some value => int value
  | none => null

end Datum

end Colloquy
