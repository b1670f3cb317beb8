import Colloquy.Datum.Document
import Colloquy.Error.Basic
import Colloquy.Json.Writer

/-!
# Errors of conversions

What goes wrong when a value is used as something it is not: as JSON, as a mapping, as a list of
items, or as the id of a call.
-/

set_option autoImplicit false

namespace Colloquy

def Error.ofUnwritable : Json.Unwritable → Error
  | .value typeName =>
      .unsupported .type s!"Object of type {typeName} is not JSON serializable"
  | .key typeName =>
      .unsupported .type s!"keys must be str, int, float, bool or None, not {typeName}"
  | .order first second =>
      .unsupported .type s!"'<' not supported between instances of '{first}' and '{second}'"

def Error.ofNoDocument (fault : Datum.NoDocument) : Error :=
  .noDocument fault.typeName

def jsonText (style : Json.Style) (value : Datum) : Except Error String :=
  (Json.write? style value).mapError Error.ofUnwritable

namespace Datum

/-- The values that a value gives one by one: items, characters, or keys. -/
def elements : Datum → Except Error (List Datum)
  | list items => .ok items
  | tuple items => .ok items
  | text value => .ok (value.toList.map fun character => .text character.toString)
  | bytes value => .ok (value.toUTF8.toList.map fun byte => .int byte.toNat)
  | mapping entries => .ok (entries.map (·.1))
  | object (.instance _) fields =>
      .ok (fields.map fun field => .tuple [.text field.1, field.2])
  | other => .error (.unsupported .type ("'" ++ other.typePath ++ "' object is not iterable"))

/-- The entry that the element at a position stands for: a pair of a key and a value. -/
def pairOf (position : Nat) (element : Datum) : Except Error (Datum × Datum) :=
  match element.elements with
  | .ok [key, value] => .ok (key, value)
  | .ok parts =>
      .error (.unsupported .value
        s!"dictionary update sequence element #{position} has length {parts.length}; 2 is required")
  | .error _ =>
      .error (.unsupported .type
        s!"cannot convert dictionary update sequence element #{position} to a sequence")

def pairsFrom (position : Nat) : List Datum → Except Error (List (Datum × Datum))
  | [] => .ok []
  | element :: rest => do
      let pair ← pairOf position element
      return pair :: (← pairsFrom (position + 1) rest)

def asEntries : Datum → Except Error (List (Datum × Datum))
  | mapping entries => .ok entries
  | other => do
      let elements ← other.elements
      return joinEntries (← pairsFrom 0 elements)

def asKey (value : Datum) : Except Error Datum :=
  match value.keyFault? with
  | some fault => .error (.unsupported .type fault)
  | none => .ok value

def asCallId : Datum → Except Error String
  | text callId => .ok callId
  | bytes _ => .error (.unsupported .type "a bytes-like object is required, not 'str'")
  | other =>
      .error (.unsupported .attribute
        ("'" ++ other.typePath ++ "' object has no attribute 'removesuffix'"))

end Datum

end Colloquy
