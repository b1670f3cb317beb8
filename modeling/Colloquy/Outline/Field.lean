import Colloquy.Datum.Equality
import Colloquy.Error.Basic

/-!
# Fields of outlines

An outline is something of this library written as plain data: a shape, a value, a schema tree, or
the code of a schema author. What is read from an outline is read field by field; a field that is
not there counts as null.
-/

set_option autoImplicit false

namespace Colloquy

mutual

def Datum.depth : Datum → Nat
  | .list items => depthOfItems items + 1
  | .tuple items => depthOfItems items + 1
  | .mapping entries => depthOfEntries entries + 1
  | _ => 0

def Datum.depthOfItems : List Datum → Nat
  | [] => 0
  | item :: items => max item.depth (depthOfItems items)

def Datum.depthOfEntries : List (Datum × Datum) → Nat
  | [] => 0
  | (_, value) :: entries => max value.depth (depthOfEntries entries)

end

namespace Outline

def senseless {α : Type} (part : String) : Except Error α :=
  .error (.unsupported .value ("senseless outline: " ++ part))

def field (outline : Datum) (name : String) : Datum := (outline.get? name).getD .null

def fieldText (outline : Datum) (name : String) : String := ((field outline name).text?).getD ""

def itemsOf (outline : Datum) : List Datum := outline.items?.getD []

/-- The entries of a mapping with text keys, none if it is no such mapping. -/
def entriesOf (outline : Datum) : Fields := outline.fields?.getD []

def numberOf : Datum → Float
  | .float value => value
  | .int value => Number.ofInt value
  | .bool value => if value then 1.0 else 0.0
  | _ => 0.0

def tag? : Datum → Option (String × Datum)
  | .mapping [(.text key, value)] => some (key, value)
  | _ => none

end Outline

end Colloquy
