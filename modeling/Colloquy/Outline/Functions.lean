import Colloquy.Datum.Order
import Colloquy.Text.LetterCase

/-!
# Functions that outlines name

The functions by which an outline can identify options.
-/

set_option autoImplicit false

namespace Colloquy.Outline

def inapplicable (text : String) : Except Error Datum := .error (.unsupported .type text)

def lowerOf (value : Datum) : Except Error Datum :=
  match value with
  | .text text => .ok (.text (Text.lower text))
  | .bytes text => .ok (.bytes (String.ofList (text.toList.map Char.toLower)))
  | other =>
      .error (.unsupported .attribute ("'" ++ other.typePath ++ "' object has no attribute 'lower'"))

def lowerName (value : Datum) : Except Error Datum :=
  match value with
  | .mapping entries =>
      match Datum.entry? entries (.text "name") with
      | some name => lowerOf name
      | none => .error (.unsupported .key "name")
  | .text _ => inapplicable "string indices must be integers, not 'str'"
  | .list _ => inapplicable "list indices must be integers or slices, not str"
  | .tuple _ => inapplicable "tuple indices must be integers or slices, not str"
  | .bytes _ => inapplicable "byte indices must be integers or slices, not str"
  | other => inapplicable ("'" ++ other.typePath ++ "' object is not subscriptable")

def lengthOf (value : Datum) : Except Error Datum :=
  match value.size? with
  | some size => .ok (.int size)
  | none => inapplicable ("object of type '" ++ value.typePath ++ "' has no len()")

def halfOf (value : Datum) : Except Error Datum :=
  match value with
  | .int number =>
      let half := Number.ofQuotient (number < 0) number.natAbs 2
      if half.isFinite then .ok (.float half)
      else .error (.unsupported .overflow "integer division result too large for a float")
  | .bool flag => .ok (.float (if flag then 0.5 else 0.0))
  | .float number => .ok (.float (number / 2.0))
  | .decimal number => if number.signals then Datum.noDecimal else .ok (.decimal number.half)
  | other =>
      inapplicable ("unsupported operand type(s) for /: '" ++ other.typePath ++ "' and 'int'")

def functions : List (String × (Datum → Except Error Datum)) := [
  ("lower_name", lowerName), ("length", lengthOf), ("none", fun _ => .ok .null), ("self", .ok),
  ("half", halfOf)]

end Colloquy.Outline
