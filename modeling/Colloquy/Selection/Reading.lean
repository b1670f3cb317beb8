import Colloquy.Error.Conversion
import Colloquy.Selection.Weights

/-!
# Options written as values

An option may be written as a value wrapped with a weight, as a mapping of a value and perhaps a
weight, or as the value itself.
-/

set_option autoImplicit false

namespace Colloquy.Selection

def weightedDatum (value weight : Datum) : Datum :=
  .object (.record "Weighted") [("value", value), ("weight", weight)]

def Choice.ofDatum (value : Datum) : Choice Datum :=
  match value with
  | .object (.record "Weighted") [(_, item), (_, weight)] => .weighted item weight
  | .mapping [(.text "value", item)] => .entry item none false
  | .mapping [(.text "value", item), (.text "weight", weight)] => .entry item (some weight) false
  | .mapping [(.text "weight", weight), (.text "value", item)] => .entry item (some weight) true
  | other => .plain other

/-- The options that a value holds; a value that counts as absent holds none. -/
def choicesOfDatum (options : Datum) : Except Error (List (Choice Datum)) :=
  if options.isTruthy then return (← options.elements).map Choice.ofDatum else .ok []

end Colloquy.Selection
