import Colloquy.Number.Binary64

/-!
# Numbers to select by

Selection is written once for every type of number that has these operations. Rows are selected
with doubles; with rational numbers the same definitions show what selection means exactly.
-/

set_option autoImplicit false

namespace Colloquy.Selection

/-- The operations on weights and draws that selection needs. -/
class Arithmetic (κ : Type) extends Add κ, Sub κ, Mul κ, Div κ where
  zero : κ
  one : κ
  tolerance : κ
  below : κ → κ → Bool
  atMost : κ → κ → Bool
  ofInt? : Int → Option κ
  ofFloat : Float → κ
  toFloat : κ → Float
  /-- The greatest integer that is at most the number, if there is one. -/
  floor? : κ → Option Int
  /-- The integer part of the number, if there is one. -/
  truncate? : κ → Option Int

instance : Arithmetic Float where
  zero := 0.0
  one := 1.0
  tolerance := 1e-9
  below left right := left < right
  atMost left right := left ≤ right
  ofInt? := Number.ofInt?
  ofFloat value := value
  toFloat value := value
  floor? := Number.floor?
  truncate? := Number.truncate?

instance : Arithmetic Rat where
  zero := 0
  one := 1
  tolerance := 1 / 1000000000
  below left right := decide (left < right)
  atMost left right := decide (left ≤ right)
  ofInt? value := some value
  ofFloat value :=
    match Number.fraction? value with
    | some (num, den) => (num : Rat) / (den : Rat)
    | none => 0
  toFloat value := Number.ofQuotient (value.num < 0) value.num.natAbs value.den
  floor? value := some value.floor
  truncate? value := some (value.num.tdiv value.den)

end Colloquy.Selection
