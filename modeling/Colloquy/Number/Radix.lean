/-!
# Numerals in base thirty-six

Digits are the ten figures followed by the twenty-six lower-case letters.
-/

set_option autoImplicit false

namespace Colloquy.Number

def digit36 (value : Nat) : Char :=
  if value < 10 then Char.ofNat ('0'.toNat + value) else Char.ofNat ('a'.toNat + (value - 10))

/-- The digits of a number, least significant first, and none for zero. -/
def digits36 (value : Nat) : List Nat :=
  if zero : value = 0 then [] else value % 36 :: digits36 (value / 36)
termination_by value
decreasing_by exact Nat.div_lt_self (Nat.pos_of_ne_zero zero) (by decide)

/-- The numeral of a number in base thirty-six, without leading zeros. -/
def base36 (value : Nat) : String :=
  if value = 0 then "0" else String.ofList ((digits36 value).reverse.map digit36)

end Colloquy.Number
