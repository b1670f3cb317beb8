import Colloquy.Number.Binary64

/-!
# Doubles from decimal numerals

The double nearest to `digits * 10 ^ exponent`. Exponents far outside the range of the doubles are
cut off first, so the work is bounded by the length of the digits.
-/

set_option autoImplicit false

namespace Colloquy.Number

def ofDigits (digits : List Char) : Nat :=
  digits.foldl (fun number digit => 10 * number + (digit.toNat - '0'.toNat)) 0

/-- The double nearest to a signed decimal, ties to even; out of range it is zero or infinite. -/
def ofDecimal (negative : Bool) (digits : Nat) (exponent : Int) : Float :=
  let magnitude := exponent + (digits.log2 : Int)
  if digits = 0 then ofQuotient negative 0 1
  else if exponent > 400 then ofQuotient negative (twoTo 1100) 1
  else if magnitude < -1500 ∧ exponent < -1500 - (digits.log2 : Int) then ofQuotient negative 0 1
  else ofQuotient negative (digits * tenTo exponent.toNat) (tenTo (-exponent).toNat)

end Colloquy.Number
