import Colloquy.Number.Power

/-!
# Doubles as exact numbers

A finite double is a signed significand times a power of two. This module reads
that form off a double and rounds an exact quotient back to the nearest double,
so that every comparison and conversion elsewhere can be stated on integers.
-/

set_option autoImplicit false

namespace Colloquy.Number

/-- The exact content of a double: a signed dyadic number, an infinity, or not a number. -/
inductive Binary64 where
  | finite (negative : Bool) (significand : Nat) (exponent : Int)
  | infinite (negative : Bool)
  | notANumber
  deriving Repr, DecidableEq

def Binary64.ofFloat (value : Float) : Binary64 :=
  let bits : Nat := value.toBits.toNat
  let negative := decide (bits / twoTo 63 % 2 = 1)
  let biased : Nat := bits / twoTo 52 % twoTo 11
  let fraction : Nat := bits % twoTo 52
  if biased = twoTo 11 - 1 then
    if fraction = 0 then .infinite negative else .notANumber
  else if biased = 0 then .finite negative fraction (-1074)
  else .finite negative (fraction + twoTo 52) ((biased : Int) - 1075)

/-- The quotient of `num * 2 ^ (-exponent)` by `den`, rounded to nearest with ties to even. -/
def scaledQuotient (num den : Nat) (exponent : Int) : Nat :=
  let num := if exponent < 0 then num * twoTo (-exponent).toNat else num
  let den := if exponent < 0 then den else den * twoTo exponent.toNat
  let quotient := num / den
  let remainder := num % den
  if 2 * remainder > den ∨ (2 * remainder = den ∧ quotient % 2 = 1) then quotient + 1
  else quotient

/-- The exponent at which `num / den` has a significand of 53 bits, or the least one. -/
def significandExponent (num den : Nat) : Int :=
  let guess : Int := (num.log2 : Int) - den.log2 - 53
  let wide :=
    if guess < 0 then num * twoTo (-guess).toNat / den else num / (den * twoTo guess.toNat)
  max (if wide < twoTo 53 then guess else guess + 1) (-1074)

/-- The bit pattern of `significand * 2 ^ exponent` with the given sign; too large is infinite. -/
def packBits (negative : Bool) (significand : Nat) (exponent : Int) : Nat :=
  let magnitude :=
    if significand < twoTo 52 then significand
    else (exponent + 1075).toNat * twoTo 52 + (significand - twoTo 52)
  min magnitude ((twoTo 11 - 1) * twoTo 52) + (if negative then twoTo 63 else 0)

/-- The double nearest to `num / den`, ties to the even significand. -/
def ofQuotient (negative : Bool) (num den : Nat) : Float :=
  if num = 0 then (if negative then -0.0 else 0.0)
  else
    let exponent := significandExponent num den
    Float.ofBits (UInt64.ofNat (packBits negative (scaledQuotient num den exponent) exponent))

/-- The double nearest to an integer; an integer beyond the doubles becomes infinite. -/
def ofInt (value : Int) : Float :=
  ofQuotient (value < 0) value.natAbs 1

/-- The double nearest to an integer, or nothing when the integer is beyond the doubles. -/
def ofInt? (value : Int) : Option Float :=
  match Binary64.ofFloat (ofInt value) with
  | .infinite _ => none
  | _ => some (ofInt value)

/-- The value of a finite double as a fraction of an integer by a positive integer. -/
def fraction? (value : Float) : Option (Int × Nat) :=
  match Binary64.ofFloat value with
  | .finite negative significand exponent =>
      let magnitude : Int := significand * twoTo exponent.toNat
      some (if negative then -magnitude else magnitude, twoTo (-exponent).toNat)
  | _ => none

def floor? (value : Float) : Option Int :=
  (fraction? value).map fun (num, den) => num / (den : Int)

def truncate? (value : Float) : Option Int :=
  (fraction? value).map fun (num, den) => num.tdiv den

def isWhole (value : Float) : Bool :=
  match fraction? value with
  | some (num, den) => num % (den : Int) == 0
  | none => false

end Colloquy.Number
