import Colloquy.Number.Decimal
import Colloquy.Text.Blank

/-!
# Decimal numbers as they are written

A `Numeral` keeps the digits and the place of the point of a written number, so that `1.10` and
`1.1` are two numerals of one number.
-/

set_option autoImplicit false

namespace Colloquy.Number

def splitSign (characters : List Char) : Bool × List Char :=
  match characters with
  | '-' :: rest => (true, rest)
  | '+' :: rest => (false, rest)
  | rest => (false, rest)

def isDigits (characters : List Char) : Bool :=
  !characters.isEmpty && characters.all Char.isDigit

/-- The digits and the exponent of a numeral without sign: digits with at most one point among
them, and perhaps an exponent. -/
def scientific? (characters : List Char) : Option (Nat × Int) :=
  let mantissa := characters.takeWhile fun character => character ≠ 'e' && character ≠ 'E'
  let behind := characters.drop mantissa.length
  let whole := mantissa.takeWhile (· ≠ '.')
  let fraction := (mantissa.drop whole.length).drop 1
  let digits := whole ++ fraction
  if !isDigits digits then none
  else
    match behind with
    | [] => some (ofDigits digits, -(fraction.length : Int))
    | _ :: exponent =>
        let (down, exponentDigits) := splitSign exponent
        if isDigits exponentDigits then
          let size : Int := ofDigits exponentDigits
          some (ofDigits digits, (if down then -size else size) - fraction.length)
        else none

inductive Numeral where
  | finite (negative : Bool) (digits : Nat) (exponent : Int)
  | infinite (negative : Bool)
  /-- Not a number. One that signals cannot be used at all. -/
  | notANumber (negative signals : Bool) (payload : Nat)
  deriving Repr, DecidableEq

namespace Numeral

def payload? (digits : List Char) : Option Nat :=
  if digits.all Char.isDigit then some (ofDigits digits) else none

/-- The numeral that characters in lower case spell. Underscores and blanks at the ends do not
count. -/
def ofCharacters? (characters : List Char) : Option Numeral :=
  let (negative, body) := splitSign ((Text.trimBlanks characters).filter (· ≠ '_'))
  match body with
  | 'i' :: 'n' :: 'f' :: rest =>
      if rest = [] ∨ rest = "inity".toList then some (infinite negative) else none
  | 's' :: 'n' :: 'a' :: 'n' :: digits => (payload? digits).map (notANumber negative true)
  | 'n' :: 'a' :: 'n' :: digits => (payload? digits).map (notANumber negative false)
  | body => (scientific? body).map fun (digits, exponent) => finite negative digits exponent

def ofText? (text : String) : Option Numeral :=
  ofCharacters? (text.toList.map Char.toLower)

/-- The digits of a finite numeral with the point where the exponent puts it. A number with a
positive exponent or with more than five zeros behind the point gets an exponent instead. -/
def layout (digits : List Char) (exponent : Int) : List Char :=
  let reach := exponent + digits.length
  let place : Int := if exponent ≤ 0 ∧ -6 < reach then reach else 1
  let body : List Char :=
    if place ≤ 0 then '0' :: '.' :: (List.replicate (-place).toNat '0' ++ digits)
    else if (digits.length : Int) ≤ place then
      digits ++ List.replicate (place - digits.length).toNat '0'
    else digits.take place.toNat ++ '.' :: digits.drop place.toNat
  if reach = place then body
  else
    let power := reach - place
    body ++ 'E' :: (if power < 0 then '-' else '+') :: (toString power.natAbs).toList

def signed (negative : Bool) (rest : String) : String :=
  if negative then "-" ++ rest else rest

def text : Numeral → String
  | finite negative digits exponent =>
      signed negative (String.ofList (layout (toString digits).toList exponent))
  | infinite negative => signed negative "Infinity"
  | notANumber negative signals payload =>
      signed negative ((if signals then "sNaN" else "NaN") ++
        (if payload = 0 then "" else toString payload))

def signals : Numeral → Bool
  | notANumber _ signals _ => signals
  | _ => false

def opposite : Numeral → Numeral
  | finite negative digits exponent => finite (!negative) digits exponent
  | infinite negative => infinite (!negative)
  | other => other

def precision : Nat := 28

/-- The numeral of a number, cut to the digits that arithmetic keeps. A half goes to the even
neighbour. -/
def rounded (negative : Bool) (digits : Nat) (exponent : Int) : Numeral :=
  let excess := (toString digits).length - precision
  if excess = 0 then finite negative digits exponent
  else
    let unit := tenTo excess
    let kept := digits / unit
    let double := 2 * (digits % unit)
    let up := unit < double || (unit = double && kept % 2 = 1)
    let nearest := if up then kept + 1 else kept
    if nearest < tenTo precision then finite negative nearest (exponent + excess)
    else finite negative (nearest / 10) (exponent + excess + 1)

def width (number : Int) : Int := (toString number.natAbs).length

/-- The sum of two numbers that are not zero, of which the first has the greater exponent. If the
second lies below all digits that are kept, only its sign counts. -/
def sumOf (upper : Int) (exponent : Int) (lower : Int) (lowerExponent : Int) : Numeral :=
  let least := exponent + min (-1) (width upper - precision - 2)
  let (lower, place) :=
    if width lower + lowerExponent - 1 < least then (lower.sign, least)
    else (lower, lowerExponent)
  let sum := upper * (tenTo (exponent - place).toNat : Int) + lower
  rounded (sum < 0) sum.natAbs place

/-- A numeral written down to an exponent, as far as the digits that are kept reach. -/
def writtenTo (lowest : Int) (negative : Bool) (digits : Nat) (exponent : Int) : Numeral :=
  let place := max (min exponent lowest) (exponent - precision - 1)
  rounded negative (digits * tenTo (exponent - place).toNat) place

def sum? : Numeral → Numeral → Option Numeral
  | notANumber negative signals payload, other =>
      if signals || other.signals then none else some (notANumber negative false payload)
  | one, notANumber negative signals payload =>
      if signals || one.signals then none else some (notANumber negative false payload)
  | infinite negative, infinite otherNegative =>
      if negative = otherNegative then some (infinite negative) else none
  | infinite negative, _ => some (infinite negative)
  | _, infinite negative => some (infinite negative)
  | finite negative 0 exponent, finite otherNegative 0 otherExponent =>
      some (finite (negative && otherNegative) 0 (min exponent otherExponent))
  | finite _ 0 lowest, finite negative digits exponent =>
      some (writtenTo lowest negative digits exponent)
  | finite negative digits exponent, finite _ 0 lowest =>
      some (writtenTo lowest negative digits exponent)
  | finite negative digits exponent, finite otherNegative otherDigits otherExponent =>
      let size : Int := if negative then -digits else digits
      let other : Int := if otherNegative then -otherDigits else otherDigits
      some (if otherExponent ≤ exponent then sumOf size exponent other otherExponent
        else sumOf other otherExponent size exponent)

/-- The numeral of half the number, with no more digits than needed. -/
def half : Numeral → Numeral
  | finite negative digits exponent =>
      if digits % 2 = 0 then rounded negative (digits / 2) exponent
      else rounded negative (digits * 5) (exponent - 1)
  | other => other

def isZero : Numeral → Bool
  | finite _ digits _ => digits == 0
  | _ => false

def isNaN : Numeral → Bool
  | notANumber _ _ _ => true
  | _ => false

def toFloat? : Numeral → Option Float
  | finite negative digits exponent => some (ofDecimal negative digits exponent)
  | infinite negative => some (if negative then -1.0 / 0.0 else 1.0 / 0.0)
  | notANumber _ false _ => some (0.0 / 0.0)
  | notANumber _ true _ => none

/-- The exponent within the range that is told apart: beyond it a number is as good as zero or as
infinity beside any number that is written out. -/
def boundedExponent (exponent : Int) : Int := max (-20000) (min exponent 20000)

def value? : Numeral → Option Rat
  | finite negative digits exponent =>
      let exponent := boundedExponent exponent
      let size : Rat := (digits * tenTo exponent.toNat : Nat) / (tenTo (-exponent).toNat : Rat)
      some (if negative then -size else size)
  | _ => none

end Numeral

end Colloquy.Number
