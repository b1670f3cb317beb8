import Colloquy.Number.Binary64

/-!
# Shortest decimal text of a double

Of all decimals that round to a given double this module takes one with the
fewest digits, and of those the nearest. The search tries one digit, then two,
and so on; at each length only the two neighbours of the value on that decimal
grid can qualify. How the digits are laid out is a separate, explicit `Layout`.
-/

set_option autoImplicit false

namespace Colloquy.Number

/-- A positive decimal `digits * 10 ^ exponent`. -/
structure Decimal where
  digits : Nat
  exponent : Int
  deriving Repr, DecidableEq

def compareScaled (left : Nat) (binary : Int) (right : Nat) (decimal : Int) : Ordering :=
  compare (left * twoTo binary.toNat * tenTo (-decimal).toNat)
    (right * tenTo decimal.toNat * twoTo (-binary).toNat)

/-- The greatest `n` with `10 ^ n ≤ num / den`, for a positive quotient. -/
def decimalExponent (num den : Nat) : Int :=
  let reaches (exponent : Int) : Bool :=
    den * tenTo exponent.toNat ≤ num * tenTo (-exponent).toNat
  let least : Int := (((num.log2 : Int) - den.log2 - 1) * 30103) / 100000 - 1
  if reaches (least + 3) then least + 3
  else if reaches (least + 2) then least + 2
  else if reaches (least + 1) then least + 1
  else least

/-- The open or closed interval of numbers that round to one double, in units of `2 ^ unit`. -/
structure RoundingInterval where
  lower : Nat
  value : Nat
  upper : Nat
  closed : Bool
  unit : Int

def RoundingInterval.around (significand : Nat) (exponent : Int) : RoundingInterval :=
  let narrow := significand = twoTo 52 ∧ -1074 < exponent
  { lower := 4 * significand - (if narrow then 1 else 2)
    value := 4 * significand
    upper := 4 * significand + 2
    closed := significand % 2 = 0
    unit := exponent - 2 }

def RoundingInterval.contains (interval : RoundingInterval) (decimal : Decimal) : Bool :=
  let below := compareScaled interval.lower interval.unit decimal.digits decimal.exponent
  let above := compareScaled interval.upper interval.unit decimal.digits decimal.exponent
  (below == .lt || (interval.closed && below == .eq)) &&
    (above == .gt || (interval.closed && above == .eq))

/-- The better of the two neighbours of the value on the grid of multiples of `10 ^ grid`. -/
def RoundingInterval.onGrid? (interval : RoundingInterval) (grid : Int) : Option Decimal :=
  let num := interval.value * twoTo interval.unit.toNat * tenTo (-grid).toNat
  let den := twoTo (-interval.unit).toNat * tenTo grid.toNat
  let low : Decimal := ⟨num / den, grid⟩
  let high : Decimal := ⟨num / den + 1, grid⟩
  let lowFits := low.digits ≠ 0 && interval.contains low
  match lowFits, interval.contains high with
  | true, true =>
      let past := 2 * (num % den)
      some (if past < den ∨ (past = den ∧ low.digits % 2 = 0) then low else high)
  | true, false => some low
  | false, true => some high
  | false, false => none

/-- The first grid, from coarse to fine, on which some decimal rounds to the value. -/
def RoundingInterval.search (interval : RoundingInterval) (grid : Int) : Nat → Option Decimal
  | 0 => none
  | steps + 1 =>
      match interval.onGrid? grid with
      | some decimal => some decimal
      | none => interval.search (grid - 1) steps

def Decimal.trim (decimal : Decimal) : Decimal :=
  if zero : decimal.digits = 0 then decimal
  else if decimal.digits % 10 = 0 then
    Decimal.trim ⟨decimal.digits / 10, decimal.exponent + 1⟩
  else decimal
termination_by decimal.digits
decreasing_by exact Nat.div_lt_self (Nat.pos_of_ne_zero zero) (by decide)

/-- A shortest decimal that reads back as `significand * 2 ^ exponent`; seventeen digits suffice. -/
def shortest (significand : Nat) (exponent : Int) : Decimal :=
  let interval := RoundingInterval.around significand exponent
  let leading := decimalExponent (significand * twoTo exponent.toNat) (twoTo (-exponent).toNat)
  ((interval.search leading 17).getD ⟨significand, exponent⟩).trim

/-- How decimal digits are laid out as text. -/
structure Layout where
  /-- The least decimal exponent of the leading digit that is written positionally. -/
  leastPositional : Int
  /-- The least decimal exponent of the leading digit that is written with an exponent again. -/
  leastScientific : Int
  /-- The least number of digits of a written exponent. -/
  exponentDigits : Nat
  notANumber : String
  infinity : String

/-- Text for readers: positional from `0.0001` up to below `10 ^ 16`, exponents of two digits. -/
def Layout.plain : Layout := ⟨-4, 16, 2, "nan", "inf"⟩

/-- Text in JSON documents: as for readers, with the JSON names of what is not finite. -/
def Layout.json : Layout := ⟨-4, 16, 2, "NaN", "Infinity"⟩

/-- Text in compact documents: positional from `0.00001`, exponents as short as possible, and
nothing that is not finite. -/
def Layout.compact : Layout := ⟨-5, 16, 1, "null", "null"⟩

def padZeros (width : Nat) (numeral : String) : String :=
  String.ofList (List.replicate (width - numeral.length) '0') ++ numeral

/-- A positive decimal as text. A whole number keeps one zero behind the point. -/
def Decimal.text (layout : Layout) (decimal : Decimal) : String :=
  let digits := toString decimal.digits
  let count : Int := digits.length
  let leading := decimal.exponent + count - 1
  if leading < layout.leastPositional ∨ layout.leastScientific ≤ leading then
    let mantissa :=
      if digits.length = 1 then digits
      else String.ofList (digits.toList.take 1) ++ "." ++ String.ofList (digits.toList.drop 1)
    mantissa ++ (if leading < 0 then "e-" else "e+") ++
      padZeros layout.exponentDigits (toString leading.natAbs)
  else if leading < 0 then
    "0." ++ String.ofList (List.replicate (-leading - 1).toNat '0') ++ digits
  else if 0 ≤ decimal.exponent then
    digits ++ String.ofList (List.replicate decimal.exponent.toNat '0') ++ ".0"
  else
    let whole := (leading + 1).toNat
    String.ofList (digits.toList.take whole) ++ "." ++ String.ofList (digits.toList.drop whole)

/-- The shortest text of a double that reads back as the same double. -/
def shortestText (layout : Layout) (value : Float) : String :=
  match Binary64.ofFloat value with
  | .notANumber => layout.notANumber
  | .infinite false => layout.infinity
  | .infinite true =>
      if layout.infinity = "null" then "null" else "-" ++ layout.infinity
  | .finite negative significand exponent =>
      let magnitude :=
        if significand = 0 then "0.0" else (shortest significand exponent).text layout
      if negative then "-" ++ magnitude else magnitude

/-- A finite double with a fixed number of places, a half going to the even neighbour. -/
def fixedText (places : Nat) (value : Float) : String :=
  match Binary64.ofFloat value with
  | .notANumber => "nan"
  | .infinite negative => if negative then "-inf" else "inf"
  | .finite negative significand exponent =>
      let scaled := scaledQuotient (significand * tenTo places) 1 (-exponent)
      let fraction := padZeros places (toString (scaled % tenTo places))
      (if negative then "-" else "") ++ toString (scaled / tenTo places) ++
        (if places = 0 then "" else "." ++ fraction)

end Colloquy.Number
