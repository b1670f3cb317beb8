import Colloquy.Number.Numeral
import Colloquy.Shape.Basic
import Colloquy.Text.Blank

/-!
# Fitting single values

When a value counts as a text, an integer, a number or a truth value. Numbers may be spelled as
texts; truth values count as numbers, and decimals as the numbers they spell.
-/

set_option autoImplicit false

namespace Colloquy.Fit

def text : Datum → Fitted String
  | .text value => .ok value
  | .bytes value => .ok value
  | _ => .misfit .stringType

/-- Whether underscores stand only between other characters, one at a time. -/
def underscoresSeparate (characters : List Char) : Bool :=
  characters.head? ≠ some '_' && characters.getLast? ≠ some '_' &&
    (characters.zip (characters.drop 1)).all fun pair => !(pair.1 = '_' && pair.2 = '_')

def dropUnderscores? (characters : List Char) : Option (List Char) :=
  if underscoresSeparate characters then some (characters.filter (· ≠ '_')) else none

def integerLimit : Nat := 4300

inductive Whole where
  | value (number : Int)
  | tooLong
  | senseless
  deriving Repr, DecidableEq

/-- The integer of a plain numeral: digits, the first of which is no zero unless it is the only one,
perhaps behind a minus sign. Digits in excess are found before what stands behind them. -/
def plainInteger (characters : List Char) : Whole :=
  let (sign, body) := characters.span (· = '-')
  let digits := body.takeWhile Char.isDigit
  if 1 < sign.length || digits.isEmpty || (digits.head? = some '0' && digits.length ≠ 1) then
    .senseless
  else if integerLimit < sign.length + digits.length then .tooLong
  else if digits.length < body.length then .senseless
  else
    let size : Int := Number.ofDigits digits
    .value (if sign.isEmpty then size else -size)

/-- Characters without the zeros and underscores in front of what counts. A zero in front of a point
counts, and of nothing but zeros the last one does. -/
def dropZeros? (last : Char) : List Char → Option (List Char)
  | [] => some [last]
  | '.' :: rest => some (last :: '.' :: rest)
  | character :: rest =>
      if character = '0' || character = '_' then dropZeros? character rest
      else if character = '-' || character.isDigit then some (character :: rest)
      else none

def withoutZeros? : List Char → Option (List Char)
  | '0' :: rest => dropZeros? '0' rest
  | '-' :: rest => some ('-' :: rest)
  | character :: rest => if character.isDigit then some (character :: rest) else none
  | [] => none

/-- Characters without a point and the zeros behind it, of which there has to be one. -/
def withoutFraction (characters : List Char) : List Char :=
  let whole := characters.takeWhile (· ≠ '.')
  let zeros := (characters.drop whole.length).drop 1
  if !zeros.isEmpty && zeros.all (· = '0') then whole else characters

/-- What characters say without white space around, a plus sign, zeros in front, a fraction of
zeros, and underscores if those only separate. -/
def cleanInteger? (characters : List Char) : Option (List Char) := do
  let trimmed := Text.trimWhite characters
  let unsigned ← match trimmed with
    | '+' :: '-' :: _ => none
    | '+' :: rest => some rest
    | rest => some rest
  let counting := withoutFraction (← withoutZeros? unsigned)
  return (dropUnderscores? counting).getD counting

def parseInteger (spelled : String) : Fitted Int :=
  let read (characters : List Char) (otherwise : Fitted Int) : Fitted Int :=
    match plainInteger characters with
    | .value number => .ok number
    | .tooLong => .misfit .integerParsingSize
    | .senseless => otherwise
  read spelled.toList
    (match cleanInteger? spelled.toList with
      | some cleaned => read cleaned (.misfit .integerParsing)
      | none => .misfit .integerParsing)

/-- The double that characters spell; the names of infinity and of not-a-number count. -/
def plainNumber? (characters : List Char) : Option Float :=
  let (negative, body) := Number.splitSign characters
  let name := String.ofList (body.map Char.toLower)
  if name = "nan" then some (0.0 / 0.0)
  else if name = "inf" ∨ name = "infinity" then
    some (if negative then -1.0 / 0.0 else 1.0 / 0.0)
  else
    (Number.scientific? body).map fun (digits, exponent) =>
      Number.ofDecimal negative digits exponent

/-- The double that a text spells: with white space around, or with underscores that separate. -/
def parseNumber? (spelled : String) : Option Float :=
  match plainNumber? (Text.trimWhite spelled.toList) with
  | some number => some number
  | none => (dropUnderscores? spelled.toList).bind plainNumber?

def wholeNumber (value : Float) : Fitted Int :=
  match Number.truncate? value with
  | none => .misfit .finiteNumber
  | some whole =>
      if !Number.isWhole value then .misfit .integerFromFloat
      else if whole.natAbs < Number.twoTo 63 then .ok whole
      else .misfit .integerParsingSize

/-- An integer, a whole number, a truth value, or an integer spelled as a text. -/
def integer : Datum → Fitted Int
  | .bool value => .ok (if value then 1 else 0)
  | .int value => .ok value
  | .float value => wholeNumber value
  | .decimal value =>
      match value.value? with
      | none => .misfit .finiteNumber
      | some number => if number.den = 1 then .ok number.num else .misfit .integerFromFloat
  | .text value => parseInteger value
  | .bytes value => parseInteger value
  | _ => .misfit .integerType

def number (value : Datum) : Fitted Float :=
  let spelled (text : String) : Fitted Float :=
    match parseNumber? text with
    | some number => .ok number
    | none => .misfit .floatParsing
  let known (number : Option Float) : Fitted Float :=
    match number with
    | some number => .ok number
    | none => .misfit .floatType
  match value with
  | .bool value => .ok (if value then 1.0 else 0.0)
  | .int value => known (Number.ofInt? value)
  | .float value => .ok value
  | .decimal value => known value.toFloat?
  | .text value => spelled value
  | .bytes value => spelled value
  | _ => .misfit .floatType

def truthSpellings : List (String × Bool) := [
  ("true", true), ("yes", true), ("on", true), ("t", true), ("y", true), ("1", true),
  ("false", false), ("no", false), ("off", false), ("f", false), ("n", false), ("0", false)]

def truthOfInt (value : Int) : Fitted Bool :=
  if value = 0 then .ok false else if value = 1 then .ok true else .misfit .truthParsing

def isShort (value : Int) : Bool :=
  -(Number.twoTo 63 : Int) ≤ value && value < Number.twoTo 63

def truthOfFloat (value : Float) : Fitted Bool :=
  match wholeNumber value with
  | .ok whole => truthOfInt whole
  | .error _ => .misfit .truthType

def truthOfText (spelled : String) : Fitted Bool :=
  match truthSpellings.lookup (String.ofList (spelled.toList.map Char.toLower)) with
  | some truth => .ok truth
  | none => .misfit .truthParsing

def truth : Datum → Fitted Bool
  | .bool value => .ok value
  | .int value => if isShort value then truthOfInt value else .misfit .truthType
  | .float value => truthOfFloat value
  | .decimal value => (value.toFloat?.map truthOfFloat).getD (.misfit .truthType)
  | .text value => truthOfText value
  | .bytes value => truthOfText value
  | _ => .misfit .truthType

end Colloquy.Fit
