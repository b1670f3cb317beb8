import Colloquy.Datum.Equality
import Colloquy.Number.Decimal

/-!
# Reading JSON

A document is read character by character. The reader knows the three names for numbers that are
not finite, keeps the last value of a repeated key, and refuses raw control characters in texts.
A fault names the place where reading had to stop, in code points from the start. Integers of too
many digits and values nested too deep are not read at all.
-/

set_option autoImplicit false

namespace Colloquy.Json

inductive Problem where
  | value
  | propertyName
  | colon
  | comma
  | unterminated
  | controlCharacter
  | escape
  | unicodeEscape
  | extraData
  | byteOrderMark
  | digits (count : Nat)
  | depth (container : String)
  deriving Repr, DecidableEq

def digitLimit : Nat := 4300

/-- The number of arrays and objects that may stand inside each other. -/
def depthLimit : Nat := 970

def Problem.wording : Problem → String
  | value => "Expecting value"
  | propertyName => "Expecting property name enclosed in double quotes"
  | colon => "Expecting ':' delimiter"
  | comma => "Expecting ',' delimiter"
  | unterminated => "Unterminated string starting at"
  | controlCharacter => "Invalid control character at"
  | escape => "Invalid \\escape"
  | unicodeEscape => "Invalid \\uXXXX escape"
  | extraData => "Extra data"
  | byteOrderMark => "Unexpected UTF-8 BOM (decode using utf-8-sig)"
  | digits count => s!"Exceeds the limit ({digitLimit} digits) for integer string conversion: " ++
      s!"value has {count} digits; use sys.set_int_max_str_digits() to increase the limit"
  | depth container =>
      "maximum recursion depth exceeded while decoding a JSON " ++ container ++
        " from a unicode string"

/-- Whether a problem is one of size: the document may well be JSON. -/
def Problem.isOfSize : Problem → Bool
  | digits _ => true
  | depth _ => true
  | _ => false

structure Fault where
  problem : Problem
  offset : Nat
  deriving Repr, DecidableEq

def lineOf (characters : List Char) (offset : Nat) : Nat :=
  (characters.take offset).count '\n' + 1

def columnOf (characters : List Char) (offset : Nat) : Nat :=
  ((characters.take offset).reverse.takeWhile (· ≠ '\n')).length + 1

/-- The message of a fault in a document; it names the place unless the problem is one of size. -/
def Fault.message (fault : Fault) (document : String) : String :=
  let characters := document.toList
  if fault.problem.isOfSize then fault.problem.wording
  else fault.problem.wording ++ ": line " ++ toString (lineOf characters fault.offset) ++ " column " ++
    toString (columnOf characters fault.offset) ++ " (char " ++ toString fault.offset ++ ")"

/-- What is left to read, and how many characters are behind. -/
structure Place where
  rest : List Char
  offset : Nat

def Place.skip (place : Place) (count : Nat) : Place :=
  ⟨place.rest.drop count, place.offset + count⟩

/-- Whether a character may stand between the tokens of a document. -/
def isSpace (character : Char) : Bool :=
  character = ' ' || character = '\t' || character = '\n' || character = '\x0d'

def Place.skipSpaces (place : Place) : Place :=
  place.skip (place.rest.takeWhile isSpace).length

def hexDigit? (character : Char) : Option Nat :=
  if '0' ≤ character ∧ character ≤ '9' then some (character.toNat - '0'.toNat)
  else if 'a' ≤ character ∧ character ≤ 'f' then some (character.toNat - 'a'.toNat + 10)
  else if 'A' ≤ character ∧ character ≤ 'F' then some (character.toNat - 'A'.toNat + 10)
  else none

def unit? (digits : List Char) : Option Nat :=
  if digits.length = 4 then
    digits.foldl (fun number digit => do return 16 * (← number) + (← hexDigit? digit)) (some 0)
  else none

/-- The character of a code unit that stands alone; half of a pair is not a character. -/
def unitCharacter (unit : Nat) : Char :=
  if 0xd800 ≤ unit ∧ unit < 0xe000 then '\ufffd' else Char.ofNat unit

def pairCharacter (high low : Nat) : Char :=
  Char.ofNat (0x10000 + (high - 0xd800) * 0x400 + (low - 0xdc00))

def escaped? : Char → Option Char
  | '"' => some '"'
  | '\\' => some '\\'
  | '/' => some '/'
  | 'b' => some '\x08'
  | 'f' => some '\x0c'
  | 'n' => some '\n'
  | 'r' => some '\x0d'
  | 't' => some '\t'
  | _ => none

/-- A four-digit escape whose digits start the text: its character and the characters it takes up.
A high unit joins with a low one that follows at once and does not end the document. -/
def readUnit (digits : List Char) (offset : Nat) : Except Fault (Char × Nat) :=
  if digits.length ≤ 4 then .error ⟨.unicodeEscape, offset - 1⟩
  else
    match unit? (digits.take 4) with
    | none => .error ⟨.unicodeEscape, offset - 1⟩
    | some high =>
        let after := digits.drop 4
        if 0xd800 ≤ high ∧ high < 0xdc00 ∧ 6 < after.length ∧ after.take 2 = ['\\', 'u'] then
          match unit? ((after.drop 2).take 4) with
          | none => .error ⟨.unicodeEscape, offset + 5⟩
          | some low =>
              if 0xdc00 ≤ low ∧ low < 0xe000 then .ok (pairCharacter high low, 10)
              else .ok (unitCharacter high, 4)
        else .ok (unitCharacter high, 4)

/-- The text up to the closing quotation mark, with at most `fuel` characters and escapes. -/
def readText (start : Nat) : Nat → List Char → Place → Except Fault (String × Place)
  | 0, _, _ => .error ⟨.unterminated, start⟩
  | fuel + 1, reversed, place =>
      match place.rest with
      | [] => .error ⟨.unterminated, start⟩
      | '"' :: _ => .ok (String.ofList reversed.reverse, place.skip 1)
      | '\\' :: rest =>
          match rest with
          | [] => .error ⟨.unterminated, start⟩
          | 'u' :: digits => do
              let (character, count) ← readUnit digits (place.offset + 2)
              readText start fuel (character :: reversed) (place.skip (2 + count))
          | letter :: _ =>
              match escaped? letter with
              | some character => readText start fuel (character :: reversed) (place.skip 2)
              | none => .error ⟨.escape, place.offset⟩
      | character :: _ =>
          if character.toNat < 0x20 then .error ⟨.controlCharacter, place.offset⟩
          else readText start fuel (character :: reversed) (place.skip 1)

/-- The characters of a numeral: its sign, whole digits, fraction digits and exponent. -/
structure Numeral where
  negative : Bool
  whole : List Char
  fraction : List Char
  exponent : Option Int
  length : Nat

/-- The exponent behind a numeral, if a letter and a digit follow. -/
def readExponent (rest : List Char) : Option (Int × Nat) :=
  match rest with
  | letter :: rest =>
      if letter = 'e' ∨ letter = 'E' then
        let negative := rest.head? = some '-'
        let signs := if negative ∨ rest.head? = some '+' then 1 else 0
        let digits := (rest.drop signs).takeWhile Char.isDigit
        if digits.isEmpty then none
        else
          let size : Int := Number.ofDigits digits
          some (if negative then -size else size, 1 + signs + digits.length)
      else none
  | [] => none

/-- The numeral at the start of the text. A leading zero stands alone. -/
def readNumeral? (rest : List Char) : Option Numeral :=
  let negative := rest.head? = some '-'
  let signs := if negative then 1 else 0
  let body := rest.drop signs
  let whole :=
    if body.head? = some '0' then ['0'] else body.takeWhile Char.isDigit
  if whole.isEmpty then none
  else
    let behind := body.drop whole.length
    let fraction :=
      if behind.head? = some '.' then (behind.drop 1).takeWhile Char.isDigit else []
    let fractionLength := if fraction.isEmpty then 0 else fraction.length + 1
    let (exponent, exponentLength) :=
      match readExponent (behind.drop fractionLength) with
      | some (exponent, length) => (some exponent, length)
      | none => (none, 0)
    some ⟨negative, whole, fraction, exponent,
      signs + whole.length + fractionLength + exponentLength⟩

/-- The number of a numeral: an integer, or a double if it has a fraction or an exponent. -/
def Numeral.toDatum (numeral : Numeral) : Except Problem Datum :=
  if numeral.fraction.isEmpty && numeral.exponent.isNone then
    if digitLimit < numeral.whole.length then .error (.digits numeral.whole.length)
    else
      let size : Int := Number.ofDigits numeral.whole
      .ok (.int (if numeral.negative then -size else size))
  else
    .ok (.float (Number.ofDecimal numeral.negative
      (Number.ofDigits (numeral.whole ++ numeral.fraction))
      (numeral.exponent.getD 0 - numeral.fraction.length)))

def words : List (String × Datum) := [
  ("null", .null), ("true", .bool true), ("false", .bool false), ("NaN", .float (0.0 / 0.0)),
  ("Infinity", .float (1.0 / 0.0)), ("-Infinity", .float (-1.0 / 0.0))]

def readWord? (rest : List Char) : Option (Datum × Nat) :=
  (words.find? fun word => word.1.toList.isPrefixOf rest).map fun word =>
    (word.2, word.1.length)

mutual

/-- The value at a place, with at most `depth` arrays and objects inside each other. -/
def readValue : Nat → Nat → Place → Except Fault (Datum × Place)
  | 0, _, place => .error ⟨.value, place.offset⟩
  | fuel + 1, depth, place =>
      match place.rest with
      | '"' :: rest => do
          let (text, place) ← readText place.offset (rest.length + 1) [] (place.skip 1)
          return (.text text, place)
      | '\x7b' :: _ =>
          let inner := (place.skip 1).skipSpaces
          if depth = 0 then .error ⟨.depth "object", place.offset⟩
          else if inner.rest.head? = some '\x7d' then .ok (.mapping [], inner.skip 1)
          else do
            let (entries, place) ← readMembers fuel (depth - 1) [] inner
            return (.mapping entries, place)
      | '[' :: _ =>
          let inner := (place.skip 1).skipSpaces
          if depth = 0 then .error ⟨.depth "array", place.offset⟩
          else if inner.rest.head? = some ']' then .ok (.list [], inner.skip 1)
          else do
            let (items, place) ← readItems fuel (depth - 1) inner
            return (.list items, place)
      | rest =>
          match readWord? rest with
          | some (value, length) => .ok (value, place.skip length)
          | none =>
              match readNumeral? rest with
              | some numeral =>
                  match numeral.toDatum with
                  | .ok value => .ok (value, place.skip numeral.length)
                  | .error problem => .error ⟨problem, place.offset⟩
              | none => .error ⟨.value, place.offset⟩

/-- The members of an object up to its closing brace, added to those before. -/
def readMembers : Nat → Nat → List (Datum × Datum) → Place →
    Except Fault (List (Datum × Datum) × Place)
  | 0, _, _, place => .error ⟨.value, place.offset⟩
  | fuel + 1, depth, before, place =>
      match place.rest with
      | '"' :: rest => do
          let (name, place) ← readText place.offset (rest.length + 1) [] (place.skip 1)
          let place := place.skipSpaces
          if place.rest.head? ≠ some ':' then .error ⟨.colon, place.offset⟩
          else
            let (value, place) ← readValue fuel depth (place.skip 1).skipSpaces
            let entries := Datum.putEntry before (.text name) value
            let place := place.skipSpaces
            match place.rest with
            | '\x7d' :: _ => .ok (entries, place.skip 1)
            | ',' :: _ => readMembers fuel depth entries (place.skip 1).skipSpaces
            | _ => .error ⟨.comma, place.offset⟩
      | _ => .error ⟨.propertyName, place.offset⟩

def readItems : Nat → Nat → Place → Except Fault (List Datum × Place)
  | 0, _, place => .error ⟨.value, place.offset⟩
  | fuel + 1, depth, place => do
      let (value, place) ← readValue fuel depth place
      let place := place.skipSpaces
      match place.rest with
      | ']' :: _ => .ok ([value], place.skip 1)
      | ',' :: _ => do
          let (items, place) ← readItems fuel depth (place.skip 1).skipSpaces
          return (value :: items, place)
      | _ => .error ⟨.comma, place.offset⟩

end

/-- Reads a document: one value with spaces around it and nothing else. Two steps for each
character are enough, since every nested value takes up at least one. -/
def read (document : String) : Except Fault Datum :=
  let characters := document.toList
  if characters.head? = some '\ufeff' then .error ⟨.byteOrderMark, 0⟩
  else do
    let (value, place) ←
      readValue (2 * characters.length + 2) depthLimit (Place.mk characters 0).skipSpaces
    let place := place.skipSpaces
    if place.rest.isEmpty then .ok value else .error ⟨.extraData, place.offset⟩

end Colloquy.Json
