import Colloquy.Datum.Basic

/-!
# Equality of data

Numbers are equal by value whatever their type, truth values counting as one and zero; mappings are
equal whatever their order. Mapping keys are looked up by this equality.
-/

set_option autoImplicit false

namespace Colloquy

/-- A number read off a datum: exact, infinite, or not a number. -/
inductive Quantity where
  | exact (value : Rat)
  | infinite (negative : Bool)
  | notANumber
  deriving DecidableEq

namespace Quantity

def ofFloat (value : Float) : Quantity :=
  match Number.Binary64.ofFloat value with
  | .notANumber => .notANumber
  | .infinite negative => .infinite negative
  | .finite negative significand exponent =>
      let magnitude : Rat := (significand : Rat) * (2 : Rat) ^ exponent
      .exact (if negative then -magnitude else magnitude)

def ofNumeral : Number.Numeral → Quantity
  | .infinite negative => .infinite negative
  | numeral =>
      match numeral.value? with
      | some value => .exact value
      | none => .notANumber

/-- Equality of numbers; what is not a number equals nothing. -/
def equal : Quantity → Quantity → Bool
  | exact left, exact right => left == right
  | infinite left, infinite right => left == right
  | _, _ => false

/-- Strict order of numbers; what is not a number is below nothing and above nothing. -/
def less : Quantity → Quantity → Bool
  | exact left, exact right => left < right
  | exact _, infinite negative => !negative
  | infinite negative, exact _ => negative
  | infinite left, infinite right => left && !right
  | _, _ => false

end Quantity

namespace Datum

/-- The number a datum stands for; truth values count as one and zero. -/
def quantity? : Datum → Option Quantity
  | bool value => some (.exact (if value then 1 else 0))
  | int value => some (.exact value)
  | float value => some (.ofFloat value)
  | decimal value => some (.ofNumeral value)
  | _ => none

/-- The integer that a value is; truth values count as one and zero. -/
def integer? : Datum → Option Int
  | int value => some value
  | bool value => some (if value then 1 else 0)
  | _ => none

mutual

def equal : Datum → Datum → Bool
  | null, other => other.isNull
  | bool value, other => numberEqual (.exact (if value then 1 else 0)) other
  | int value, other => numberEqual (.exact value) other
  | float value, other => numberEqual (.ofFloat value) other
  | text value, other => match other with
      | text otherValue => value == otherValue
      | _ => false
  | list items, other => match other with
      | list otherItems => equalAll items otherItems
      | _ => false
  | tuple items, other => match other with
      | tuple otherItems => equalAll items otherItems
      | _ => false
  | mapping entries, other => match other with
      | mapping otherEntries =>
          entries.length == otherEntries.length && equalEntries entries otherEntries
      | _ => false
  | bytes value, other => match other with
      | bytes otherValue => value == otherValue
      | _ => false
  | decimal value, other => numberEqual (.ofNumeral value) other
  | date value, other => match other with
      | date otherValue => value == otherValue
      | _ => false
  | object kind fields, other => match other with
      | object otherKind otherFields =>
          decide (kind = otherKind) && fields.length == otherFields.length &&
            equalFields fields otherFields
      | _ => false

def numberEqual (number : Quantity) (other : Datum) : Bool :=
  match other.quantity? with
  | some otherNumber => number.equal otherNumber
  | none => false

def equalAll : List Datum → List Datum → Bool
  | [], others => others.isEmpty
  | item :: items, others => match others with
      | other :: rest => equal item other && equalAll items rest
      | [] => false

def equalEntries : List (Datum × Datum) → List (Datum × Datum) → Bool
  | [], _ => true
  | (key, value) :: entries, others =>
      others.any (fun other => equal key other.1 && equal value other.2) &&
        equalEntries entries others

def equalFields : List (String × Datum) → List (String × Datum) → Bool
  | [], _ => true
  | (name, value) :: fields, others =>
      others.any (fun other => name == other.1 && equal value other.2) &&
        equalFields fields others

end

mutual

/-- Why a value cannot be a key, if so: it, or a part of it, might change. -/
def keyFault? : Datum → Option String
  | list _ => some "unhashable type: 'list'"
  | mapping _ => some "unhashable type: 'dict'"
  | object .bundle _ => some "unhashable type: 'types.SimpleNamespace'"
  | object (.instance tag) _ => some ("unhashable type: '" ++ tag.name ++ "'")
  | object (.marker _ _) _ => none
  | object (.record _) fields => fieldKeyFault? fields
  | object (.node _) fields => fieldKeyFault? fields
  | tuple items => itemKeyFault? items
  | decimal (.notANumber _ true _) => some "Cannot hash a signaling NaN value"
  | _ => none

def itemKeyFault? : List Datum → Option String
  | [] => none
  | item :: items => item.keyFault?.or (itemKeyFault? items)

def fieldKeyFault? : List (String × Datum) → Option String
  | [] => none
  | (_, value) :: fields => value.keyFault?.or (fieldKeyFault? fields)

end

/-- Adds an entry to a mapping. An equal key keeps its place and its spelling and takes the value. -/
def putEntry {α : Type} : List (Datum × α) → Datum → α → List (Datum × α)
  | [], key, value => [(key, value)]
  | (other, old) :: rest, key, value =>
      if other.equal key then (other, value) :: rest else (other, old) :: putEntry rest key value

def mergeEntries {α : Type} (entries newer : List (Datum × α)) : List (Datum × α) :=
  newer.foldl (fun merged entry => putEntry merged entry.1 entry.2) entries

/-- The entries with equal keys joined, in order of the first of each. -/
def joinEntries {α : Type} (entries : List (Datum × α)) : List (Datum × α) :=
  mergeEntries [] entries

def dropEntry (entries : Entries) (key : Datum) : Entries :=
  entries.filter fun entry => !entry.1.equal key

def entry? (entries : List (Datum × Datum)) (key : Datum) : Option Datum :=
  (entries.find? fun entry => entry.1.equal key).map (·.2)

def get? (datum : Datum) (name : String) : Option Datum :=
  match datum with
  | mapping entries => entry? entries (text name)
  | _ => none

def fields? : Datum → Option Fields
  | mapping entries => entries.mapM fun entry => entry.1.text?.map fun name => (name, entry.2)
  | _ => none

end Datum

end Colloquy
