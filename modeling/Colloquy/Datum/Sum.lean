import Colloquy.Datum.Order

/-!
# Sums and differences of data

Numbers are added, and texts, bytes, lists and tuples are joined with others of their kind. Nothing
else has a sum, and numbers alone have a difference.
-/

set_option autoImplicit false

namespace Colloquy.Datum

def noOperation {α : Type} (sign : String) (left right : Datum) : Except Error α :=
  .error (.unsupported .type ("unsupported operand type(s) for " ++ sign ++ ": '" ++
    left.typePath ++ "' and '" ++ right.typePath ++ "'"))

def notJoined {α : Type} (left right : Datum) : Except Error α :=
  .error (.unsupported .type ("can only concatenate " ++ left.typeName ++ " (not \"" ++
    right.typePath ++ "\") to " ++ left.typeName))

def double? : Datum → Except Error (Option Float)
  | float number => .ok (some number)
  | other =>
      match other.integer? with
      | none => .ok none
      | some whole =>
          match Number.ofInt? whole with
          | some number => .ok (some number)
          | none => .error (.unsupported .overflow "int too large to convert to float")

/-- The numeral that a number is, if it is an integer or a decimal. -/
def numeral? : Datum → Option Number.Numeral
  | decimal numeral => some numeral
  | other => other.integer?.map fun whole => .finite (whole < 0) whole.natAbs 0

def sumOfDoubles (left right : Datum) : Except Error Datum := do
  match ← left.double?, ← right.double? with
  | some first, some second => return float (first + second)
  | _, _ => noOperation "+" left right

def sumOfDecimals (left right : Datum) : Except Error Datum :=
  match left.numeral?, right.numeral? with
  | some first, some second =>
      match first.sum? second with
      | some sum => .ok (decimal sum)
      | none => noDecimal
  | _, _ => noOperation "+" left right

def sum (left right : Datum) : Except Error Datum :=
  match left, right with
  | text first, text second => .ok (text (first ++ second))
  | bytes first, bytes second => .ok (bytes (first ++ second))
  | list first, list second => .ok (list (first ++ second))
  | tuple first, tuple second => .ok (tuple (first ++ second))
  | text _, _ => notJoined left right
  | list _, _ => notJoined left right
  | tuple _, _ => notJoined left right
  | bytes _, _ =>
      .error (.unsupported .type ("can't concat " ++ right.typePath ++ " to bytes"))
  | float _, _ => sumOfDoubles left right
  | _, float _ => sumOfDoubles left right
  | decimal _, _ => sumOfDecimals left right
  | _, decimal _ => sumOfDecimals left right
  | _, _ =>
      match left.integer?, right.integer? with
      | some first, some second => .ok (int (first + second))
      | _, _ => noOperation "+" left right

def opposite? : Datum → Option Datum
  | float number => some (float (-number))
  | decimal numeral => some (decimal numeral.opposite)
  | other => other.integer?.map fun whole => int (-whole)

def difference (left right : Datum) : Except Error Datum :=
  match left.opposite?, right.opposite? with
  | some _, some opposite => left.sum opposite
  | _, _ => noOperation "-" left right

end Colloquy.Datum
