import Colloquy.Datum.Equality
import Colloquy.Error.Basic

/-!
# Order of data

Numbers are ordered by value whatever their type, texts, bytes and dates among themselves, lists
and tuples by their first items that differ. Asking for the order of anything else is an error.
-/

set_option autoImplicit false

namespace Colloquy

/-- How two numbers are ordered, unless one of them is not a number. -/
def Quantity.compare? (left right : Quantity) : Option Ordering :=
  if left.less right then some .lt
  else if right.less left then some .gt
  else if left.equal right then some .eq
  else none

/-- A question about the order of two values. -/
inductive Comparison where
  | below
  | atMost
  | above
  deriving Repr, DecidableEq

namespace Comparison

def sign : Comparison → String
  | below => "<"
  | atMost => "<="
  | above => ">"

/-- The answer to a question about values that are ordered in some way. -/
def holds : Comparison → Ordering → Bool
  | below, ordering => ordering.isLT
  | atMost, ordering => ordering.isLE
  | above, ordering => ordering.isGT

end Comparison

namespace Datum

def isDecimal : Datum → Bool
  | decimal _ => true
  | _ => false

def noOrder {α : Type} (question : Comparison) (left right : Datum) : Except Error α :=
  .error (.unsupported .type ("'" ++ question.sign ++ "' not supported between instances of '" ++
    left.typePath ++ "' and '" ++ right.typePath ++ "'"))

/-- The error of an operation on decimal numbers that has no result. -/
def noDecimal {α : Type} : Except Error α :=
  .error (.unsupported .decimal "[<class 'decimal.InvalidOperation'>]")

/-- The answer to a question about values that have to be numbers. No order holds of what is not a
number, and decimal numbers do not even let one ask. -/
def numbersOrdered (question : Comparison) (left right : Datum) : Except Error Bool :=
  match left.quantity?, right.quantity? with
  | some first, some second =>
      match first.compare? second with
      | some ordering => .ok (question.holds ordering)
      | none => if left.isDecimal || right.isDecimal then noDecimal else .ok false
  | _, _ => noOrder question left right

mutual

def ordered (question : Comparison) : Datum → Datum → Except Error Bool
  | text left, other => match other with
      | text right => .ok (question.holds (compare left right))
      | other => noOrder question (text left) other
  | bytes left, other => match other with
      | bytes right => .ok (question.holds (compare left right))
      | other => noOrder question (bytes left) other
  | date left, other => match other with
      | date right => .ok (question.holds (compare left right))
      | other => noOrder question (date left) other
  | list left, other => match other with
      | list right => orderedItems question left right
      | other => noOrder question (list left) other
  | tuple left, other => match other with
      | tuple right => orderedItems question left right
      | other => noOrder question (tuple left) other
  | left, other => numbersOrdered question left other

def orderedItems (question : Comparison) : List Datum → List Datum → Except Error Bool
  | [], others => .ok (question.holds (compare 0 others.length))
  | item :: items, others => match others with
      | [] => .ok (question.holds .gt)
      | other :: rest =>
          if item.equal other then orderedItems question items rest else ordered question item other

end

end Datum

end Colloquy
