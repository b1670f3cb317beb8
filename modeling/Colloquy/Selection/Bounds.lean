import Colloquy.Selection.Range

/-!
# Bounds and counts given as values

Authors give the bounds of a range and the size of a sample as values. Bounds that are integers lead
to the integers between them; with a double among them the place is found with doubles, and counted
from the lower bound. Whatever else has an order is found out only after the draw.
-/

set_option autoImplicit false

namespace Colloquy.Selection

/-- The error of arithmetic that two types of values do not support. -/
def noArithmetic {α : Type} (sign left right : String) : Except Error α :=
  .error (.unsupported .type
    ("unsupported operand type(s) for " ++ sign ++ ": '" ++ left ++ "' and '" ++ right ++ "'"))

def notInteger {α : Type} (value : Datum) : Except Error α :=
  .error (.unsupported .type
    ("'" ++ value.typePath ++ "' object cannot be interpreted as an integer"))

def asDouble (value : Datum) : Except Error Float :=
  match value with
  | .float number => .ok number
  | other =>
      match other.integer?.bind Number.ofInt? with
      | some number => .ok number
      | none => .error (.unsupported .overflow "int too large to convert to float")

/-- A place counted from a bound, as a double if the bound is one. -/
def countedFrom (minimum : Datum) (place : Int) : Except Error Datum :=
  match minimum with
  | .float number => do return .float ((← asDouble (.int place)) + number)
  | other => .ok (.int (place + other.integer?.getD 0))

def placeBetween (minimum maximum : Datum) (draw : Float) : Except Error Datum := do
  let width := (← asDouble maximum) - (← asDouble minimum) + 1.0
  countedFrom minimum (← wholePart Arithmetic.floor? (draw * width))

/-- Whether a value is a number without a point of its own: an integer, a truth value or a double. -/
def isBinary (value : Datum) : Bool :=
  match value with
  | .float _ => true
  | other => other.integer?.isSome

def isExact (value : Datum) : Bool := value.isDecimal || value.integer?.isSome

/-- The value that a draw leads to between bounds that are in order. -/
def valueBetween (minimum maximum : Datum) (draw : Float) : Except Error Datum :=
  match minimum.integer?, maximum.integer? with
  | some lowest, some highest => return .int (← placeInRange lowest highest draw)
  | _, _ =>
      if isBinary minimum && isBinary maximum then placeBetween minimum maximum draw
      else if isExact minimum && isExact maximum then noArithmetic "*" "float" "decimal.Decimal"
      else
        match minimum, maximum with
        | .date _, .date _ => noArithmetic "+" "datetime.timedelta" "int"
        | _, _ => noArithmetic "-" maximum.typePath minimum.typePath

def betweenBounds (minimum maximum : Datum) : Drawing Float (Except Error Datum) :=
  match Datum.ordered .above minimum maximum with
  | .error error => .done (.error error)
  | .ok true => .done (.error (.emptyRange minimum maximum))
  | .ok false => .draw fun value => .done (valueBetween minimum maximum value)

/-- The size of a sample of some items: as many as asked for, but not more than there are. -/
def sampleSize (count : Datum) (available : Nat) : Except Error Int := do
  if ← count.ordered .atMost (.int 0) then return 0
  else if ← Datum.ordered .below (.int available) count then return available
  else
    match count.integer? with
    | some size => return size
    | none => notInteger count

def sampleOf {α : Type} (count : Datum) (items : List α) :
    Drawing Float (Except Error (List α)) :=
  match sampleSize count items.length with
  | .error error => .done (.error error)
  | .ok size => sample size items

end Colloquy.Selection
