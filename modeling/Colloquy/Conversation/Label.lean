import Colloquy.Conversation.Basic
import Colloquy.Conversation.Identity
import Colloquy.Datum.Sum

/-!
# Ids and previews from values

Callers hand seeds and limits over as values. An integer seed is what ids are made for; other
numbers have ids as far as arithmetic goes, and what is no number has none.
-/

set_option autoImplicit false

namespace Colloquy

/-- The seed of the row at an offset from a base seed. Without a base seed there is none. -/
def seedAt (base offset : Datum) : Except Error Datum :=
  if base.isNull then .ok .null else base.sum offset

def noNumeral {α : Type} (value : Datum) : Except Error α :=
  .error (.unsupported .type
    ("unsupported operand type(s) for divmod(): '" ++ value.typePath ++ "' and 'int'"))

/-- The numeral in base thirty-six of a value: zero is zero whatever its type, and what counts as
absent has no digits. -/
def base36Of (value : Datum) : Except Error String :=
  match value.integer? with
  | some number => .ok (Number.base36 number.toNat)
  | none =>
      if value.equal (.int 0) then .ok (Number.base36 0)
      else if value.isTruthy then noNumeral value
      else .ok ""

def isSpreadToZero (seed : Float) : Bool :=
  match Quantity.ofFloat (seed * Number.ofInt seedMultiplier) with
  | .exact number => number.den = 1 && number.num % 4294967296 = 0
  | _ => false

def rowIdOf (seed : Datum) : Except Error String :=
  let zero : String := "row_" ++ seed.spoken ++ "_" ++ Number.base36 0
  match seed with
  | .int number => .ok (rowId number)
  | .bool flag =>
      .ok ("row_" ++ seed.spoken ++ "_" ++ Number.base36 (if flag then seedMultiplier.toNat else 0))
  | .float number => if isSpreadToZero number then .ok zero else noNumeral seed
  | .decimal number => if number.isZero then .ok zero else noNumeral seed
  | _ => Datum.noOperation "*" seed (.int seedMultiplier)

/-- The id of an entry that is generated, from values of any kind. -/
def generationIdOf (kind seed step : Datum) : String :=
  let digits :=
    if seed.isNull then List.replicate generationIdDigits '0'
    else (Hash.sha256 (seed.spoken ++ ":" ++ step.spoken ++ ":" ++ kind.spoken)).toList
  kind.spoken ++ "_" ++ String.ofList (digits.take generationIdDigits)

/-- The preview of an entry within a limit. Where there is nothing to preview, the limit may be
anything. -/
def PlanEntry.previewWithin (entry : PlanEntry) (limit : Datum) : Except Error String :=
  match limit.integer? with
  | some limit => .ok (entry.preview limit)
  | none =>
      if entry.content.isNull then .ok ""
      else .error (.unsupported .type
        "slice indices must be integers or None or have an __index__ method")

end Colloquy
