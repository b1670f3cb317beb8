import Colloquy.Outline.Field
import Colloquy.Schema.Builder

/-!
# Outlines of shapes and tools

A shape is outlined by its name, its fields and perhaps a remark; a type by a word or by a mapping
with a single key that says what it is made of.
-/

set_option autoImplicit false

namespace Colloquy.Outline

def simpleTypes : List (String × FieldType) := [
  ("str", .text), ("int", .integer), ("float", .number), ("bool", .truth), ("any", .any)]

def bound? (outline : Datum) (name : String) : Option Datum :=
  (outline.get? name).filter (!·.isNull)

def infoOf (outline : Datum) : FieldInfo :=
  let length (name : String) : Option Nat :=
    ((bound? outline name).bind Datum.integer?).map Int.toNat
  ⟨fieldText outline "name", outline.get? "default", (field outline "description").text?,
    bound? outline "ge", bound? outline "le", length "min_length", length "max_length"⟩

/-- Whether a value can be a bound of a type: integers have integers, numbers have doubles. -/
def admitsBound : FieldType → Datum → Bool
  | .integer, bound => bound.integer?.isSome
  | .number, .int bound => (Number.ofInt? bound).isSome
  | .number, bound => bound.quantity?.isSome
  | .optional type, bound => admitsBound type bound
  | _, _ => true

def admitsLength : FieldType → Datum → Bool
  | .optional type, length => admitsLength type length
  | .text, length => length.integer?.any (0 ≤ ·)
  | .list _, length => length.integer?.any (0 ≤ ·)
  | .dictionary _, length => length.integer?.any (0 ≤ ·)
  | _, _ => true

/-- Refuses a field whose type cannot have the bounds that the outline gives. -/
def checkBounds (type : FieldType) (outline : Datum) : Except Error Unit :=
  if ["ge", "le"].all (fun name => (bound? outline name).all (admitsBound type)) &&
      ["min_length", "max_length"].all (fun name =>
        (bound? outline name).all (admitsLength type)) then .ok ()
  else .error (.unsupported .unsoundShape "Error building validator")

/-- A type or null; what may be null already stays as it is. -/
def optionalOf : FieldType → FieldType
  | .optional type => .optional type
  | type => .optional type

/-- The values of a literal, each of which counts once; values of different types differ. -/
def literalValues : List Datum → List Datum
  | [] => []
  | value :: values =>
      value :: (literalValues values).filter fun other =>
        !(other.typeName == value.typeName && other.equal value)

mutual

def typeWithin : Nat → Datum → Except Error FieldType
  | 0, .text word => simpleType word
  | 0, _ => senseless "type"
  | _ + 1, .text word => simpleType word
  | depth + 1, outline =>
      match tag? outline with
      | some ("list", item) => (typeWithin depth item).map .list
      | some ("dict", item) => (typeWithin depth item).map .dictionary
      | some ("optional", type) => (typeWithin depth type).map optionalOf
      | some ("literal", values) => .ok (.literal (literalValues (itemsOf values)))
      | some ("model", shape) => (shapeWithin depth shape).map Shape.type
      | _ => senseless "type"
where
  simpleType (word : String) : Except Error FieldType :=
    match simpleTypes.lookup word with
    | some type => .ok type
    | none => .error (.raised .key (.text word))

def shapeWithin : Nat → Datum → Except Error Shape
  | 0, _ => senseless "shape"
  | depth + 1, outline => do
      let fields ← (itemsOf (field outline "fields")).mapM fun entry => do
        let type ← typeWithin depth (field entry "type")
        checkBounds type entry
        return (infoOf entry, type)
      return Shape.ofFields (fieldText outline "name") (field outline "doc").text? fields

end

def shape (outline : Datum) : Except Error Shape := shapeWithin (outline.depth + 1) outline

def shape? (outline : Datum) : Except Error (Option Shape) :=
  if outline.isNull then .ok none else (shape outline).map some

def tool (outline : Datum) : Except Error ToolDefinition := do
  let parameters ← shape? (field outline "parameters")
  let output ← shape? (field outline "output")
  ToolDefinition.make (fieldText outline "name") (fieldText outline "description") parameters output

end Colloquy.Outline
