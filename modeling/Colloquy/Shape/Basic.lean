import Colloquy.Datum.Equality
import Colloquy.Datum.Shown

/-!
# Shapes of structured data

A `Shape` names the fields that a tool's arguments or result must have, and the type of each.
-/

set_option autoImplicit false

namespace Colloquy

/-- What is known of a field besides its type. A field without a default is required. -/
structure FieldInfo where
  name : String
  fallback : Option Datum
  description : Option String
  least : Option Datum
  greatest : Option Datum
  shortest : Option Nat
  /-- The greatest length of a text, or number of parts. -/
  longest : Option Nat

def FieldInfo.unbounded (name : String) : FieldInfo :=
  ⟨name, none, none, none, none, none, none⟩

inductive FieldType where
  | text
  | integer
  | number
  | truth
  | any
  | list (item : FieldType)
  | dictionary (value : FieldType)
  | optional (type : FieldType)
  | literal (values : List Datum)
  | shape (name : String) (doc : Option String) (fields : List (FieldInfo × FieldType))

structure Shape where
  name : String
  doc : Option String
  fields : List (FieldInfo × FieldType)

def Shape.fieldNames (shape : Shape) : List String :=
  shape.fields.map fun field => field.1.name

def Shape.hasFields : Option Shape → Bool
  | some shape => !shape.fields.isEmpty
  | none => false

def Shape.type (shape : Shape) : FieldType :=
  .shape shape.name shape.doc shape.fields

def FieldType.declared : FieldType → Declared
  | .integer => .integer
  | .number => .number
  | .list item => .items item.declared
  | .dictionary value => .values value.declared
  | .optional type => type.declared
  | _ => .other

def FieldInfo.signature (info : FieldInfo) : String :=
  let shown (value : Option Datum) : String := (value.map Datum.shown).getD "-"
  let number (value : Option Nat) : String := shown (value.map fun length => .int length)
  " ".intercalate [Text.quoted info.name, shown info.fallback,
    shown (info.description.map .text), shown info.least, shown info.greatest,
    number info.shortest, number info.longest]

mutual

def FieldType.signature : FieldType → String
  | .text => "text"
  | .integer => "integer"
  | .number => "number"
  | .truth => "truth"
  | .any => "any"
  | .list item => "list(" ++ item.signature ++ ")"
  | .dictionary value => "dictionary(" ++ value.signature ++ ")"
  | .optional type => "optional(" ++ type.signature ++ ")"
  | .literal values => "literal" ++ (Datum.list values).shown
  | .shape name doc fields =>
      "shape(" ++ Text.quoted name ++ (Datum.ofText? doc).shown ++
        FieldType.fieldsSignature fields ++ ")"

def FieldType.fieldsSignature : List (FieldInfo × FieldType) → String
  | [] => ""
  | (info, type) :: fields =>
      "; " ++ info.signature ++ " " ++ type.signature ++ FieldType.fieldsSignature fields

end

def ShapeTag.ofShape (name : String) (doc : Option String)
    (fields : List (FieldInfo × FieldType)) : ShapeTag :=
  ⟨name, (Datum.ofText? doc).shown ++ FieldType.fieldsSignature fields,
    fields.map fun (info, type) => (info.name, type.declared)⟩

def Shape.tag (shape : Shape) : ShapeTag := .ofShape shape.name shape.doc shape.fields

/-- The fields of a shape, of which the last one of each name counts, in the place of the first. -/
def Shape.ofFields (name : String) (doc : Option String) (fields : List (FieldInfo × FieldType)) :
    Shape :=
  let places := (fields.map fun field => field.1.name).eraseDups
  ⟨name, doc, places.filterMap fun place =>
    fields.reverse.find? fun field => field.1.name = place⟩

inductive PathStep where
  | key (name : String)
  | index (position : Int)
  deriving Repr, DecidableEq

inductive Misfit where
  | missing
  | stringType
  | integerType
  | integerParsing
  | integerParsingSize
  | integerFromFloat
  | finiteNumber
  | floatType
  | floatParsing
  | truthType
  | truthParsing
  | listType
  | dictionaryType
  | literal
  | choice
  | shapeType
  | belowLeast
  | aboveGreatest
  | tooShort
  | tooLong
  | tooFew
  | tooMany
  | boundless (remark : String)
  deriving Repr, DecidableEq

def Misfit.remark? : Misfit → Option String
  | boundless remark => some remark
  | _ => none

/-- A value that does not fit, at the end of a path from the outermost value. -/
structure FieldFault where
  misfit : Misfit
  path : List PathStep
  deriving Repr, DecidableEq

def FieldFault.under (step : PathStep) (fault : FieldFault) : FieldFault :=
  ⟨fault.misfit, step :: fault.path⟩

abbrev Fitted (α : Type) := Except (List FieldFault) α

namespace Fitted

def misfit {α : Type} (misfit : Misfit) : Fitted α :=
  .error [⟨misfit, []⟩]

def under {α : Type} (step : PathStep) (fitted : Fitted α) : Fitted α :=
  fitted.mapError fun faults => faults.map (FieldFault.under step)

def both {α β : Type} (first : Fitted α) (second : Fitted β) : Fitted (α × β) :=
  match first, second with
  | .ok left, .ok right => .ok (left, right)
  | .ok _, .error faults => .error faults
  | .error faults, .ok _ => .error faults
  | .error before, .error after => .error (before ++ after)

/-- Applies a fitted function to a fitted value, the faults of both being kept in order. -/
def apply {α β : Type} (first : Fitted (α → β)) (second : Fitted α) : Fitted β :=
  (first.both second).map fun pair => pair.1 pair.2

end Fitted

end Colloquy
