import Colloquy.Datum.Order
import Colloquy.Shape.Scalar

/-!
# Fitting data to shapes

Data fits a shape if every field has a value of its type; unknown fields are dropped, absent ones
take their default. All faults are reported, in the order of the fields and of the items in them.
-/

set_option autoImplicit false

namespace Colloquy

def FieldInfo.bounded (info : FieldInfo) (value : Datum) : Fitted Datum :=
  let beyond (bound : Option Datum) (test : Quantity → Quantity → Bool) : Bool :=
    match bound.bind Datum.quantity?, value.quantity? with
    | some limit, some quantity => !test limit quantity
    | _, _ => false
  let notAbove (limit quantity : Quantity) := quantity.less limit || quantity.equal limit
  let notBelow (limit quantity : Quantity) := limit.less quantity || limit.equal quantity
  if beyond info.greatest notAbove then .misfit .aboveGreatest
  else if beyond info.least notBelow then .misfit .belowLeast
  else .ok value

def FieldInfo.measured (info : FieldInfo) (value : String) : Fitted Datum :=
  if (info.shortest.map fun shortest => decide (value.length < shortest)) = some true then
    .misfit .tooShort
  else if (info.longest.map fun longest => decide (longest < value.length)) = some true then
    .misfit .tooLong
  else .ok (.text value)

def FieldInfo.notCrowded (info : FieldInfo) (size : Nat) : Fitted Unit :=
  if info.longest.any (· < size) then .misfit .tooMany else .ok ()

def FieldInfo.notSparse (info : FieldInfo) (size : Nat) : Fitted Unit :=
  if info.shortest.any (size < ·) then .misfit .tooFew else .ok ()

/-- The misfit of a value that a bound of that name cannot be held against. -/
def Fit.boundless {α : Type} (bound : String) (value : Datum) : Fitted α :=
  .misfit (.boundless
    ("Unable to apply constraint '" ++ bound ++ "' to supplied value " ++ value.spoken))

/-- A value within the bounds of a field, for a type to which numbers do not belong. -/
def FieldInfo.ordered (info : FieldInfo) (value : Datum) : Fitted Datum := do
  let hold (bound : String) (limit : Option Datum) (misfit : Misfit)
      (below : Datum → Except Error Bool) : Fitted Unit :=
    match limit.map below with
    | none => .ok ()
    | some (.ok true) => .ok ()
    | some (.ok false) => .misfit misfit
    | some (.error _) => Fit.boundless bound value
  hold "ge" info.least .belowLeast fun limit => limit.ordered .atMost value
  hold "le" info.greatest .aboveGreatest fun limit => value.ordered .atMost limit
  return value

/-- A value within the lengths of a field, for a type to which no length belongs. -/
def FieldInfo.sized (info : FieldInfo) (value : Datum) : Fitted Datum :=
  match value.size? with
  | some size => do
      info.notSparse size
      info.notCrowded size
      return value
  | none =>
      if info.shortest.isSome then Fit.boundless "min_length" value
      else if info.longest.isSome then Fit.boundless "max_length" value
      else .ok value

/-- Whether a literal is of the types that are looked for first: texts, integers, truth values. -/
def Datum.isPlainLiteral : Datum → Bool
  | .text _ => true
  | .int _ => true
  | .bool _ => true
  | _ => false

/-- The value of a literal that a value is: the one of its own type if there is one; else the last
equal one, where those that are neither texts nor integers go first. -/
def literalOf? (values : List Datum) (value : Datum) : Option Datum :=
  let last (test : Datum → Bool) : Option Datum :=
    values.reverse.find? fun known => test known && known.equal value
  let same := last fun known => known.isPlainLiteral && known.typeName == value.typeName
  let other := last fun known => known.typeName != "str" && known.typeName != "int"
  (same.or other).or (last Datum.isPlainLiteral)

/-- The step to the value under a mapping key: texts by themselves, short integers by position, and
other keys as they are shown. -/
def PathStep.ofKey : Datum → PathStep
  | .text name => .key name
  | .int number => if Fit.isShort number then .index number else .key (toString number)
  | .bool value => .index (if value then 1 else 0)
  | other => .key other.shown

def Fit.key (key : Datum) : Fitted String :=
  (Fit.text key).under (.key "[key]")

mutual

def FieldType.fit (info : FieldInfo) : FieldType → Datum → Fitted Datum
  | .text, value => do info.ordered (← info.measured (← Fit.text value))
  | .integer, value => do info.sized (← info.bounded (.int (← Fit.integer value)))
  | .number, value => do info.sized (← info.bounded (.float (← Fit.number value)))
  | .truth, value => do info.sized (← info.ordered (.bool (← Fit.truth value)))
  | .any, value => do info.sized (← info.ordered value)
  | .list item, value =>
      match value.sequence? with
      | some items => do
          info.notCrowded items.length
          let fitted ← FieldType.fitItems (.unbounded info.name) item 0 items
          info.notSparse items.length
          info.ordered (.list fitted)
      | none => .misfit .listType
  | .dictionary type, value =>
      match value with
      | .mapping entries => do
          let fitted := Datum.joinEntries
            (← FieldType.fitEntries (.unbounded info.name) type entries)
          info.notSparse fitted.length
          info.notCrowded fitted.length
          info.ordered (.mapping fitted)
      | _ => .misfit .dictionaryType
  | .optional type, value => if value.isNull then .ok .null else FieldType.fit info type value
  | .literal values, value =>
      match literalOf? values value with
      | some known => do info.sized (← info.ordered known)
      | none => .misfit .literal
  | .shape name doc fields, value =>
      let tag := ShapeTag.ofShape name doc fields
      let found : Fitted Datum :=
        match value with
        | .mapping _ => (FieldType.fitFields value fields).map (.object (.instance tag))
        | .object (.instance other) known =>
            if other = tag then .ok (.object (.instance other) known) else .misfit .shapeType
        | _ => .misfit .shapeType
      do info.sized (← info.ordered (← found))

def FieldType.fitItems (info : FieldInfo) (type : FieldType) (position : Nat) :
    List Datum → Fitted (List Datum)
  | [] => .ok []
  | item :: items =>
      (((FieldType.fit info type item).under (.index position)).both
        (FieldType.fitItems info type (position + 1) items)).map fun pair => pair.1 :: pair.2

/-- The entries of a mapping with text keys and values of one type. -/
def FieldType.fitEntries (info : FieldInfo) (type : FieldType) :
    List (Datum × Datum) → Fitted (List (Datum × Datum))
  | [] => .ok []
  | (key, value) :: entries =>
      let step := PathStep.ofKey key
      ((((Fit.key key).under step).both ((FieldType.fit info type value).under step)).both
        (FieldType.fitEntries info type entries)).map fun pair =>
          (.text pair.1.1, pair.1.2) :: pair.2

def FieldType.fitFields (value : Datum) : List (FieldInfo × FieldType) → Fitted Fields
  | [] => .ok []
  | (info, type) :: fields =>
      let found : Fitted Datum :=
        match value.get? info.name with
        | some given => (FieldType.fit info type given).under (.key info.name)
        | none =>
            match info.fallback with
            | some fallback => .ok fallback
            | none => (Fitted.misfit .missing).under (.key info.name)
      (found.both (FieldType.fitFields value fields)).map fun pair =>
        (info.name, pair.1) :: pair.2

end

def Shape.fit (shape : Shape) (value : Datum) : Fitted Datum :=
  FieldType.fit (.unbounded shape.name) shape.type value

mutual

/-- A value in which validated data and records have become mappings. -/
def Datum.unfolded : Datum → Datum
  | .list items => .list (unfoldedAll items)
  | .tuple items => .tuple (unfoldedAll items)
  | .mapping entries => .mapping (unfoldedEntries entries)
  | .object (.instance _) fields => .mapping (unfoldedFields fields)
  | .object (.record _) fields => .mapping (unfoldedFields fields)
  | .object (.node _) fields => .mapping (unfoldedFields fields)
  | other => other

/-- Values in which validated data and records have become mappings. -/
def Datum.unfoldedAll : List Datum → List Datum
  | [] => []
  | item :: items => item.unfolded :: unfoldedAll items

/-- Entries in whose values validated data and records have become mappings. -/
def Datum.unfoldedEntries : List (Datum × Datum) → Entries
  | [] => []
  | (key, value) :: entries => (key, value.unfolded) :: unfoldedEntries entries

/-- The entries of fields in whose values validated data and records have become mappings. -/
def Datum.unfoldedFields : List (String × Datum) → Entries
  | [] => []
  | (name, value) :: fields => (.text name, value.unfolded) :: unfoldedFields fields

end

/-- Data that fits a shape, data of another shape being read as a mapping. -/
def Shape.refit (shape : Shape) (value : Datum) : Fitted Datum :=
  match value with
  | .object (.instance tag) _ => shape.fit (if tag = shape.tag then value else value.unfolded)
  | other => shape.fit other

end Colloquy
