import Colloquy.Shape.Fit
import Colloquy.Text.Margin
import Colloquy.Text.Title

/-!
# Schemas of shapes

The JSON schema that describes a shape. Members of an object in it stand in the order of their keys,
except those of an object that is itself found under the key `properties` or `default`.
-/

set_option autoImplicit false

namespace Colloquy

/-- Members of a schema object, of which those without a value are left out. -/
def schemaObject (members : List (String × Option Datum)) : Fields :=
  members.filterMap fun member => member.2.map fun value => (member.1, value)

/-- The schema type that all values of a literal have, if they have one. -/
def literalType? (values : List Datum) : Option String :=
  let names := values.map Datum.typeName
  [("str", "string"), ("int", "integer"), ("float", "number"), ("bool", "boolean"),
    ("NoneType", "null")].findSome?
    fun (own, schema) => if names.all (· == own) then some schema else none

/-- Whether a field of the type has a title of its own; references carry that of their target. -/
def FieldType.isTitled : FieldType → Bool
  | .optional type => type.isTitled
  | .shape _ _ _ => false
  | _ => true

/-- The lengths of a field under the names that a schema has for them. -/
def FieldInfo.lengths (info : FieldInfo) (least greatest : String) : List (String × Option Datum) := [
  (least, info.shortest.map fun length => .int length),
  (greatest, info.longest.map fun length => .int length)]

/-- The bounds of a field under the names that a schema has for them. -/
def FieldInfo.bounds (info : FieldInfo) (least greatest : String) : List (String × Option Datum) := [
  (least, info.least), (greatest, info.greatest)]

/-- The bounds of a field for a type to which neither numbers nor a length belong. -/
def FieldInfo.remarks (info : FieldInfo) : List (String × Option Datum) :=
  info.bounds "ge" "le" ++ info.lengths "minLength" "maxLength"

def FieldType.schema (info : FieldInfo) : FieldType → Fields
  | .text => schemaObject
      (("type", some (.text "string")) :: info.lengths "minLength" "maxLength" ++
        info.bounds "ge" "le")
  | .integer => schemaObject
      (("type", some (.text "integer")) :: info.bounds "minimum" "maximum" ++
        info.lengths "minLength" "maxLength")
  | .number => schemaObject
      (("type", some (.text "number")) :: info.bounds "minimum" "maximum" ++
        info.lengths "minLength" "maxLength")
  | .truth => schemaObject (("type", some (.text "boolean")) :: info.remarks)
  | .any => schemaObject info.remarks
  | .list item => schemaObject
      (("type", some (.text "array")) ::
        ("items", some (Fields.toDatum (item.schema (.unbounded info.name)))) ::
        info.lengths "minItems" "maxItems" ++ info.bounds "ge" "le")
  | .dictionary type =>
      let schema := type.schema (.unbounded info.name)
      schemaObject
        (("type", some (.text "object")) ::
          ("additionalProperties",
            some (if schema.isEmpty then .bool true else Fields.toDatum schema)) ::
          info.lengths "minProperties" "maxProperties" ++ info.bounds "ge" "le")
  | .optional type => [
      ("anyOf", .list [Fields.toDatum (type.schema info), Fields.toDatum [("type", .text "null")]])]
  | .literal values => schemaObject
      (("const", if values.length = 1 then values.head? else none) ::
        ("enum", if values.length = 1 then none else some (.list values)) ::
        ("type", (literalType? values).map .text) :: info.remarks)
  | .shape name _ _ => schemaObject
      (("$ref", some (.text ("#/$defs/" ++ name))) :: info.remarks)

/-- The schema of a field: that of its type, its default, its description, and its title. -/
def FieldInfo.schema (info : FieldInfo) (type : FieldType) : Fields :=
  type.schema info ++ schemaObject [
    ("default", info.fallback), ("description", info.description.map .text),
    ("title", if type.isTitled then some (.text (Text.title info.name)) else none)]

def shapeSchema (name : String) (doc : Option String) (fields : List (FieldInfo × FieldType)) :
    Fields :=
  let properties := fields.map fun (info, type) => (info.name, Fields.toDatum (info.schema type))
  let required := fields.filterMap fun (info, _) =>
    if info.fallback.isNone then some (Datum.text info.name) else none
  let remark := (doc.filter (· ≠ "")).map Text.withoutMargin
  schemaObject [
    ("type", some (.text "object")), ("properties", some (Fields.toDatum properties)),
    ("required", if required.isEmpty then none else some (.list required)),
    ("title", some (.text name)), ("description", remark.map .text)]

mutual

/-- The definitions of all shapes inside a type, its own included. -/
def FieldType.definitions : FieldType → Fields
  | .list item => item.definitions
  | .dictionary type => type.definitions
  | .optional type => type.definitions
  | .shape name doc fields =>
      (name, Fields.toDatum (shapeSchema name doc fields)) :: FieldType.fieldDefinitions fields
  | _ => []

def FieldType.fieldDefinitions : List (FieldInfo × FieldType) → Fields
  | [] => []
  | (_, type) :: fields => type.definitions ++ FieldType.fieldDefinitions fields

end

def orderedKeys : List String := ["properties", "default"]

mutual

/-- A value of a schema found under a key, members being put in the order of their keys. -/
def Datum.arranged (parent : String) : Datum → Datum
  | .list items => .list (arrangedItems parent items)
  | .mapping entries =>
      let entries := arrangedEntries entries
      .mapping (if orderedKeys.contains parent then entries
        else entries.mergeSort fun left right => left.1.spoken ≤ right.1.spoken)
  | other => other

def Datum.arrangedItems (parent : String) : List Datum → List Datum
  | [] => []
  | item :: items => item.arranged parent :: arrangedItems parent items

def Datum.arrangedEntries : List (Datum × Datum) → Entries
  | [] => []
  | (key, value) :: entries => (key, value.arranged key.spoken) :: arrangedEntries entries

end

/-- The JSON schema of a shape, with the shapes inside it as definitions. -/
def Shape.schema (shape : Shape) : Fields :=
  let definitions := Fields.merge [] (FieldType.fieldDefinitions shape.fields)
  let schema := shapeSchema shape.name shape.doc shape.fields ++
    (if definitions.isEmpty then [] else [("$defs", Fields.toDatum definitions)])
  (((Fields.toDatum schema).arranged "").fields?).getD []

/-- The schema where no shape is given: an object without properties. -/
def emptySchema : Fields := [("type", .text "object"), ("properties", .mapping [])]

def schemaOf : Option Shape → Fields
  | some shape => shape.schema
  | none => emptySchema

end Colloquy
