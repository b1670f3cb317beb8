import Colloquy.Shape.Basic

/-!
# Sample data

Data for a shape, made from nothing but the types of its fields. Bounds are not looked at.
-/

set_option autoImplicit false

namespace Colloquy

mutual

def FieldType.sample : FieldType → Datum
  | .text => .text "value"
  | .integer => .int 1
  | .number => .float 1.0
  | .truth => .bool true
  | .any => .text "value"
  | .list _ => .list []
  | .dictionary _ => .mapping []
  | .optional type => type.sample
  | .literal values => values.head?.getD (.text "value")
  | .shape _ _ fields => .mapping (FieldType.sampleFields fields)

def FieldType.sampleFields : List (FieldInfo × FieldType) → List (Datum × Datum)
  | [] => []
  | (info, type) :: fields => (.text info.name, type.sample) :: FieldType.sampleFields fields

end

def Shape.sample (shape : Shape) : Datum := .mapping (FieldType.sampleFields shape.fields)

end Colloquy
