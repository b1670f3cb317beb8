import Colloquy.Datum.Basic

/-!
# Attributes of values

What a value that is neither a scalar nor a mapping has under a name: a field, a number, or an
operation, of which only the type is known.
-/

set_option autoImplicit false

namespace Colloquy.Unique

def names (text : String) : List String := text.splitOn " "

def operationNames : Datum → List String
  | .list _ => names "append clear copy count extend index insert pop remove reverse sort"
  | .tuple _ => names "count index"
  | .bytes _ => names ("capitalize center count decode endswith expandtabs find fromhex hex index " ++
      "isalnum isalpha isascii isdigit islower isspace istitle isupper join ljust lower lstrip " ++
      "maketrans partition removeprefix removesuffix replace rfind rindex rjust rpartition rsplit " ++
      "rstrip split splitlines startswith strip swapcase title translate upper zfill")
  | .decimal _ => names ("adjusted as_integer_ratio as_tuple canonical compare compare_signal " ++
      "compare_total compare_total_mag conjugate copy_abs copy_negate copy_sign exp fma " ++
      "from_float is_canonical is_finite is_infinite is_nan is_normal is_qnan is_signed is_snan " ++
      "is_subnormal is_zero ln log10 logb logical_and logical_invert logical_or logical_xor max " ++
      "max_mag min min_mag next_minus next_plus next_toward normalize number_class quantize " ++
      "radix remainder_near rotate same_quantum scaleb shift sqrt to_eng_string to_integral " ++
      "to_integral_exact to_integral_value")
  | .date _ => names ("ctime fromisocalendar fromisoformat fromordinal fromtimestamp " ++
      "isocalendar isoformat isoweekday replace strftime timetuple today toordinal weekday")
  | _ => []

def dateParts (date : String) : Fields :=
  ["year", "month", "day"].zip
    ((date.splitOn "-").map fun part => Datum.int ((part.toNat?.getD 0 : Nat) : Int))

def known (typeName name : String) : Datum := .object (.marker typeName name) []

def instanceOperations : List String :=
  names ("construct copy dict from_orm json model_construct model_copy model_dump " ++
    "model_dump_json model_json_schema model_parametrized_name model_post_init model_rebuild " ++
    "model_validate model_validate_json model_validate_strings parse_file parse_obj parse_raw " ++
    "schema schema_json update_forward_refs validate")

def instanceAttribute (name : String) : Option Datum :=
  if instanceOperations.contains name then some (known "method" name)
  else if (names "model_computed_fields model_config model_fields").contains name then
    some (.mapping [])
  else if name = "model_fields_set" then some (known "set" name)
  else none

/-- Whether a tool that is described has a shape with fields under a name. -/
def isFilled (fields : Fields) (name : String) : Datum :=
  match Fields.get? fields name with
  | some (.object _ parts) => .bool ((Fields.get? parts "filled").any Datum.isTruthy)
  | _ => .bool false

/-- What else a value has under a name besides its fields and operations. -/
def furtherAttribute (value : Datum) (name : String) : Option Datum :=
  match value, name with
  | .object (.node "ToolDefinition") fields, "takes_arguments" => some (isFilled fields "parameters")
  | .object (.node "ToolDefinition") fields, "returns_value" => some (isFilled fields "output")
  | .object (.node "ToolDefinition") _, name =>
      if ["spec", "call", "result"].contains name then some (known "method" name) else none
  | .decimal number, name => if ["real", "imag"].contains name then some (.decimal number) else none
  | .object (.instance _) _, name => instanceAttribute name
  | .date date, name =>
      if ["min", "max"].contains name then some (.date date)
      else if name = "resolution" then some (known "timedelta" name)
      else (dateParts date).get? name
  | _, _ => none

/-- The attribute of a value that is neither a scalar nor a mapping; null if it has none. -/
def attributeOf (value : Datum) (name : String) : Datum :=
  let own : Option Datum :=
    match value with
    | .object _ fields => Fields.get? fields name
    | _ => none
  if (operationNames value).contains name then known "builtin_function_or_method" name
  else (own.or (furtherAttribute value name)).getD .null

end Colloquy.Unique
