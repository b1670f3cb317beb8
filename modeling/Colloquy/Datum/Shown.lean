import Colloquy.Datum.Basic
import Colloquy.Number.Shortest
import Colloquy.Text.Quoted

/-!
# Data as shown in messages

The text of a value inside an error message or a log line: texts quoted, lists in brackets,
tuples in parentheses, mappings in braces, records by name and fields.
-/

set_option autoImplicit false

namespace Colloquy.Datum

/-- A date `YYYY-MM-DD` as shown: its three numbers without leading zeros. -/
def shownDate (date : String) : String :=
  let numbers := (date.splitOn "-").map fun part => toString (part.toNat?.getD 0)
  "datetime.date(" ++ ", ".intercalate numbers ++ ")"

/-- The parts of a tuple; a single one is followed by a comma. -/
def shownTuple (parts : List String) : String :=
  match parts with
  | [part] => "(" ++ part ++ ",)"
  | parts => "(" ++ ", ".intercalate parts ++ ")"

def shownObject (kind : ObjectKind) (fields : List String) : String :=
  let named (name : String) := name ++ "(" ++ ", ".intercalate fields ++ ")"
  match kind with
  | .bundle => named "namespace"
  | .record name => named name
  | .node "Dynamic" => "Dynamic()"
  | .node name => named name
  | .instance tag => named tag.name
  | .marker _ shown => shown

mutual

def shown : Datum → String
  | null => "None"
  | bool value => if value then "True" else "False"
  | int value => toString value
  | float value => Number.shortestText .plain value
  | text value => Text.quoted value
  | list items => "[" ++ ", ".intercalate (shownAll items) ++ "]"
  | tuple items => shownTuple (shownAll items)
  | mapping entries => "\x7b" ++ ", ".intercalate (shownEntries entries) ++ "\x7d"
  | bytes value => Text.quotedBytes value
  | decimal value => "Decimal('" ++ value.text ++ "')"
  | date value => shownDate value
  | object kind fields => shownObject kind (shownFields fields)

def shownAll : List Datum → List String
  | [] => []
  | item :: items => shown item :: shownAll items

def shownEntries : List (Datum × Datum) → List String
  | [] => []
  | (key, value) :: entries => (shown key ++ ": " ++ shown value) :: shownEntries entries

def shownFields : List (String × Datum) → List String
  | [] => []
  | (name, value) :: fields => (name ++ "=" ++ shown value) :: shownFields fields

end

/-- A value spoken rather than shown: texts, decimals and dates stand without marks. -/
def spoken : Datum → String
  | text value => value
  | decimal value => value.text
  | date value => value
  | object (.instance _) fields => " ".intercalate (shownFields fields)
  | other => shown other

end Colloquy.Datum
