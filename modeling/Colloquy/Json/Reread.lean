import Colloquy.Json.Writer
import Colloquy.Datum.Equality

/-!
# Data written and read back

What reading gives for data that has been written as a JSON document: keys have become texts,
tuples lists, and values without a JSON form their text. Of keys written alike the last value stays.
-/

set_option autoImplicit false

namespace Colloquy.Json

mutual

def reread : Datum → Except Unwritable Datum
  | .null => .ok .null
  | .bool value => .ok (.bool value)
  | .int value => .ok (.int value)
  | .float value => .ok (.float value)
  | .text value => .ok (.text value)
  | .list items => do return .list (← rereadItems items)
  | .tuple items => do return .list (← rereadItems items)
  | .mapping entries => do return .mapping (Datum.joinEntries (← rereadEntries entries))
  | .bytes value => .ok (.text (Datum.bytes value).spoken)
  | .decimal value => .ok (.text value.text)
  | .date value => .ok (.text value)
  | .object kind fields => .ok (.text (Datum.object kind fields).spoken)

def rereadItems : List Datum → Except Unwritable (List Datum)
  | [] => .ok []
  | item :: items => do
      let first ← reread item
      return first :: (← rereadItems items)

def rereadEntries : List (Datum × Datum) → Except Unwritable (List (Datum × Datum))
  | [] => .ok []
  | (key, value) :: entries =>
      match keyText? .json key with
      | none => .error (.key key.typeName)
      | some name => do
          let first ← reread value
          return (.text name, first) :: (← rereadEntries entries)

end

end Colloquy.Json
