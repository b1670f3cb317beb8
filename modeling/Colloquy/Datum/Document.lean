import Colloquy.Datum.Equality
import Colloquy.Datum.Shown

/-!
# Data as documents

The document of a value holds null, truth values, numbers, texts, lists and mappings with text
keys only. What is not finite becomes null, except where validated data declares a number; tuples
become lists, dates and decimals their text, and records mappings. A bare bundle of attributes has
no document.
-/

set_option autoImplicit false

namespace Colloquy.Datum

/-- A value that has no document, by the name of its type. -/
structure NoDocument where
  typeName : String
  deriving Repr, DecidableEq

mutual

def documentKey : Datum → Except NoDocument String
  | null => .ok "None"
  | bool value => .ok (if value then "true" else "false")
  | int value => .ok (toString value)
  | float value => .ok (if value.isFinite then Number.shortestText .plain value else "None")
  | text value => .ok value
  | bytes value => .ok value
  | decimal value => .ok value.text
  | date value => .ok value
  | tuple items => do return ",".intercalate (← documentKeys items)
  | list _ => .error ⟨"list"⟩
  | mapping _ => .error ⟨"dict"⟩
  | object (.record name) fields => .ok (object (.record name) fields).spoken
  | object (.node name) fields => .ok (object (.node name) fields).spoken
  | object kind fields => .error ⟨(object kind fields).typePath⟩

def documentKeys : List Datum → Except NoDocument (List String)
  | [] => .ok []
  | item :: items => do
      let first ← documentKey item
      return first :: (← documentKeys items)

end

structure DocumentForm where
  /-- Whether fields of validated data that are null are kept. -/
  nulls : Bool
  /-- Whether only the last of entries with the same key is kept. -/
  joined : Bool

def DocumentForm.full : DocumentForm := ⟨true, true⟩

def DocumentForm.sparse : DocumentForm := ⟨false, true⟩

/-- Documents that repeat a key if a mapping has several keys of the same text. -/
def DocumentForm.repeated : DocumentForm := ⟨true, false⟩

mutual

def documentAs (form : DocumentForm) (declared : Declared) : Datum → Except NoDocument Datum
  | null => .ok null
  | bool value => .ok (match declared with
      | .integer => int (if value then 1 else 0)
      | .number => float (if value then 1.0 else 0.0)
      | _ => bool value)
  | int value => .ok (if declared = .number then float (Number.ofInt value) else int value)
  | float value => .ok (if value.isFinite || declared = .number then float value else null)
  | text value => .ok (text value)
  | bytes value => .ok (text value)
  | decimal value => .ok (text value.text)
  | date value => .ok (text value)
  | list items => do
      let item := match declared with
        | .items item => item
        | _ => .other
      return list (← documentAllAs form item items)
  | tuple items => do return list (← documentAllAs form .other items)
  | mapping entries => do
      let part := match declared with
        | .values value => value
        | _ => .other
      let entries ← documentEntriesAs form part entries
      return mapping (if form.joined then joinEntries entries else entries)
  | object .bundle _ => .error ⟨"types.SimpleNamespace"⟩
  | object (.record _) fields => do return mapping (← documentFieldsAs form none fields)
  | object (.node _) fields => do return mapping (← documentFieldsAs form none fields)
  | object (.instance tag) fields => do
      return mapping (← documentFieldsAs form (some tag) fields)
  | object (.marker typeName _) _ => .error ⟨typeName⟩

def documentAllAs (form : DocumentForm) (declared : Declared) :
    List Datum → Except NoDocument (List Datum)
  | [] => .ok []
  | item :: items => do
      let first ← documentAs form declared item
      return first :: (← documentAllAs form declared items)

def documentEntriesAs (form : DocumentForm) (declared : Declared) :
    List (Datum × Datum) → Except NoDocument Entries
  | [] => .ok []
  | (key, value) :: entries => do
      let name ← documentKey key
      let first ← documentAs form declared value
      return (text name, first) :: (← documentEntriesAs form declared entries)

/-- The documents of named fields, of validated data if there is a tag. -/
def documentFieldsAs (form : DocumentForm) (tag : Option ShapeTag) :
    List (String × Datum) → Except NoDocument Entries
  | [] => .ok []
  | (name, value) :: fields => do
      let part := (tag.map fun tag => tag.part name).getD .other
      let first ← documentAs form part value
      let rest ← documentFieldsAs form tag fields
      return if tag.isSome && !form.nulls && value.isNull then rest else (text name, first) :: rest

end

def document (value : Datum) : Except NoDocument Datum := documentAs .full .other value

end Colloquy.Datum
