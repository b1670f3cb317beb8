import Colloquy.Datum.Sum
import Colloquy.Error.Conversion
import Colloquy.Outline.Field
import Colloquy.Schema.Node

/-!
# Edits of metadata

An edit removes keys, sets others and counts some up, in this order; then it returns what it is told
to return.
-/

set_option autoImplicit false

namespace Colloquy.Outline

structure Edit where
  removed : List Datum
  set : Entries
  incremented : List Datum
  /-- What takes the place of the draft; null keeps it. -/
  returned : Option Datum
  returnsDraft : Bool

def remove (draft : Entries) (name : Datum) : Except Error Entries := do
  return Datum.dropEntry draft (← name.asKey)

def increment (draft : Entries) (name : Datum) : Except Error Entries := do
  match Datum.entry? draft (← name.asKey) with
  | some value => return Datum.putEntry draft name (← value.sum (.int 1))
  | none => .error (.raised .key name)

def Edit.apply (edit : Edit) (draft : Entries) : Except Error Entries := do
  edit.incremented.foldlM increment
    (Datum.mergeEntries (← edit.removed.foldlM remove draft) edit.set)

def Edit.update (edit : Edit) : MetadataUpdate :=
  .edit fun draft => do
    let edited ← edit.apply draft
    return (edited, edit.returned.getD (if edit.returnsDraft then .mapping edited else .null))

end Colloquy.Outline
