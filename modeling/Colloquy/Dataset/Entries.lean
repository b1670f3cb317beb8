import Colloquy.Conversation.Label
import Colloquy.Schema.Node

/-!
# Entries and tasks

A run generates rows from one or several schemas. An entry says how many rows a schema gives; the
rows of an entry have consecutive seeds.
-/

set_option autoImplicit false

namespace Colloquy

/-- A schema with the number of its rows as the caller gives it, and perhaps a seed of its own. -/
structure EntryRequest where
  schema : Schema
  count : Datum
  seed : Option Int

/-- A schema and the number of rows to generate from it. -/
structure Entry where
  schema : Schema
  count : Nat
  seed : Option Int

/-- A part of a list that a caller passes: an entry, or something of a schema. -/
inductive RequestPart where
  | entry (entry : EntryRequest)
  | item (item : Item)

/-- What a caller passes to ask for rows: an entry, a list, or any other schema. -/
inductive Request where
  | entry (entry : EntryRequest)
  | list (parts : List RequestPart)
  | schema (schema : Schema)

def Schema.describe : Schema → Datum
  | .tree root => root.describe
  | .factory _ => .object (.marker "function" "<fn factory>") []

def EntryRequest.describe (request : EntryRequest) : Datum :=
  .object (.record "SchemaEntry") [
    ("schema", request.schema.describe), ("count", request.count),
    ("seed", Datum.ofInt? request.seed)]

def RequestPart.entry? : RequestPart → Option EntryRequest
  | .entry request => some request
  | .item _ => none

/-- A part as it stands in a schema, where an entry is a value like any other. -/
def RequestPart.asItem : RequestPart → Item
  | .entry request => .datum request.describe
  | .item other => other

/-- The entries that a list is made of, if it is made of nothing else and is not empty. -/
def RequestPart.entries? (parts : List RequestPart) : Option (List EntryRequest) :=
  if parts.isEmpty then none else parts.mapM RequestPart.entry?

def Schema.isEmptySequence : Schema → Bool
  | .tree (.list items) => items.isEmpty
  | .tree (.tuple items) => items.isEmpty
  | .tree (.datum (.text text)) => text = ""
  | .tree (.datum (.bytes text)) => text = ""
  | .tree (.datum value) => value.items?.any List.isEmpty
  | _ => false

def rowCount (count : Datum) : Except Error Nat :=
  match count with
  | .int number =>
      if number < 0 then .error (.configuration (.count count.shown)) else .ok number.toNat
  | other => .error (.configuration (.count other.shown))

def EntryRequest.entry (request : EntryRequest) : Except Error Entry := do
  return ⟨request.schema, ← rowCount request.count, request.seed⟩

/-- The one entry of a schema, for which `count` is meant. -/
def Schema.request? (schema : Schema) (count : Option Datum) : Except Error EntryRequest :=
  if schema.isEmptySequence then .error (.configuration .noSchemas)
  else .ok ⟨schema, count.getD (.int 1), none⟩

/-- What is asked for, before counts are looked at. A list that holds anything but entries is a
schema. -/
def Request.requests? (request : Request) (count : Option Datum) :
    Except Error (List EntryRequest) :=
  match request with
  | .entry single => .ok [single]
  | .list parts =>
      match RequestPart.entries? parts with
      | some many =>
          if count.isSome then .error (.configuration .countWithEntries) else .ok many
      | none => do return [← Schema.request? (.tree (.list (parts.map RequestPart.asItem))) count]
  | .schema only => do return [← only.request? count]

/-- The entries that are asked for, each with the number of its rows. -/
def Request.entries? (request : Request) (count : Option Datum) : Except Error (List Entry) := do
  (← request.requests? count).mapM EntryRequest.entry

structure RowTask where
  index : Nat
  schema : Schema
  seed : Option Int
  /-- The position of the entry that the row belongs to. -/
  entry : Nat

/-- The rows of an entry, the first of which has the index `first`. -/
def Entry.tasks (baseSeed : Option Int) (position first : Nat) (entry : Entry) : List RowTask :=
  (List.range entry.count).map fun offset =>
    ⟨first + offset, entry.schema, rowSeed (entry.seed.or baseSeed) offset, position⟩

def tasksFrom (baseSeed : Option Int) (position first : Nat) : List Entry → List RowTask
  | [] => []
  | entry :: entries =>
      entry.tasks baseSeed position first ++
        tasksFrom baseSeed (position + 1) (first + entry.count) entries

/-- The rows of entries; an entry without a seed takes the base seed. -/
def tasksOf (entries : List Entry) (baseSeed : Option Int) : List RowTask :=
  tasksFrom baseSeed 0 0 entries

/-- The base seed that a value gives to entries. The value has to be one to which an offset can be
added if there is a row that takes its seed from it. -/
def baseSeedOf (entries : List Entry) (given : Datum) : Except Error (Option Int) :=
  if entries.any fun entry => entry.seed.isNone && 0 < entry.count then
    (seedAt given (.int 0)).map Datum.integer?
  else .ok given.integer?

theorem Entry.length_tasks (baseSeed : Option Int) (position first : Nat) (entry : Entry) :
    (entry.tasks baseSeed position first).length = entry.count := by
  simp [Entry.tasks]

end Colloquy
