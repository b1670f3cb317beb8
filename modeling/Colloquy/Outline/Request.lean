import Colloquy.Batch.Trial
import Colloquy.Dataset.Entries
import Colloquy.Outline.Tree

/-!
# Outlines of requests and trials

What is asked of a run is outlined by a schema and a count, or by entries. A task of a trial is
outlined by its pauses and by the word for its end.
-/

set_option autoImplicit false

namespace Colloquy.Outline

/-- The schema that an outline gives: its tree, or a factory of that tree. -/
def schema (scope : Scope) (outline : Datum) : Except Error Schema :=
  let root := tree scope (field outline "schema")
  if (field outline "factory").isTruthy then .ok (.factory root) else root.map .tree

def entry (scope : Scope) (outline : Datum) : Except Error EntryRequest := do
  let schema ← schema scope outline
  return ⟨schema, ← value scope (field outline "count"), Datum.integer? (field outline "seed")⟩

def request (scope : Scope) (outline : Datum) : Except Error Request := do
  match outline.get? "entries" with
  | none => return .schema (← schema scope outline)
  | some entries =>
      let entries ← (itemsOf entries).mapM (entry scope)
      match entries, (field outline "single_entry").isTruthy with
      | first :: _, true => return .entry first
      | entries, _ => return .list (entries.map .entry)

/-- The entries that an outline asks for, its count being left out if it is null. -/
def entries (scope : Scope) (outline : Datum) : Except Error (List Entry) := do
  let request ← request scope outline
  let count ← value scope (field outline "count")
  request.entries? (if count.isNull then none else some count)

def trialEnd (scope : Scope) (outline : Datum) : TrialEnd :=
  let cause := scope.error (field outline "error")
  match fieldText outline "outcome" with
  | "success" => .row
  | "failure" => .failure (Datum.integer? (field outline "failure_seed")) cause
  | "raise" => .error cause
  | _ => .nothing

def trialTask (scope : Scope) (outline : Datum) : TrialTask :=
  ⟨Datum.integer? (field outline "seed"), ((Datum.integer? (field outline "ticks")).getD 0).toNat,
    trialEnd scope outline⟩

def watchKind (outline : Datum) : WatchKind :=
  match fieldText outline "kind" with
  | "record" => .record
  | "logging" => .report
  | _ => .nothing

def watch (scope : Scope) (outline : Datum) : Except Error Watch := do
  let level ← value scope ((outline.get? "level").getD (.text LogLevel.info.name))
  return .fresh ((itemsOf (field outline "raise_on")).filterMap Datum.text?) level

end Colloquy.Outline
