import Colloquy.Resolution.Shared
import Colloquy.Schema.Script
import Colloquy.Unique.Choice

/-!
# Walks

A walk follows a script. It carries the context of one row through the events, and works on what
rows share: the pool of used identifiers and the log. What becomes of an entry is left to the phase.
-/

set_option autoImplicit false

namespace Colloquy

open Selection (Choice)

/-- What a plan fixes of an entry: its kind, who speaks, and how many values are drawn before it. -/
structure Footprint where
  kind : EntryKind
  role : Role
  draws : Int
  deriving Repr, DecidableEq

def PlanEntry.footprint (entry : PlanEntry) : Footprint := ⟨entry.kind, entry.role, entry.drawCount⟩

structure StepReport where
  step : Nat
  total : Nat
  stepType : String
  made : Footprint
  deriving Repr, DecidableEq

structure Walk where
  context : Context
  /-- The identifiers chosen in the check phase, which the pool does not know. -/
  provisional : Unique.Collections
  reports : List StepReport

structure Halt where
  error : Error
  walk : Walk

abbrev Walked (α : Type) := Except Halt (α × Walk)

namespace Walk

def within (walk : Walk) (context : Context) : Walk := { walk with context := context }

def halt {α : Type} (walk : Walk) (error : Error) : Walked α := .error ⟨error, walk⟩

def lift {α : Type} (walk : Walk) : Except Error α → Walked α
  | .ok value => .ok (value, walk)
  | .error error => walk.halt error

/-- The identifiers as the walk sees them: in the check phase over the pool, in the generate phase
in the pool itself. -/
def store (walk : Walk) (pool : Unique.Store) : Unique.Store :=
  match walk.context.phase with
  | .check => .overlay walk.provisional pool
  | .generate => pool

/-- The walk after a choice, `store` being the identifiers as it then sees them: the check phase
keeps its marks to itself. -/
def keep (walk : Walk) (store : Unique.Store) : Walk :=
  match walk.context.phase with
  | .check => { walk with provisional := store.own }
  | .generate => walk

/-- What is shared after a choice: in the check phase the pool stays as it was. -/
def keepShared (walk : Walk) (store : Unique.Store) (shared : Shared) : Shared :=
  match walk.context.phase with
  | .check => shared
  | .generate => { shared with pool := store }

def drawn (walk : Walk) (stream : Random.Stream) : Walk :=
  walk.within { walk.context with stream := stream }

/-- What comes of a choice by the next draw, and what is shared behind it. -/
def chosen (options : List (Choice Datum)) (uniqueBy : Option Unique.UniqueBy) (walk : Walk)
    (shared : Shared) : Walked Nat × Shared :=
  let store := walk.store shared.pool
  match (Unique.choose options uniqueBy (some store)).run walk.context.stream with
  | ((.error error, _), stream) => ((walk.drawn stream).halt error, shared)
  | ((.ok chosen, after), stream) =>
      let store := after.getD store
      (.ok (chosen.place, (walk.drawn stream).keep store), walk.keepShared store shared)

/-- Chooses an option and marks its identifier. Nobody comes between. -/
def choose (options : List (Choice Datum)) (uniqueBy : Option Unique.UniqueBy) (walk : Walk) :
    RowProcess (Walked Nat) :=
  .step (fun shared => (walk.chosen options uniqueBy shared).2) fun shared =>
    .done (walk.chosen options uniqueBy shared).1

end Walk

def Decision.follow {α : Type} : Decision α → Walk → RowProcess (Walked α)
  | done result, walk => .done (.ok (result, walk))
  | fail error, walk => .done (walk.halt error)
  | draw next, walk =>
      let (value, context) := walk.context.draw
      (next value).follow (walk.within context)
  | choose options uniqueBy next, walk =>
      (walk.choose options uniqueBy).bind fun
        | .ok (place, walk) => (next place).follow walk
        | .error halt => .done (.error halt)
  | observe next, walk => (next walk.context).follow walk
  | ask call next, walk => .ask call fun reply => (next reply).follow walk
  | pause next, walk => .pause (next.follow walk)

namespace MetadataUpdate

/-- The metadata after an update; it must again be a mapping. -/
def apply (metadata : Entries) : MetadataUpdate → Except Error Entries
  | merge (.mapping entries) => .ok (Datum.mergeEntries metadata entries)
  | merge other =>
      .error (.unsupported .type ("'" ++ other.typePath ++ "' object is not a mapping"))
  | edit change => do
      let (draft, returned) ← change metadata
      match returned with
      | .null => return draft
      | .mapping entries => return entries
      | other => .error (.schema (.metadata other.typeName))

end MetadataUpdate

/-- The context after a metadata update, which the check phase alone makes. The plan goes along. -/
def Context.update (context : Context) (change : MetadataUpdate) : Except Error Context :=
  match context.phase with
  | .generate => .ok context
  | .check => do
      let metadata ← change.apply context.metadata
      return { context with
        plan := { context.plan with metadata := metadata }
        metadata := metadata }

def Script.follow (emit : Leaf → Walk → RowProcess (Walked Unit)) :
    Script → Walk → RowProcess (Walked Unit)
  | done, walk => .done (.ok ((), walk))
  | fail error, walk => .done (walk.halt error)
  | draw next, walk =>
      let (value, context) := walk.context.draw
      (next value).follow emit (walk.within context)
  | choose options uniqueBy next, walk =>
      (walk.choose options uniqueBy).bind fun
        | .ok (place, walk) => (next place).follow emit walk
        | .error halt => .done (.error halt)
  | entry leaf next, walk =>
      (emit leaf walk).bind fun
        | .ok (_, walk) => next.follow emit walk
        | .error halt => .done (.error halt)
  | list tool next, walk => next.follow emit (walk.within (walk.context.addTool tool))
  | update change next, walk =>
      match walk.context.update change with
      | .ok context => next.follow emit (walk.within context)
      | .error error => .done (walk.halt error)
  | observe next, walk => (next walk.context).follow emit walk
  | ask call next, walk => .ask call fun reply => (next reply).follow emit walk
  | pause next, walk => .pause (next.follow emit walk)

end Colloquy
