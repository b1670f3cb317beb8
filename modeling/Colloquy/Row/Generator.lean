import Colloquy.Resolution.Generate
import Colloquy.Row.Failure
import Colloquy.Row.Lifecycle
import Colloquy.Row.TokenCounter

/-!
# Generating rows

A row is checked, then generated on the same draws, and then given its provenance. It chooses
identifiers through a view of the pool that tracks its marks; a row that fails gives them back.
-/

set_option autoImplicit false

namespace Colloquy

structure RowRecipe where
  schema : Schema
  seed : Option Int
  /-- The seed of the stream of a row that has no seed. -/
  freshSeed : Int
  rowIndex : Int
  extras : Option PromptExtras
  metadata : Entries
  tokenCounter : Option TokenCounter
  model : Datum
  output : Datum
  startTimestamp : String

/-- The metadata of a caller: a mapping or a list of pairs; what counts as absent is empty. -/
def callerMetadata (given : Datum) : Except Error Entries :=
  if given.isTruthy then given.asEntries else .ok []

/-- The name under which a row records the model: the one given, or that of the client. -/
def recordedModel (given client : Datum) : Datum := if given.isTruthy then given else client

/-- What a row works on: what it shares with other rows, the state it is in, and what it has marked
in the shared pool. -/
structure RowWorld where
  shared : Shared
  state : RowState
  marked : List (String × String)

/-- A computation of a row that knows the state of the row and its marks. -/
abbrev RowLife (α : Type) := Process RowWorld ModelCall (Except Error Reply) α

namespace RowWorld

def withShared (shared : Shared) (world : RowWorld) : RowWorld := { world with shared := shared }

/-- What is shared as the row sees it: through a view of the pool that tracks what the row marks. -/
def view (world : RowWorld) : Shared :=
  { world.shared with pool := .tracking world.marked world.shared.pool }

def withView (seen : Shared) (world : RowWorld) : RowWorld :=
  { world with
    shared := { seen with pool := seen.pool.base?.getD world.shared.pool }
    marked := seen.pool.marked?.getD world.marked }

def transitionLine (rowIndex : Int) (source target : RowState) : String :=
  s!"Row {rowIndex} | {source.name} -> {target.name}"

def enter (rowIndex : Int) (target : RowState) (world : RowWorld) : RowWorld :=
  { world with
    shared := world.shared.report .debug (transitionLine rowIndex world.state target)
    state := target }

def mayEnter (target : RowState) (world : RowWorld) : Bool :=
  world.state.successors.contains target

def tryEnter (rowIndex : Int) (target : RowState) (world : RowWorld) : RowWorld :=
  if world.mayEnter target then world.enter rowIndex target else world

def releaseLine (rowIndex : Int) (world : RowWorld) : String :=
  s!"Row {rowIndex} | Releasing {world.marked.length} unique selections"

def releaseMarks (rowIndex : Int) (world : RowWorld) : RowWorld :=
  if world.marked.isEmpty then world
  else
    let shared := world.shared.report .debug (world.releaseLine rowIndex)
    { world with
      shared := { shared with pool := shared.pool.releaseAll world.marked }
      marked := [] }

/-- The world after a failure: a row that was under way has failed. -/
def settle (rowIndex : Int) (world : RowWorld) : RowWorld :=
  let world := world.releaseMarks rowIndex
  if world.state.isActive then world.enter rowIndex .failed else world

end RowWorld

namespace RowRecipe

def transition (recipe : RowRecipe) (target : RowState) : RowLife (Except Error Unit) :=
  .step (RowWorld.tryEnter recipe.rowIndex target) fun before =>
    if before.mayEnter target then .done (.ok ())
    else .done (.error (.transition before.state.name target.name))

def stream (recipe : RowRecipe) : Random.Stream :=
  .ofSource (.seeded (recipe.seed.getD recipe.freshSeed))

def making (recipe : RowRecipe) : Making :=
  ⟨true, recipe.extras, recipe.seed.isSome, true⟩

/-- The metadata of the row: that of the schema, that of the caller over it, and the id of a row
that has a seed over both. -/
def mergedMetadata (recipe : RowRecipe) (fromSchema : Entries) : Entries :=
  let merged := Datum.mergeEntries fromSchema recipe.metadata
  match recipe.seed with
  | some seed => Datum.putEntry merged (.text "id") (.text (rowId seed))
  | none => merged

/-- Counts the tokens of a conversation. A count that fails is reported and left out. -/
def countTokens (recipe : RowRecipe) (conversation : Generated) : RowLife (Option TokenCount) :=
  match recipe.tokenCounter with
  | none => .done none
  | some counter =>
      let count : RowLife (Option TokenCount) :=
        match counter.count conversation.messages conversation.tools recipe.model with
        | .ok count => .done (some count)
        | .error error =>
            .step (fun world => world.withShared
              (world.shared.report .warning (tokenWarning recipe.model error))) fun _ => .done none
      if counter.suspends then .pause count else count

def finish (recipe : RowRecipe) (plan : Plan) (conversation : Generated)
    (tokens : Option TokenCount) : Except Error Row :=
  let fitted : Fitted RowMeta :=
    ((((Fit.text recipe.model).under (.key "model")).both
      ((Fit.nullable Fit.text recipe.output).under (.key "output"))).both
      ((Fit.dictionary (.mapping (recipe.mergedMetadata conversation.metadata))).under
        (.key "metadata"))).map fun pair =>
          ⟨recipe.seed, pair.1.1, pair.1.2, recipe.startTimestamp, tokens, pair.2⟩
  (fitted.mapError (Error.ofFaults "RowMeta")).map fun origin =>
    ⟨conversation.messages, conversation.tools, plan, origin⟩

/-- A computation on what the row sees of what is shared, as a part of its life. -/
def onView {α : Type} (process : RowProcess α) : RowLife α :=
  process.zoom RowWorld.view RowWorld.withView

def attempt (recipe : RowRecipe) : RowLife (Except Error Row) := do
  match ← recipe.transition .checking with
  | .error error => return .error error
  | .ok () =>
  match recipe.schema.resolve with
  | .error error => return .error error
  | .ok root =>
  let index := some recipe.rowIndex
  match ← onView (check root recipe.seed index recipe.stream recipe.metadata) with
  | .error halt => return .error halt.error
  | .ok (plan, _) =>
  match ← recipe.transition .checked with
  | .error error => return .error error
  | .ok () =>
  match ← recipe.transition .generating with
  | .error error => return .error error
  | .ok () =>
  match ← onView (generate recipe.making root recipe.seed index recipe.stream plan) with
  | .error halt => return .error halt.error
  | .ok (conversation, _) =>
  let tokens ← recipe.countTokens conversation
  return recipe.finish plan conversation tokens

/-- Generates the row. A row that fails gives its marks back. -/
def generateRow (recipe : RowRecipe) : RowLife (Except Error Row) := do
  match ← recipe.attempt with
  | .error error =>
      Process.change (RowWorld.settle recipe.rowIndex)
      return .error error
  | .ok row =>
      match ← recipe.transition .completed with
      | .error error => return .error error
      | .ok () => return .ok row

def runRow (recipe : RowRecipe) : RowLife RowResult := do
  return .ofExcept recipe.rowIndex recipe.seed (← recipe.generateRow)

/-- A call of a row, which has marked nothing yet and keeps its marks to itself. -/
def call {α : Type} (life : RowLife α) :
    Process (Shared × RowState) ModelCall (Except Error Reply) α :=
  ((life.zoom (fun whole : (Shared × RowState) × List (String × String) =>
      RowWorld.mk whole.1.1 whole.1.2 whole.2)
    fun world _ => ((world.shared, world.state), world.marked)).own []).bind
      fun result => .done result.1

def resume {α : Type} (state : RowState) (life : RowLife α) : RowProcess (α × RowState) :=
  (call life).own state

def once {α : Type} (life : RowLife α) : RowProcess (α × RowState) :=
  resume .uninitialized life

end RowRecipe

end Colloquy
