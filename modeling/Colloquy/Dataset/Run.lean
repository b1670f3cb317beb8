import Colloquy.Batch.Basic
import Colloquy.Dataset.Entries
import Colloquy.Export.Writer
import Colloquy.Model.Client
import Colloquy.Row.Generator

/-!
# Runs

A run generates the rows of all entries as one batch. Each finished row goes to the outlet at once;
a row that the outlet refuses is dropped like a row that could not be generated.
-/

set_option autoImplicit false

namespace Colloquy

/-- The state of a run: what rows share, and the states of the model, the observer and the
outlet. -/
structure RunWorld (μ π ω : Type) where
  shared : Shared
  model : μ
  observer : π
  outlet : ω

structure Run (μ π ω : Type) where
  client : Client μ
  entries : List Entry
  baseSeed : Option Int
  concurrency : Nat
  scope : UniqueScope
  extras : Option PromptExtras
  /-- The metadata and the model's name as the configuration gives them. -/
  metadata : Datum
  modelName : Datum
  tokenCounter : Option TokenCounter
  observer : Observer (Log × π)
  outlet : Outlet ω
  /-- The seeds that rows without a seed draw for themselves, by index. -/
  freshSeed : Nat → Int
  startTimestamp : Nat → String

namespace RunWorld

variable {μ π ω : Type}

def addLines (lines : List LogLine) (world : RunWorld μ π ω) : RunWorld μ π ω :=
  { world with shared := { world.shared with log := lines.foldl Array.push world.shared.log } }

def report (level : LogLevel) (text : String) (world : RunWorld μ π ω) : RunWorld μ π ω :=
  world.addLines [⟨level.name, text⟩]

def observe (observer : Observer (Log × π)) : Observer (RunWorld μ π ω) :=
  observer.zoom (fun world => (world.shared.log, world.observer)) fun (log, state) world =>
    { world with shared := { world.shared with log := log }, observer := state }

/-- Hands a row to the outlet: the row as it is afterwards, and the world. -/
def deliver (outlet : Outlet ω) (row : Row) (world : RunWorld μ π ω) :
    Except Error Row × RunWorld μ π ω :=
  let (result, state) := outlet.append row world.outlet
  (result, { world with outlet := state })

end RunWorld

/-- A computation on what rows share, its pool of used identifiers being its own. -/
def inOwnPool {μ α : Type} (process : Process (Shared × μ) Empty Empty α) :
    Process (Shared × μ) Empty Empty α :=
  ((process.zoom
    (fun whole : (Shared × μ) × Unique.Store => ({ whole.1.1 with pool := whole.2 }, whole.1.2))
    fun inner whole =>
      (({ inner.1 with pool := whole.1.1.pool }, inner.2), inner.1.pool)).own .fresh).bind
    fun result => .done result.1

namespace Run

variable {μ π ω : Type} (run : Run μ π ω)

def model : Datum := recordedModel run.modelName run.client.name

def recipe (task : RowTask) : Except Error RowRecipe := do
  let metadata ← callerMetadata run.metadata
  return ⟨task.schema, task.seed, run.freshSeed task.index, task.index, run.extras, metadata,
    run.tokenCounter, run.model, .text run.outlet.path, run.startTimestamp task.index⟩

def serve (recipe : RowRecipe) : Process (Shared × μ) Empty Empty RowResult :=
  let process := (run.client.hoisted.serve (RowRecipe.once recipe.runRow)).bind
    fun result => .done result.1
  match run.scope with
  | .run => process
  | .row => inOwnPool process

def generate (recipe : RowRecipe) : Process (RunWorld μ π ω) Empty Empty RowResult :=
  (run.serve recipe).zoom (fun world => (world.shared, world.model)) fun both world =>
    { world with shared := both.1, model := both.2 }

def rowLine (task : RowTask) (row : Row) : String :=
  s!"Row {task.index} completed | Seed: {(Datum.ofInt? task.seed).spoken} | " ++
    s!"Messages: {row.messages.length}"

def deliver (task : RowTask) (row : Row) : Process (RunWorld μ π ω) Empty Empty TaskOutcome :=
  .step (fun world => (world.deliver run.outlet row).2) fun before =>
    match (before.deliver run.outlet row).1 with
    | .error error => .done (.error error)
    | .ok after =>
        .step (RunWorld.report .info (rowLine task after)) fun _ =>
          .done (.ok (some (.success task.index after)))

def execute (task : RowTask) : Process (RunWorld μ π ω) Empty Empty TaskOutcome :=
  match run.recipe task with
  | .error error => .done (.error error)
  | .ok recipe =>
      (run.generate recipe).bind fun
        | .failure failure => .done (.ok (some (.failure failure)))
        | .success _ row => run.deliver task row

def tasks : List RowTask := tasksOf run.entries run.baseSeed

def batch : List (BatchTask (RunWorld μ π ω)) :=
  run.tasks.map fun task => ⟨task.seed, fun _ => run.execute task⟩

def surroundings : Surroundings (RunWorld μ π ω) :=
  ⟨RunWorld.report, RunWorld.observe run.observer⟩

def startLine : String :=
  s!"Starting generation | Rows: {run.tasks.length} | Schemas: {run.entries.length} | " ++
    "Model: " ++ run.model.spoken ++ " | Output: " ++ run.outlet.path

/-- The line that reports the end of the run, `elapsed` being the time it took. -/
def endLine (board : Board) (elapsed : String) : String :=
  s!"Generation complete | Rows: {(board.rowsInOrder run.tasks.length).length}/" ++
    s!"{run.tasks.length} | Failed: {board.failures.length} | " ++ elapsed

/-- The world when the outlet has been closed after the last row, and the board. -/
def close (elapsed : String) (both : RunWorld μ π ω × Board) : Except Error Board × RunWorld μ π ω :=
  let (world, board) := both
  let (outlet, lines) := run.outlet.finish world.outlet
  let world := { world with outlet := outlet }.addLines lines
  (.ok board, world.report .info (run.endLine board elapsed))

def execution (elapsed : String) (world : RunWorld μ π ω) :
    Except Error Board × RunWorld μ π ω :=
  let world := world.report .info run.startLine
  match run.outlet.start world.outlet with
  | .error error => (.error error, world)
  | .ok outlet =>
      run.close elapsed
        (run.surroundings.runBatch run.concurrency run.batch { world with outlet := outlet })

def rows (board : Board) : List Row := board.rowsInOrder run.tasks.length

end Run

namespace RunConfig

/-- Where the rows of a configured run go: to the path that the configuration gives, else to that of
the writer, else to a file named after a time. -/
def outputPath (config : RunConfig) (writer : Option Writer) (stamp : String) :
    Except Error String := do
  if config.output.isTruthy then
    match config.output with
    | .text path => return plainPath path
    | other =>
        throw (.unsupported .type ("a path has to be a text, not '" ++ other.typeName ++ "'"))
  else
    match writer with
    | some writer => return writer.path
    | none => return defaultPath (← config.outputFormat) stamp

/-- The token counter of a configured run: the one given, or one that `measure`s texts if the
configuration asks for workers. -/
def counter (config : RunConfig) (given : Option TokenCounter) (measure : String → Nat) :
    Except Error (Option TokenCounter) :=
  match given, config.tokenCounterWorkers.quantity? with
  | some counter, _ => .ok (some counter)
  | none, some workers =>
      if (Quantity.exact 0).less workers then
        if workers.less (.exact 1) then .error .noWorkers else .ok (some (.ofMeasure measure))
      else .ok none
  | none, none => .ok none

end RunConfig

structure RunSetup where
  entries : List Entry
  path : String
  writer : Writer
  tokenCounter : Option TokenCounter
  concurrency : Nat
  scope : UniqueScope
  baseSeed : Option Int

/-- Sets up a run of entries: the configuration has to be valid, and there has to be an entry. -/
def RunConfig.setUp (config : RunConfig) (entries : List Entry) (writer : Option Writer)
    (counter : Option TokenCounter) (measure : String → Nat) (stamp : String) :
    Except Error RunSetup := do
  config.validate
  if entries.isEmpty then throw (.configuration .noSchemas)
  let path ← config.outputPath writer stamp
  let writer := writer.getD (.toFile (← config.outputFormat) path (← config.rowFormat))
  let counter ← config.counter counter measure
  return ⟨entries, path, writer, counter, ← config.workers, ← config.scope,
    ← baseSeedOf entries config.seed⟩

end Colloquy
