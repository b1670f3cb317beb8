import Colloquy.Datum.Order
import Colloquy.Error.Basic

/-!
# Configuration of a run

The settings of a run as a caller gives them, and what they have to be. Settings are looked at when
a run is set up; until then they may be anything.
-/

set_option autoImplicit false

namespace Colloquy

/-- The form of the file that rows are written to. -/
inductive OutputFormat where
  | jsonl
  | parquet
  deriving Repr, DecidableEq

/-- The name of a form of file, which is also the ending of its path. -/
def OutputFormat.name : OutputFormat → String
  | jsonl => "jsonl"
  | parquet => "parquet"

inductive ExportFormat where
  | messages
  | chatTemplate
  deriving Repr, DecidableEq

def ExportFormat.name : ExportFormat → String
  | messages => "messages"
  | chatTemplate => "chat_template"

/-- How long used identifiers count as used. -/
inductive UniqueScope where
  | run
  | row
  deriving Repr, DecidableEq

def UniqueScope.name : UniqueScope → String
  | run => "run"
  | row => "row"

def OutputFormat.all : List OutputFormat := [.jsonl, .parquet]

def ExportFormat.all : List ExportFormat := [.messages, .chatTemplate]

def UniqueScope.all : List UniqueScope := [.run, .row]

def memberOf? {α : Type} (members : List α) (name : α → String) (value : Datum) : Option α :=
  members.find? fun member => value.equal (.text (name member))

/-- The member whose name a value is; `enumeration` is the name for all of them. -/
def memberOf {α : Type} (members : List α) (name : α → String) (enumeration : String)
    (value : Datum) : Except Error α :=
  match memberOf? members name value with
  | some member => .ok member
  | none => .error (.notMember value.shown enumeration)

def OutputFormat.ofDatum (value : Datum) : Except Error OutputFormat :=
  memberOf OutputFormat.all OutputFormat.name "OutputFormat" value

def ExportFormat.ofDatum (value : Datum) : Except Error ExportFormat :=
  memberOf ExportFormat.all ExportFormat.name "ExportFormat" value

structure RunConfig where
  output : Datum
  format : Datum
  exportFormat : Datum
  concurrency : Datum
  seed : Datum
  tokenCounterWorkers : Datum
  uniqueScope : Datum
  modelId : Datum
  metadata : Datum
  showProgress : Datum
  logLevel : Datum

namespace RunConfig

def defaults : Fields := [
  ("output", .null), ("format", .text "jsonl"), ("export_format", .text "messages"),
  ("concurrency", .int 5), ("seed", .null), ("token_counter_workers", .int 3),
  ("unique_scope", .text "run"), ("model_id", .null), ("metadata", .null),
  ("show_progress", .bool true), ("log_level", .text "INFO")]

def ofFields (settings : Fields) : Except Error RunConfig :=
  match settings.find? fun setting => (defaults.get? setting.1).isNone with
  | some setting =>
      .error (.unsupported .type ("unexpected setting '" ++ setting.1 ++ "'"))
  | none =>
      let setting (name : String) : Datum :=
        ((settings.get? name).or (defaults.get? name)).getD .null
      .ok ⟨setting "output", setting "format", setting "export_format", setting "concurrency",
        setting "seed", setting "token_counter_workers", setting "unique_scope",
        setting "model_id", setting "metadata", setting "show_progress", setting "log_level"⟩

def parseSetting {α : Type} (members : List α) (name : α → String) (field : String)
    (value : Datum) : Except Error α :=
  match memberOf? members name value with
  | some member => .ok member
  | none =>
      .error (.configuration (.setting field value.shown
        ((members.map name).mergeSort fun left right => left ≤ right)))

def outputFormat (config : RunConfig) : Except Error OutputFormat :=
  parseSetting OutputFormat.all OutputFormat.name "format" config.format

def rowFormat (config : RunConfig) : Except Error ExportFormat :=
  parseSetting ExportFormat.all ExportFormat.name "export_format" config.exportFormat

def scope (config : RunConfig) : Except Error UniqueScope :=
  parseSetting UniqueScope.all UniqueScope.name "unique_scope" config.uniqueScope

/-- The greatest number of rows that are generated at the same time. -/
def workers (config : RunConfig) : Except Error Nat :=
  match config.concurrency with
  | .int count =>
      if count < 1 then
        .error (.configuration (.concurrency config.concurrency.spoken))
      else .ok count.toNat
  | other => .error (.configuration (.concurrencyType other.shown))

def validate (config : RunConfig) : Except Error Unit := do
  let _ ← config.workers
  if ← config.tokenCounterWorkers.ordered .below (.int 0) then throw (.configuration .workers)
  let _ ← config.outputFormat
  let _ ← config.rowFormat
  let _ ← config.scope

end RunConfig

end Colloquy
