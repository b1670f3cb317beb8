import Colloquy.Error.Basic
import Colloquy.Log.Basic

/-!
# Notices

What a batch tells those who watch it. An observer may write to what it is shown and may fail; a
batch goes on in any case.
-/

set_option autoImplicit false

namespace Colloquy

inductive Notice where
  | start (total concurrency : Int)
  | progress (completed inProgress total : Int)
  | failure (index : Int) (error : Error)
  | finish (completed failed total : Int)

def Notice.hook : Notice → String
  | start _ _ => "on_start"
  | progress _ _ _ => "on_progress"
  | failure _ _ => "on_failure"
  | finish _ _ _ => "on_finish"

/-- An observer of a batch that works on a state `σ`. -/
structure Observer (σ : Type) where
  hear : Notice → σ → Except Error Unit × σ

namespace Observer

variable {σ τ : Type}

def silent : Observer σ := ⟨fun _ state => (.ok (), state)⟩

def zoom (part : τ → σ) (replace : σ → τ → τ) (observer : Observer σ) : Observer τ :=
  ⟨fun notice whole =>
    let (result, inner) := observer.hear notice (part whole)
    (result, replace inner whole)⟩

end Observer

/-- The state of an observer that reports progress in the log. -/
structure ProgressReport where
  /-- The level of its lines, which may be anything until a line is written. -/
  level : Datum
  failed : Int
  lastCompleted : Int

namespace ProgressReport

def fresh (level : Datum) : ProgressReport := ⟨level, 0, -1⟩

def hear (report : ProgressReport) : Notice → ProgressReport
  | .start _ _ => fresh report.level
  | .progress completed _ _ => { report with lastCompleted := completed }
  | .failure _ _ => { report with failed := report.failed + 1 }
  | .finish _ _ _ => report

/-- The line for a notice, if there is one: progress is told only when a row has been finished since
the last line. -/
def line? (report : ProgressReport) : Notice → Option String
  | .start total concurrency => some s!"Generating {total} rows | Concurrency: {concurrency}"
  | .progress completed inProgress total =>
      if completed = report.lastCompleted then none
      else some (s!"Progress: {completed}/{total} | In progress: {inProgress} | " ++
        s!"Failed: {report.failed}")
  | .failure _ _ => none
  | .finish completed failed total =>
      some s!"Generation finished | Succeeded: {completed - failed}/{total} | Failed: {failed}"

def observer : Observer (Log × ProgressReport) :=
  ⟨fun notice (log, report) =>
    match report.line? notice with
    | none => (.ok (), log, report.hear notice)
    | some text =>
        match LogLevel.nameOf report.level with
        | .ok level => (.ok (), log.push ⟨level, text⟩, report.hear notice)
        | .error error => (.error error, log, report.hear notice)⟩

end ProgressReport

end Colloquy
