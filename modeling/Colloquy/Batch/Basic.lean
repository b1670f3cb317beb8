import Colloquy.Batch.Notice
import Colloquy.Process.Pool
import Colloquy.Row.Failure

/-!
# Batches

A batch runs the tasks of many rows on a number of workers. Each worker takes the next task when it
is free. A task that fails is reported and dropped, and does not disturb the others; the rows of the
tasks that succeed come in the order of the tasks.
-/

set_option autoImplicit false

namespace Colloquy

/-- What a batch needs of the state it works on. -/
structure Surroundings (σ : Type) where
  report : LogLevel → String → σ → σ
  observer : Observer σ

abbrev TaskOutcome := Except Error (Option RowResult)

structure BatchTask (σ : Type) where
  /-- The seed that is recorded if the task ends in an error. -/
  seed : Option Int
  execute : Nat → Process σ Empty Empty TaskOutcome

structure Board where
  next : Nat
  inProgress : Nat
  completed : Nat
  failures : List RowFailure
  rows : List (Nat × Row)

namespace Board

def empty : Board := ⟨0, 0, 0, [], []⟩

def enter (board : Board) : Board :=
  { board with next := board.next + 1, inProgress := board.inProgress + 1 }

def leave (board : Board) : Board :=
  { board with inProgress := board.inProgress - 1, completed := board.completed + 1 }

def notice (total : Nat) (board : Board) : Notice :=
  .progress board.completed board.inProgress total

def rowsInOrder (total : Nat) (board : Board) : List Row :=
  (List.range total).filterMap fun position => board.rows.lookup position

end Board

/-- The level and the text of the line that reports a dropped row. -/
def RowFailure.line (failure : RowFailure) : LogLevel × String :=
  match failure.kind with
  | .seedSkew =>
      (.error, s!"Row {failure.index} dropped | Kind: {failure.kind.name}\n" ++
        failure.error.message)
  | _ =>
      (.warning, s!"Row {failure.index} dropped | Kind: {failure.kind.name} | " ++
        s!"Seed: {(Datum.ofInt? failure.seed).spoken} | Error: " ++ failure.error.message)

/-- The result that the outcome of a task at a position stands for. -/
def TaskOutcome.result? (position : Nat) (seed : Option Int) : TaskOutcome → Option RowResult
  | .ok result => result
  | .error error => some (.failure ⟨position, seed, error⟩)

namespace Surroundings

variable {σ : Type} (surroundings : Surroundings σ)

/-- Tells the observer; an observer that fails is reported and otherwise ignored. -/
def notify (notice : Notice) (state : σ) : σ :=
  match surroundings.observer.hear notice state with
  | (.ok (), state) => state
  | (.error error, state) =>
      surroundings.report .warning
        (s!"Progress sink failed | Hook: {notice.hook} | Error: " ++ error.message) state

def drop (failure : RowFailure) (state : σ) : σ :=
  surroundings.notify (.failure failure.index failure.error)
    (surroundings.report failure.line.1 failure.line.2 state)

/-- The state when the next of `total` tasks begins; nothing happens if there is none left. -/
def begin (total : Nat) (both : σ × Board) : σ × Board :=
  if both.2.next < total then
    (surroundings.notify (both.2.enter.notice total) both.1, both.2.enter)
  else both

def keep (position : Nat) (result : Option RowResult) (both : σ × Board) : σ × Board :=
  match result with
  | none => both
  | some (.success _ row) =>
      (both.1, { both.2 with rows := both.2.rows ++ [(position, row)] })
  | some (.failure failure) =>
      (surroundings.drop failure both.1,
        { both.2 with failures := both.2.failures ++ [failure] })

def settle (total position : Nat) (result : Option RowResult) (both : σ × Board) : σ × Board :=
  let kept := surroundings.keep position result both
  (surroundings.notify (kept.2.leave.notice total) kept.1, kept.2.leave)

/-- A worker that takes a limited number of tasks, one after another. -/
def worker (tasks : List (BatchTask σ)) : Nat → Process (σ × Board) Empty Empty Unit
  | 0 => .done ()
  | turns + 1 =>
      .step (surroundings.begin tasks.length) fun before =>
        match tasks[before.2.next]? with
        | none => .done ()
        | some task =>
            ((task.execute before.2.next).zoom Prod.fst fun state both => (state, both.2)).bind
              fun outcome =>
                .step (surroundings.settle tasks.length before.2.next
                  (TaskOutcome.result? before.2.next task.seed outcome)) fun _ =>
                    worker tasks turns

/-- Runs the tasks on a number of workers: the final board, and the state. -/
def runBatch (concurrency : Nat) (tasks : List (BatchTask σ)) (state : σ) : σ × Board :=
  let state := surroundings.notify (.start tasks.length concurrency) state
  let workers := List.replicate (min concurrency tasks.length)
    (surroundings.worker tasks tasks.length)
  let (state, board) := (Process.together workers (state, Board.empty)).2
  (surroundings.notify (.finish board.completed board.failures.length tasks.length) state, board)

end Surroundings

/-- The number of workers that a value stands for: an integer that is at least one. -/
def workersOf (value : Datum) : Except Error Nat :=
  match value with
  | .int count =>
      if count < 1 then .error (.configuration (.concurrency value.shown)) else .ok count.toNat
  | other => .error (.configuration (.concurrency other.shown))

end Colloquy
