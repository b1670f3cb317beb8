import Colloquy.Batch.Basic
import Colloquy.Batch.Watch
import Colloquy.Model.Client
import Colloquy.Row.Generator

/-!
# Trial batches

Batches of tasks that pause a number of times and end as they are told, for trying out how batches
run: what is observed, and how many tasks run at the same time.
-/

set_option autoImplicit false

namespace Colloquy

inductive TrialEnd where
  | row
  | failure (seed : Option Int) (error : Error)
  | error (error : Error)
  | nothing

/-- A task that pauses and then ends as it is told. -/
structure TrialTask where
  seed : Option Int
  pauses : Nat
  ending : TrialEnd

structure Trial where
  shared : Shared
  watch : Watch
  running : Nat
  /-- The greatest number of tasks that were running at the same time. -/
  peak : Nat

namespace Trial

def start (watch : Watch) : Trial := ⟨⟨.fresh, #[]⟩, watch, 0, 0⟩

def renew (trial : Trial) : Trial :=
  { trial with
    watch := { trial.watch with recorder := { trial.watch.recorder with happenings := [] } }
    running := 0
    peak := 0 }

def record (happening : Happening) (trial : Trial) : Trial :=
  { trial with
    watch := { trial.watch with recorder := trial.watch.recorder.add happening } }

def enter (position : Nat) (trial : Trial) : Trial :=
  { trial.record (.begun position) with
    running := trial.running + 1
    peak := max trial.peak (trial.running + 1) }

def leave (position : Nat) (trial : Trial) : Trial :=
  { trial.record (.ended position) with running := trial.running - 1 }

def surroundings (kind : WatchKind) : Surroundings Trial :=
  ⟨fun level text trial => { trial with shared := trial.shared.report level text },
    kind.observer.zoom (fun trial => (trial.shared.log, trial.watch)) fun inner trial =>
      { trial with shared := { trial.shared with log := inner.1 }, watch := inner.2 }⟩

end Trial

def trialRecipe (position : Nat) : RowRecipe :=
  ⟨.tree (.node (.leaf (.fixed (.text Role.user.name) (.text s!"Row {position}")))), none, 0,
    position, .none, [], none, .text "", .null, ""⟩

def trialRow (position : Nat) : Process Trial Empty Empty RowResult :=
  (((Client.absent (μ := Unit)).serve (RowRecipe.once (trialRecipe position).runRow)).zoom
    (fun trial : Trial => (trial.shared, ())) fun both trial =>
      { trial with shared := both.1 }).bind fun result => .done result.1

def TrialEnd.outcome (position : Nat) : TrialEnd → Process Trial Empty Empty TaskOutcome
  | row => (trialRow position).bind fun result => .done (.ok (some result))
  | failure seed cause => .done (.ok (some (.failure ⟨position, seed, cause⟩)))
  | error cause => .done (.error cause)
  | nothing => .done (.ok none)

def TrialTask.task (trial : TrialTask) : BatchTask Trial :=
  ⟨trial.seed, fun position =>
    .step (Trial.enter position) fun _ =>
      Nat.repeat Process.pause trial.pauses
        (.step (Trial.leave position) fun _ => trial.ending.outcome position)⟩

end Colloquy
