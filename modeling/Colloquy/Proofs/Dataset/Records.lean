import Colloquy.Proofs.Batch.Notes
import Colloquy.Proofs.Dataset.Concurrency

/-!
# Recorded runs

A run whose tasks write records, and do else what the tasks of another run do, can go every way that
the other goes. If the tasks do their duties then their outcomes, the rows of the run and its failures
are accounted for, beside the records.
-/

set_option autoImplicit false

namespace Colloquy

variable {μ π ω ρ : Type}

namespace Run

/-- The tasks of a run, each executed by a process that writes records. -/
def recordedBatch (run : Run μ π ω)
    (process : RowTask → Nat → Process (RunWorld μ π ω × ρ) Empty Empty TaskOutcome) :
    List (BatchTask (RunWorld μ π ω × ρ)) :=
  run.tasks.map fun task => ⟨task.seed, process task⟩

/-- One of the ways in which the run may go if its tasks write records, and the records behind it. -/
def Records (run : Run μ π ω) (batch : List (BatchTask (RunWorld μ π ω × ρ))) (start : ρ)
    (elapsed : String) (world : RunWorld μ π ω) (last : Except Error Board × RunWorld μ π ω)
    (records : ρ) : Prop :=
  ∃ outlet both, run.outlet.start world.outlet = .ok outlet ∧
    (run.surroundings.beside ρ).Batched batch run.concurrency (run.opened world outlet, start)
      ((both.1, records), both.2) ∧
    last = run.close elapsed both

section

variable {run : Run μ π ω} {elapsed : String} {world : RunWorld μ π ω}
variable {process : RowTask → Nat → Process (RunWorld μ π ω × ρ) Empty Empty TaskOutcome}
variable {last : Except Error Board × RunWorld μ π ω} {board : Board} {start record : ρ}

/-- However a run goes, it can go so with tasks that write records. -/
theorem Executes.recorded
    (annotates : ∀ task position, (run.execute task).AnnotatedBy Prod.fst (process task position))
    (start : ρ) (executes : run.Executes elapsed world last) (ended : last.1 = .ok board) :
    ∃ record, run.Records (run.recordedBatch process) start elapsed world last record := by
  obtain ⟨outlet, both, started, batched, _, rfl⟩ := executes.batched ended
  have each : List.Forall₂ (Surroundings.TaskAnnotatedBy Prod.fst) run.batch
      (run.recordedBatch process) := by
    refine List.forall₂_map_right_iff.2 (List.forall₂_map_left_iff.2 (List.forall₂_same.2 ?_))
    exact fun task _ => ⟨rfl, annotates task⟩
  have shown : run.surroundings.Batched run.batch run.concurrency
      (Prod.fst (run.opened world outlet, start)) both := batched
  obtain ⟨⟨⟨ending, record⟩, final⟩, recorded, rfl⟩ :=
    (run.surroundings.annotatedBy_beside ρ).batched each shown
  exact ⟨record, outlet, _, started, recorded, rfl⟩

/-- A recorded run has done what its tasks owe, and each row or failure is that of one task. -/
theorem Records.complete {duties : Surroundings.Duties (RunWorld μ π ω × ρ)}
    (dependable : (run.surroundings.beside ρ).Dependable (run.recordedBatch process) duties)
    (positive : 1 ≤ run.concurrency)
    (holding : ∀ outlet, run.outlet.start world.outlet = .ok outlet →
      duties.holds (run.opened world outlet, start))
    (waiting : ∀ outlet position, duties.waits position (run.opened world outlet, start))
    (recorded : run.Records (run.recordedBatch process) start elapsed world last record)
    (ended : last.1 = .ok board) :
    ∃ (ending : RunWorld μ π ω) (outcomes : Nat → TaskOutcome),
      last = run.close elapsed (ending, board) ∧ duties.holds (ending, record) ∧
      (∀ position < run.tasks.length,
        duties.ends position (outcomes position) (ending, record)) ∧
      run.rows board = run.tasks.zipIdx.filterMap (fun entry => (outcomes entry.2).row?) ∧
      board.failures.Perm (run.tasks.zipIdx.filterMap fun entry =>
        (outcomes entry.2).failure? entry.2 entry.1.seed) := by
  obtain ⟨outlet, both, started, batched, rfl⟩ := recorded
  obtain rfl : both.2 = board := Except.ok.inj ended
  have length : (run.recordedBatch process).length = run.tasks.length := List.length_map _
  obtain ⟨outcomes, holds, ends, rows, failures⟩ :=
    batched.complete dependable positive (holding outlet started) fun position _ =>
      waiting outlet position
  simp only [Surroundings.filterMap_resultsOf, TaskOutcome.row?_result?,
    TaskOutcome.failure?_result?, recordedBatch, List.zipIdx_map, List.filterMap_map] at rows failures
  rw [length] at ends
  rw [List.length_map] at rows
  exact ⟨both.1, outcomes, rfl, holds, ends, rows, failures⟩

end

end Run

end Colloquy
