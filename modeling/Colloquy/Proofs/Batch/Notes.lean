import Colloquy.Proofs.Batch.Annotation

/-!
# What tasks note about themselves

Every task of a batch can be made to write down when it begins and what it comes to. Whatever way a
batch goes, it can go so with such tasks, and their notes say that each task has begun once and has
ended once. The rows of the batch are those of the tasks that ended with one, in the order of the
tasks, and each other task has one failure.
-/

set_option autoImplicit false

namespace Colloquy

variable {σ : Type}

namespace TaskOutcome

def row? : TaskOutcome → Option Row
  | .ok (some (.success _ row)) => some row
  | _ => none

/-- The failure that the task at a position is dropped with: the one that it comes to, or one with its
seed if it raises an error. -/
def failure? (position : Nat) (seed : Option Int) : TaskOutcome → Option RowFailure
  | .ok (some (.failure failure)) => some failure
  | .error error => some ⟨position, seed, error⟩
  | _ => none

theorem row?_result? (position : Nat) (seed : Option Int) (outcome : TaskOutcome) :
    (outcome.result? position seed).bind RowResult.row? = outcome.row? := by
  rcases outcome with error | _ | ⟨index, row⟩ | failure <;> rfl

theorem failure?_result? (position : Nat) (seed : Option Int) (outcome : TaskOutcome) :
    (outcome.result? position seed).bind RowResult.failure? = outcome.failure? position seed := by
  rcases outcome with error | _ | ⟨index, row⟩ | failure <;> rfl

/-- An outcome that stands for something is a row or a failure, and not both. -/
theorem isSome_row?_ne (position : Nat) (seed : Option Int) {outcome : TaskOutcome}
    (returned : outcome ≠ .ok none) :
    outcome.row?.isSome ≠ (outcome.failure? position seed).isSome := by
  rcases outcome with error | _ | ⟨index, row⟩ | failure
  · simp [row?, failure?]
  · exact absurd rfl returned
  · simp [row?, failure?]
  · simp [row?, failure?]

end TaskOutcome

inductive TaskNote where
  | begun (position : Nat)
  | ended (position : Nat) (outcome : TaskOutcome)

def TaskNote.position : TaskNote → Nat
  | begun position => position
  | ended position _ => position

/-- The notes of the task at a position, in their order. -/
def notesOf (position : Nat) (log : List TaskNote) : List TaskNote :=
  log.filter fun note => note.position = position

/-- The task, which notes that it begins, and what it comes to. -/
def BatchTask.noted (task : BatchTask σ) : BatchTask (σ × List TaskNote) :=
  ⟨task.seed, fun position =>
    .step (fun both => (both.1, both.2 ++ [.begun position])) fun _ =>
      ((task.execute position).zoom Prod.fst fun state both => (state, both.2)).bind fun outcome =>
        .step (fun both => (both.1, both.2 ++ [.ended position outcome])) fun _ => .done outcome⟩

namespace Surroundings

/-- The same surroundings, beside notes that they leave alone. -/
def noted (surroundings : Surroundings σ) : Surroundings (σ × List TaskNote) where
  report level text both := (surroundings.report level text both.1, both.2)
  observer := surroundings.observer.zoom Prod.fst fun state both => (state, both.2)

theorem annotatedBy_noted (surroundings : Surroundings σ) :
    surroundings.AnnotatedBy Prod.fst surroundings.noted :=
  surroundings.annotatedBy_beside (List TaskNote)

theorem taskAnnotatedBy_noted (task : BatchTask σ) : TaskAnnotatedBy Prod.fst task task.noted where
  seed := rfl
  execute position := by
    let inside : Process (σ × List TaskNote) Empty Empty TaskOutcome :=
      (task.execute position).zoom Prod.fst fun state both => (state, both.2)
    have body : (task.execute position).AnnotatedBy Prod.fst inside :=
      .zoomed (fun _ _ => rfl) (task.execute position)
    have ended (outcome : TaskOutcome) :
        (Process.done outcome).AnnotatedBy (Prod.fst : σ × List TaskNote → σ)
          (.step (fun both => (both.1, both.2 ++ [.ended position outcome])) fun _ =>
            .done outcome : Process (σ × List TaskNote) Empty Empty TaskOutcome) :=
      .note (fun _ => rfl) fun _ => .done outcome
    have both := body.bind ended
    rw [Process.bind_done] at both
    exact .note (fun _ => rfl) fun _ => both

theorem notes_notify (surroundings : Surroundings σ) (notice : Notice)
    (both : σ × List TaskNote) : (surroundings.noted.notify notice both).2 = both.2 := by
  have same := congrArg Prod.snd (surroundings.notify_beside notice both)
  exact same

end Surroundings

/-- Others do not write notes of the task at a position, and the task writes no notes of others. -/
def Contract.noting (position : Nat) : Contract (σ × List TaskNote) Empty Empty where
  relies before after := notesOf position after.2 = notesOf position before.2
  guarantees before after :=
    ∃ notes, after.2 = before.2 ++ notes ∧ ∀ note ∈ notes, note.position = position
  answers _ _ := True
  relies_refl _ := rfl
  relies_trans first second := second.trans first

theorem notesOf_append (position : Nat) (log notes : List TaskNote) :
    notesOf position (log ++ notes) = notesOf position log ++ notesOf position notes :=
  List.filter_append ..

theorem BatchTask.abides_noted {task : BatchTask σ} {position : Nat} {good : TaskOutcome → Prop}
    (yields : (task.execute position).Yields good)
    {both : σ × List TaskNote} (waits : notesOf position both.2 = []) :
    (task.noted.execute position).Abides (.noting position) (fun outcome after =>
      notesOf position after.2 = [.begun position, .ended position outcome] ∧ good outcome) both := by
  let quiet : Contract (σ × List TaskNote) Empty Empty :=
    { Contract.noting position with guarantees := fun before after => after.2 = before.2 }
  intro before relied
  have begun : notesOf position (before.2 ++ [.begun position]) = [.begun position] := by
    rw [notesOf_append, show notesOf position before.2 = [] from relied.trans waits]
    simp [notesOf, TaskNote.position]
  refine ⟨⟨[.begun position], rfl, by simp [TaskNote.position]⟩, .bind ?_⟩
  have body : ((task.execute position).zoom Prod.fst
      fun state (both : σ × List TaskNote) => (state, both.2)).Abides quiet
        (fun outcome _ => good outcome) (before.1, before.2 ++ [.begun position]) := by
    refine Process.Abides.zoom ?_ ?_ ?_ (yields _)
    · exact fun _ _ _ => trivial
    · exact fun _ _ _ => ⟨rfl, rfl⟩
    · exact fun _ _ _ => trivial
  have unnoted := body.within fun before after =>
    notesOf position after.2 = notesOf position before.2
  refine ((unnoted ?_ ?_ ?_ ?_).weaken ?_ ?_ ?_).mono ?_
  · exact fun _ => rfl
  · exact fun first second => second.trans first
  · exact fun relied => relied
  · exact fun kept => congrArg (notesOf position) kept
  · exact fun _ _ relied => relied
  · exact fun _ _ kept => ⟨[], by rw [kept, List.append_nil], fun _ member => nomatch member⟩
  · exact fun _ _ _ => trivial
  · rintro outcome after ⟨returned, same⟩ now relied
    refine ⟨⟨[.ended position outcome], rfl, by simp [TaskNote.position]⟩, ?_⟩
    intro later relied'
    have ended : notesOf position (now.2 ++ [.ended position outcome]) =
        [.begun position, .ended position outcome] := by
      rw [notesOf_append, show notesOf position now.2 = _ from relied.trans (same.trans begun)]
      simp [notesOf, TaskNote.position]
    exact ⟨relied'.trans ended, returned⟩

namespace Surroundings

/-- What noted tasks owe: each writes notes of its own, one when it begins and one when it ends. -/
def noteDuties (tasks : List (BatchTask σ)) (good : TaskOutcome → Prop) :
    Duties (σ × List TaskNote) where
  contract := .noting
  holds both := ∀ note ∈ both.2, note.position < tasks.length
  waits position both := notesOf position both.2 = []
  ends position outcome both :=
    notesOf position both.2 = [.begun position, .ended position outcome] ∧ good outcome

variable (surroundings : Surroundings σ) {tasks : List (BatchTask σ)}

theorem dependable_noted {good : TaskOutcome → Prop}
    (yields : ∀ (position : Nat) (task : BatchTask σ), tasks[position]? = some task →
      (task.execute position).Yields good) :
    surroundings.noted.Dependable (tasks.map .noted) (noteDuties tasks good) where
  notify notice both := by
    have same := surroundings.notes_notify notice both
    exact ⟨fun position => congrArg (notesOf position) same, fun held note member =>
      held note (same ▸ member)⟩
  report _ _ _ := ⟨fun _ => rfl, id⟩
  owed := by
    rintro position other before after differ ⟨notes, appended, own⟩
    show notesOf other after.2 = notesOf other before.2
    have foreign : notesOf other notes = [] := by
      refine List.filter_eq_nil_iff.2 fun note member => ?_
      simpa [own note member] using Ne.symm differ
    rw [appended, notesOf_append, foreign, List.append_nil]
  kept := by
    rintro position before after inside held ⟨notes, appended, own⟩ note member
    rw [appended] at member
    rcases List.mem_append.1 member with earlier | new
    · exact held note earlier
    · rw [own note new]
      simpa using inside
  patient relied waits := relied.trans waits
  tasks := by
    intro position noted found both _ waits
    simp only [List.getElem?_map, Option.map_eq_some_iff] at found
    obtain ⟨task, there, rfl⟩ := found
    exact task.abides_noted (yields position task there) waits

theorem length_filterMap_add {α β γ : Type} {items : List α} {first : α → Option β}
    {second : α → Option γ} (apart : ∀ item ∈ items, (first item).isSome ≠ (second item).isSome) :
    (items.filterMap first).length + (items.filterMap second).length = items.length := by
  induction items with
  | nil => rfl
  | cons item rest ih =>
      have here := apart item List.mem_cons_self
      have others := ih fun item member => apart item (List.mem_cons_of_mem _ member)
      cases left : first item <;> cases right : second item <;> simp_all <;> omega

/-- What the outcomes stand for depends on the seeds of the tasks only. -/
theorem resultsOf_map {τ : Type} (change : BatchTask σ → BatchTask τ)
    (seeds : ∀ task, (change task).seed = task.seed) (outcomes : Nat → TaskOutcome)
    (position : Nat) :
    resultsOf (tasks.map change) outcomes position = resultsOf tasks outcomes position := by
  unfold resultsOf
  rw [List.getElem?_map]
  cases tasks[position]? with
  | none => rfl
  | some task => simp [seeds]

theorem resultsOf_noted (outcomes : Nat → TaskOutcome) (position : Nat) :
    resultsOf (tasks.map .noted) outcomes position = resultsOf tasks outcomes position :=
  resultsOf_map BatchTask.noted (fun _ => rfl) outcomes position

/-- What is read of the results of tasks, task by task. -/
theorem filterMap_resultsOf {α : Type} (outcomes : Nat → TaskOutcome) (read : RowResult → Option α) :
    (List.range tasks.length).filterMap (fun position =>
        (resultsOf tasks outcomes position).bind read) =
      tasks.zipIdx.filterMap fun entry =>
        (TaskOutcome.result? entry.2 entry.1.seed (outcomes entry.2)).bind read := by
  rw [← filterMap_range tasks.zipIdx, List.length_zipIdx]
  refine List.filterMap_congr fun position _ => ?_
  unfold resultsOf
  rw [List.getElem?_zipIdx]
  cases tasks[position]? <;> simp

/-- The scheduler loses and duplicates nothing. However the workers of a batch move, it comes to its
end, and each task has been executed once, to an outcome of its own. The rows are those of the tasks
that came to one, in the order of the tasks; each other task has one failure. -/
theorem settles_each_once {concurrency : Nat} (positive : 1 ≤ concurrency) (state : σ)
    (returns : ∀ (position : Nat) (task : BatchTask σ), tasks[position]? = some task →
      (task.execute position).Yields fun outcome => outcome ≠ .ok none) :
    Process.Finishes (surroundings.crew tasks concurrency state) ∧
      ∀ last, surroundings.Batched tasks concurrency state last →
        ∃ (log : List TaskNote) (outcomes : Nat → TaskOutcome),
          surroundings.noted.Batched (tasks.map .noted) concurrency (state, [])
            ((last.1, log), last.2) ∧
          (∀ position, notesOf position log =
            if position < tasks.length then
              [.begun position, .ended position (outcomes position)]
            else []) ∧
          last.2.rowsInOrder tasks.length =
            tasks.zipIdx.filterMap (fun entry => (outcomes entry.2).row?) ∧
          last.2.failures.Perm (tasks.zipIdx.filterMap fun entry =>
            (outcomes entry.2).failure? entry.2 entry.1.seed) ∧
          (last.2.rowsInOrder tasks.length).length + last.2.failures.length = tasks.length := by
  refine ⟨Process.finishes _ _, fun last batched => ?_⟩
  have each : List.Forall₂ (TaskAnnotatedBy Prod.fst) tasks (tasks.map .noted) :=
    List.forall₂_map_right_iff.2 (List.forall₂_same.2 fun task _ => taskAnnotatedBy_noted task)
  have shown : surroundings.Batched tasks concurrency (Prod.fst (state, ([] : List TaskNote))) last :=
    batched
  obtain ⟨⟨⟨ended, log⟩, board⟩, noted, rfl⟩ := surroundings.annotatedBy_noted.batched each shown
  have fresh (position : Nat) (_ : position < (tasks.map BatchTask.noted).length) :
      (noteDuties tasks (· ≠ .ok none)).waits position (state, []) := rfl
  have empty : (noteDuties tasks (· ≠ .ok none)).holds (state, []) := fun _ member => nomatch member
  obtain ⟨outcomes, below, ends, rows, failures⟩ :=
    noted.complete (surroundings.dependable_noted returns) positive empty fresh
  rw [List.length_map] at ends rows failures
  simp only [resultsOf_noted, filterMap_resultsOf, TaskOutcome.row?_result?,
    TaskOutcome.failure?_result?] at rows failures
  have rows : board.rowsInOrder tasks.length = _ := rows
  refine ⟨log, outcomes, noted, fun position => ?_, rows, failures, ?_⟩
  · split
    next inside => exact (ends position inside).1
    next outside =>
      refine List.filter_eq_nil_iff.2 fun note member => ?_
      have early : note.position < tasks.length := below note member
      simpa using fun same : note.position = position => outside (same ▸ early)
  · show (board.rowsInOrder tasks.length).length + board.failures.length = tasks.length
    rw [rows, failures.length_eq, length_filterMap_add, List.length_zipIdx]
    intro entry member
    have inside : entry.2 < tasks.length := by
      obtain ⟨_, inside, _⟩ := List.mem_zipIdx member
      simpa using inside
    exact TaskOutcome.isSome_row?_ne _ _ (ends entry.2 inside).2

/-- Surroundings whose observer counts what it hears, and fails each time. -/
def failing : Surroundings Nat :=
  ⟨fun _ _ heard => heard, ⟨fun notice heard => (.error (.missingKey notice.hook), heard + 1)⟩⟩

/-- A task that comes to a row after a pause, one that raises an error, and one that fails. -/
def threeTasks : List (BatchTask Nat) :=
  [⟨some 1, fun _ => .pause (.done (.ok (some (.success 0
      ⟨[], [], .empty, ⟨some 1, "model", none, "", none, []⟩⟩))))⟩,
    ⟨none, fun _ => .done (.error .notOpened)⟩,
    ⟨some 3, fun _ => .pause (.pause (.done (.ok (some (.failure ⟨2, some 3, .noWorkers⟩)))))⟩]

theorem settles_each_once_threeTasks :
    1 ≤ 2 ∧ Process.Finishes (failing.crew threeTasks 2 0) ∧
      ∃ last, failing.Batched threeTasks 2 0 last ∧
        ∃ (log : List TaskNote) (outcomes : Nat → TaskOutcome),
          failing.noted.Batched (threeTasks.map .noted) 2 (0, []) ((last.1, log), last.2) ∧
          (∀ position, notesOf position log =
            if position < 3 then [.begun position, .ended position (outcomes position)] else []) ∧
          last.2.rowsInOrder 3 =
            threeTasks.zipIdx.filterMap (fun entry => (outcomes entry.2).row?) ∧
          last.2.failures.Perm (threeTasks.zipIdx.filterMap fun entry =>
            (outcomes entry.2).failure? entry.2 entry.1.seed) ∧
          (last.2.rowsInOrder 3).length + last.2.failures.length = 3 := by
  have returns (position : Nat) (task : BatchTask Nat) (found : threeTasks[position]? = some task) :
      (task.execute position).Yields fun outcome => outcome ≠ .ok none := by
    have member : task ∈ threeTasks := List.mem_of_getElem? found
    simp only [threeTasks, List.mem_cons, List.not_mem_nil, or_false] at member
    rcases member with rfl | rfl | rfl
    · exact .pause (.done (by simp))
    · exact .done (by simp)
    · exact .pause (.pause (.done (by simp)))
  have settled := failing.settles_each_once (show 1 ≤ 2 by decide) 0 returns
  exact ⟨by decide, settled.1, _, failing.batched_runBatch 2 0,
    settled.2 _ (failing.batched_runBatch 2 0)⟩

end Surroundings

end Colloquy
