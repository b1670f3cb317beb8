import Colloquy.Proofs.Batch.Notes
import Colloquy.Proofs.Batch.Told

/-!
# The progress of a batch

At every moment of a batch the board counts the tasks that are being executed, and these are not more
than the workers. The observer of a batch can be overheard: from the start to the end it is told of
every change of the board, and of each failed task before that task counts as completed.
-/

set_option autoImplicit false

namespace Colloquy

variable {σ : Type}

namespace Surroundings

/-- At a moment of a batch each worker is free or executes a task of its own. The board says how many
tasks are being executed, and `busy` which task each worker is at. -/
structure Counted (surroundings : Surroundings σ) (tasks : List (BatchTask σ)) (concurrency : Nat)
    (moment : List (Process (σ × Board) Empty Empty Unit) × (σ × Board)) (busy : Nat → Option Nat) :
    Prop where
  free : ∀ {place : Nat} {process : Process (σ × Board) Empty Empty Unit},
    moment.1[place]? = some process → busy place = none →
      ∃ turns, process = surroundings.worker tasks turns
  executing : ∀ {place position : Nat} {process : Process (σ × Board) Empty Empty Unit},
    moment.1[place]? = some process → busy place = some position →
      ∃ turns task body, tasks[position]? = some task ∧ (task.execute position).Leaves body ∧
        process = surroundings.attend tasks turns position task body
  distinct : ((List.range moment.1.length).filterMap busy).Nodup
  inProgress : ((List.range moment.1.length).filterMap busy).length = moment.2.2.inProgress
  bounded : moment.2.2.inProgress ≤ min concurrency tasks.length
  within : moment.2.2.completed + moment.2.2.inProgress ≤ tasks.length

section

variable {surroundings : Surroundings σ} {tasks : List (BatchTask σ)} {duties : Duties σ}
variable {busy : Nat → Option Nat} {settled : List Nat} {outcomes : Nat → TaskOutcome}
variable {moment : List (Process (σ × Board) Empty Empty Unit) × (σ × Board)}

theorem Ledger.executing (ledger : surroundings.Ledger tasks duties busy settled outcomes moment) :
    ((List.range moment.1.length).filterMap busy).Nodup ∧
      ((List.range moment.1.length).filterMap busy).length = moment.2.2.inProgress := by
  have books := ledger.books
  have all := books.underway ledger.vacant
  have count := all.length_eq
  rw [List.length_append, List.length_range, books.next_eq, books.completed] at count
  exact ⟨(List.nodup_append.1 (all.nodup_iff.2 List.nodup_range)).1, by omega⟩

theorem Ledger.counted (ledger : surroundings.Ledger tasks duties busy settled outcomes moment)
    {concurrency : Nat} (length : moment.1.length = min concurrency tasks.length) :
    surroundings.Counted tasks concurrency moment busy := by
  obtain ⟨distinct, inProgress⟩ := ledger.executing
  constructor
  case free =>
    intro place process here free
    have staffed := ledger.staffed place process here
    rw [free] at staffed
    obtain ⟨turns, same, _⟩ := staffed
    exact ⟨turns, same⟩
  case executing =>
    intro place position process here taken
    have staffed := ledger.staffed place process here
    rw [taken] at staffed
    obtain ⟨turns, task, body, found, same, leaves, _⟩ := staffed
    exact ⟨turns, task, body, found, leaves, same⟩
  case distinct => exact distinct
  case inProgress => exact inProgress
  case bounded =>
    have fewer := List.length_filterMap_le busy (List.range moment.1.length)
    rw [inProgress, List.length_range, length] at fewer
    exact fewer
  case within =>
    have next := ledger.books.next_eq
    have inside := ledger.books.next_le
    omega

variable (σ) in
/-- Nothing is owed, and nothing is expected. -/
def freedom : Duties σ where
  contract _ := .any
  holds _ := True
  waits _ _ := True
  ends _ _ _ := True

theorem dependable_freedom : surroundings.Dependable tasks (freedom σ) where
  notify _ _ := ⟨fun _ => trivial, id⟩
  report _ _ _ := ⟨fun _ => trivial, id⟩
  owed _ _ := trivial
  kept _ _ _ := trivial
  patient _ _ := trivial
  tasks position task _ state _ _ := .of_free (fun _ _ => trivial) (task.execute position) state

/-- The tasks that are being executed are counted at every moment. -/
theorem counted_of_interleaves {concurrency : Nat} {state : σ}
    (interleaves : Process.Interleaves Process.Nothing
      (surroundings.crew tasks concurrency state) moment) :
    ∃ busy, surroundings.Counted tasks concurrency moment busy := by
  let anything (_ : Account σ) : Prop := True
  have kept {before after : Account σ} (_ : surroundings.Stage tasks (freedom σ) before after)
      (_ : anything before) : anything after := trivial
  have start : surroundings.Ledger tasks (freedom σ) (fun _ => none) [] (fun _ => .ok none)
      (surroundings.crew tasks concurrency state) :=
    .start _ trivial (fun _ _ => trivial) _
  obtain ⟨busy, settled, outcomes, _, ledger⟩ :=
    start.interleaves dependable_freedom kept trivial interleaves
  have length : moment.1.length = min concurrency tasks.length := by
    simpa [crew] using interleaves.length
  exact ⟨busy, ledger.counted length⟩

end

/-- The same surroundings, whose observer writes down what it hears, whether or not it then fails. -/
def overheard (surroundings : Surroundings σ) : Surroundings (σ × List Notice) where
  report level text both := (surroundings.report level text both.1, both.2)
  observer := ⟨fun notice both =>
    ((surroundings.observer.hear notice both.1).1,
      (surroundings.observer.hear notice both.1).2, both.2 ++ [notice])⟩

theorem annotatedBy_overheard (surroundings : Surroundings σ) :
    surroundings.AnnotatedBy Prod.fst surroundings.overheard where
  report _ _ _ := rfl
  hear _ _ := rfl

theorem notify_overheard (surroundings : Surroundings σ) (notice : Notice)
    (both : σ × List Notice) :
    surroundings.overheard.notify notice both =
      (surroundings.notify notice both.1, both.2 ++ [notice]) := by
  unfold Surroundings.notify
  rcases heard : surroundings.observer.hear notice both.1 with ⟨result, after⟩
  have same : surroundings.overheard.observer.hear notice both =
      (result, after, both.2 ++ [notice]) := by
    simp [overheard, heard]
  rw [same]
  cases result <;> rfl

end Surroundings

/-- The same task, beside something that it leaves alone. -/
def BatchTask.beside (ρ : Type) (task : BatchTask σ) : BatchTask (σ × ρ) :=
  ⟨task.seed, fun position =>
    (task.execute position).zoom Prod.fst fun state both => (state, both.2)⟩

namespace Surroundings

theorem taskAnnotatedBy_beside (ρ : Type) (task : BatchTask σ) :
    TaskAnnotatedBy Prod.fst task (task.beside ρ) where
  seed := rfl
  execute position := .zoomed (fun _ _ => rfl) (task.execute position)

/-- The duties of tasks that leave alone what they are beside. -/
def Duties.beside (duties : Duties σ) (ρ : Type) : Duties (σ × ρ) where
  contract position :=
    { (duties.contract position).along Prod.fst with
      guarantees := fun before after =>
        (duties.contract position).guarantees before.1 after.1 ∧ after.2 = before.2 }
  holds both := duties.holds both.1
  waits position both := duties.waits position both.1
  ends position outcome both := duties.ends position outcome both.1

section

variable {surroundings : Surroundings σ} {tasks : List (BatchTask σ)} {duties : Duties σ}

/-- Tasks are as dependable when the observer is overheard. -/
theorem Dependable.overheard (dependable : surroundings.Dependable tasks duties) :
    surroundings.overheard.Dependable (tasks.map (.beside (List Notice)))
      (duties.beside (List Notice)) where
  notify notice both := by
    rw [notify_overheard]
    have harmless := dependable.notify notice both.1
    exact ⟨harmless.relied, harmless.kept⟩
  report level text both := by
    have harmless := dependable.report level text both.1
    exact ⟨harmless.relied, harmless.kept⟩
  owed differ owed := dependable.owed differ owed.1
  kept inside held owed := dependable.kept (by simpa using inside) held owed.1
  patient relied waits := dependable.patient relied waits
  tasks := by
    intro position besideTask found both held waits
    simp only [List.getElem?_map, Option.map_eq_some_iff] at found
    obtain ⟨task, there, rfl⟩ := found
    refine Process.Abides.zoom ?_ ?_ ?_ (dependable.tasks position task there both.1 held waits)
    · exact fun _ _ relied => relied
    · exact fun _ _ owed => ⟨rfl, owed, rfl⟩
    · exact fun query => query.elim

variable (tasks) in
/-- The failures that the outcomes of the tasks stand for, by position. -/
def failureOf (outcomes : Nat → TaskOutcome) (position : Nat) : Option RowFailure :=
  tasks[position]?.bind fun task => (outcomes position).failure? position task.seed

theorem failure?_resultsOf (outcomes : Nat → TaskOutcome) (position : Nat) :
    (resultsOf tasks outcomes position).bind RowResult.failure? =
      failureOf tasks outcomes position := by
  unfold resultsOf failureOf
  cases tasks[position]? with
  | none => rfl
  | some task => exact TaskOutcome.failure?_result? position task.seed (outcomes position)

theorem failureOf_map {τ : Type} (change : BatchTask σ → BatchTask τ)
    (seeds : ∀ task, (change task).seed = task.seed) (outcomes : Nat → TaskOutcome) :
    failureOf (tasks.map change) outcomes = failureOf tasks outcomes := by
  funext position
  rw [← failure?_resultsOf, ← failure?_resultsOf, resultsOf_map change seeds]

theorem begin_of_lt {total : Nat} {both : σ × Board} (left : both.2.next < total) :
    surroundings.begin total both =
      (surroundings.notify (both.2.enter.notice total) both.1, both.2.enter) :=
  if_pos left

theorem begin_of_not_lt {total : Nat} {both : σ × Board} (left : ¬both.2.next < total) :
    surroundings.begin total both = both :=
  if_neg left

theorem counts_settle (total position : Nat) (result : Option RowResult) (both : σ × Board) :
    (surroundings.settle total position result both).2.inProgress = both.2.inProgress - 1 ∧
      (surroundings.settle total position result both).2.completed = both.2.completed + 1 :=
  ⟨congrArg (· - 1) (counts_keep position result both).1,
    congrArg (· + 1) (counts_keep position result both).2⟩

theorem heard_keep (position : Nat) (result : Option RowResult) (both : (σ × List Notice) × Board) :
    (surroundings.overheard.keep position result both).1.2 =
      both.1.2 ++ (result.bind RowResult.failure?).toList.map
        fun failure => .failure failure.index failure.error := by
  rcases result with _ | ⟨index, row⟩ | failure
  · exact (List.append_nil _).symm
  · exact (List.append_nil _).symm
  · exact congrArg Prod.snd (surroundings.notify_overheard _ _)

theorem heard_settle (total position : Nat) (result : Option RowResult)
    (both : (σ × List Notice) × Board) :
    (surroundings.overheard.settle total position result both).1.2 =
      both.1.2 ++ (result.bind RowResult.failure?).toList.map
        (fun failure => .failure failure.index failure.error) ++
        [.progress (both.2.completed + 1 : Nat) (both.2.inProgress - 1 : Nat) total] := by
  have counts := surroundings.overheard.counts_keep position result both
  simp only [settle, notify_overheard, heard_keep, Board.notice, Board.leave, counts.1, counts.2]

/-- What an account says of what has been heard. -/
def Followed (tasks : List (BatchTask σ)) (concurrency : Nat)
    (account : Account (σ × List Notice)) : Prop :=
  account.both.2.completed = account.settled.length ∧
    Told tasks.length concurrency (failureOf tasks account.outcomes) account.both.1.2
      account.settled account.both.2.inProgress

/-- Whatever a worker does, the observer hears of it. -/
theorem Followed.stage {concurrency : Nat} {before after : Account (σ × List Notice)}
    (followed : Followed tasks concurrency before)
    (stage : surroundings.overheard.Stage (tasks.map (.beside (List Notice)))
      (duties.beside (List Notice)) before after) :
    Followed tasks concurrency after := by
  obtain ⟨completed, told⟩ := followed
  cases stage with
  | take =>
      rw [List.length_map]
      by_cases left : before.both.2.next < tasks.length
      · rw [begin_of_lt left, notify_overheard]
        refine ⟨completed, ?_⟩
        have entered := told.enter
        rw [← completed] at entered
        exact entered
      · rw [begin_of_not_lt left]
        exact ⟨completed, told⟩
  | @work position state owed =>
      have same : state.2 = before.both.1.2 := by
        rcases owed with rfl | owed
        · rfl
        · exact owed.2
      refine ⟨completed, ?_⟩
      dsimp only
      rw [same]
      exact told
  | @settle position besideTask outcome found fresh running =>
      simp only [List.getElem?_map, Option.map_eq_some_iff] at found
      obtain ⟨task, there, rfl⟩ := found
      have one : before.both.2.inProgress = before.both.2.inProgress - 1 + 1 := by omega
      have known (other : Nat) (member : other ∈ before.settled) :
          failureOf tasks before.outcomes other =
            failureOf tasks (Function.update before.outcomes position outcome) other := by
        have differ : other ≠ position := by
          rintro rfl
          exact fresh member
        unfold failureOf
        rw [Function.update_of_ne differ]
      have failure : failureOf tasks (Function.update before.outcomes position outcome) position =
          (TaskOutcome.result? position task.seed outcome).bind RowResult.failure? := by
        simp [failureOf, there, TaskOutcome.failure?_result?]
      let size := (tasks.map (BatchTask.beside (List Notice))).length
      let result := TaskOutcome.result? position task.seed outcome
      have counts := surroundings.overheard.counts_settle size position result before.both
      rw [one] at told
      have settled := (told.congr known).settle position
      have heard : Told tasks.length concurrency
          (failureOf tasks (Function.update before.outcomes position outcome))
          (surroundings.overheard.settle size position result before.both).1.2
          (before.settled ++ [position])
          (surroundings.overheard.settle size position result before.both).2.inProgress := by
        rw [failure, ← completed] at settled
        have length : size = tasks.length := List.length_map _
        rw [heard_settle, counts.1, length]
        exact settled
      refine ⟨counts.2.trans ?_, heard⟩
      rw [completed, List.length_append, List.length_singleton]

/-- Whoever overhears a batch has been told of each of its tasks when it ends. -/
theorem Batched.recited (dependable : surroundings.Dependable tasks duties) {concurrency : Nat}
    (positive : 1 ≤ concurrency) {state : σ} (holding : duties.holds state)
    (waiting : ∀ position < tasks.length, duties.waits position state)
    {last : (σ × List Notice) × Board}
    (batched : surroundings.overheard.Batched (tasks.map (.beside (List Notice))) concurrency
      (state, []) last) :
    ∃ (outcomes : Nat → TaskOutcome) (settled : List Nat),
      settled.Perm (List.range tasks.length) ∧
        (∀ position < tasks.length, duties.ends position (outcomes position) last.1.1) ∧
        Recital tasks.length concurrency (failureOf tasks outcomes) settled last.1.2 := by
  let change : BatchTask σ → BatchTask (σ × List Notice) := .beside (List Notice)
  have length : (tasks.map change).length = tasks.length := List.length_map _
  have start : Followed tasks concurrency ⟨(surroundings.overheard.crew (tasks.map change)
      concurrency (state, [])).2, [], fun _ => .ok none⟩ := by
    refine ⟨rfl, ?_⟩
    dsimp only [crew]
    rw [notify_overheard, length]
    exact .start
  have holds : (duties.beside (List Notice)).holds (state, []) := holding
  have waits (position : Nat) (inside : position < (tasks.map change).length) :
      (duties.beside (List Notice)).waits position (state, []) :=
    waiting position (length ▸ inside)
  obtain ⟨⟨both, settled, outcomes⟩, ⟨completed, told⟩, all, _, ended, books, rfl⟩ :=
    batched.closed dependable.overheard positive holds waits
      (fun stage followed => followed.stage stage) start
  dsimp only at completed told all ended books
  rw [length] at all ended books
  have count : settled.length = tasks.length := by
    rw [all.length_eq, List.length_range]
  have idle : both.2.inProgress = 0 := by
    have next := books.next_eq
    have inside := books.next_le
    omega
  have failures : both.2.failures = settled.filterMap (failureOf tasks outcomes) := by
    rw [books.failures]
    refine List.filterMap_congr fun position _ => ?_
    rw [failure?_resultsOf, failureOf_map change fun _ => rfl]
  refine ⟨outcomes, settled, all, fun position inside => ?_, ?_⟩
  · exact ended position inside _ ((dependable.overheard.notify _ _).relied position)
  · rw [idle] at told
    rw [notify_overheard, failures, length, completed, count]
    exact told.recital count

end

end Surroundings

end Colloquy
