import Colloquy.Proofs.Batch.Progress
import Colloquy.Proofs.Dataset.Concurrency

/-!
# Model calls in flight

A row waits for the answer to a call before it goes on. Behind a client that keeps a list of the calls
that it is answering, each row of a run is therefore on that list at most once, and not at all unless
it is in progress: a run has no more calls in flight than rows.
-/

set_option autoImplicit false

namespace Colloquy

/-- How the task at a position changes the list of calls in flight: a call of its own begins when it has
none there, or has been answered. -/
inductive Metered (position : Nat) (before after : List Nat) : Prop where
  | keep (same : after = before)
  | begin (free : before.count position = 0) (added : after = before ++ [position])
  | finish (removed : after = before.erase position)

namespace Metered

variable {position other size : Nat} {before after : List Nat}

theorem count_of_ne (metered : Metered position before after) (differ : other ≠ position) :
    after.count other = before.count other := by
  cases metered with
  | keep same => rw [same]
  | begin _ added =>
      have absent : other ∉ [position] := by simpa using differ
      rw [added, List.count_append, List.count_eq_zero.2 absent, Nat.add_zero]
  | finish removed => rw [removed, List.count_erase_of_ne differ]

/-- No task has more than one call on the list. -/
theorem kept (metered : Metered position before after) (inside : position < size)
    (listed : before.Nodup ∧ ∀ position ∈ before, position < size) :
    after.Nodup ∧ ∀ position ∈ after, position < size := by
  obtain ⟨nodup, below⟩ := listed
  cases metered with
  | keep same => exact same ▸ ⟨nodup, below⟩
  | begin free added =>
      rw [added]
      refine ⟨List.nodup_append.2 ⟨nodup, List.nodup_singleton _, ?_⟩, fun other member => ?_⟩
      · rintro known member _ last rfl
        exact List.count_eq_zero.1 free (List.mem_singleton.1 last ▸ member)
      · rcases List.mem_append.1 member with known | last
        · exact below other known
        · exact List.mem_singleton.1 last ▸ inside
  | finish removed =>
      rw [removed]
      exact ⟨nodup.erase position, fun other member => below other (List.mem_of_mem_erase member)⟩

end Metered

/-- Others do not change the calls of the task at a position. -/
def Contract.metering {τ : Type} (calls : τ → List Nat) (position : Nat) : Contract τ Empty Empty where
  relies before after := (calls after).count position = (calls before).count position
  guarantees before after := Metered position (calls before) (calls after)
  answers _ _ := True
  relies_refl _ := rfl
  relies_trans first second := second.trans first

variable {μ π ω α : Type}

namespace Client

/-- What a metered client has beside the calls in flight. -/
def unmetered (both : Shared × μ × List Nat) : Shared × μ := (both.1, both.2.1)

/-- The client, which keeps a list of the calls that it is answering, by the position of the row. -/
def metered (client : Client μ) (position : Nat) : Client (μ × List Nat) :=
  ⟨client.name, fun call =>
    .step (fun both => (both.1, both.2.1, both.2.2 ++ [position])) fun _ =>
      ((client.answer call).zoom unmetered fun inner both => (inner.1, inner.2, both.2.2)).bind
        fun reply =>
          .step (fun both => (both.1, both.2.1, both.2.2.erase position)) fun _ => .done reply⟩

variable {client : Client μ}

theorem annotatedBy_metered (position : Nat) (call : ModelCall) :
    (client.answer call).AnnotatedBy unmetered ((client.metered position).answer call) := by
  let answering : Process (Shared × μ × List Nat) Empty Empty (Except Error Reply) :=
    (client.answer call).zoom unmetered fun inner both => (inner.1, inner.2, both.2.2)
  have inside : (client.answer call).AnnotatedBy unmetered answering :=
    .zoomed (fun _ _ => rfl) (client.answer call)
  have ended (reply : Except Error Reply) : (Process.done reply).AnnotatedBy unmetered
      (.step (fun both : Shared × μ × List Nat => (both.1, both.2.1, both.2.2.erase position))
        fun _ => .done reply : Process (Shared × μ × List Nat) Empty Empty _) :=
    .note (fun _ => rfl) fun _ => .done reply
  have both := inside.bind ended
  rw [Process.bind_done] at both
  exact .note (fun _ => rfl) fun _ => both

theorem annotatedBy_serve_metered (position : Nat) (process : RowProcess α) :
    (client.hoisted.serve process).AnnotatedBy unmetered
      ((client.metered position).hoisted.serve process) := by
  refine .handle (fun call => ?_) (.zoom ?_ ?_ ?_ (.refl process))
  · simp only [hoisted]
    cases Model.hoist call.messages with
    | ok messages => exact annotatedBy_metered position ⟨call.form, messages⟩
    | error error => exact .done _
  · exact fun _ => rfl
  · exact fun _ _ => rfl
  · exact fun _ => rfl

/-- A metered client that is not answering the row yet does so once, and then has answered it. -/
theorem abides_metered (position : Nat) (call : ModelCall) {both : Shared × μ × List Nat}
    (idle : both.2.2.count position = 0) :
    ((client.metered position).answer call).Abides (.metering (fun both => both.2.2) position)
      (fun _ after => after.2.2.count position = 0) both := by
  let metering : Contract (Shared × μ × List Nat) Empty Empty :=
    .metering (fun both => both.2.2) position
  let quiet : Contract (Shared × μ × List Nat) Empty Empty :=
    { metering with guarantees := fun before after => after.2.2 = before.2.2 }
  intro before relied
  have free : before.2.2.count position = 0 := Eq.trans relied idle
  have once : (before.2.2 ++ [position]).count position = 1 := by
    rw [List.count_append, free, List.count_singleton_self]
  refine ⟨.begin free rfl, .bind ?_⟩
  have answering : ((client.answer call).zoom unmetered
      fun inner (both : Shared × μ × List Nat) => (inner.1, inner.2, both.2.2)).Abides quiet
        (fun _ _ => True) (before.1, before.2.1, before.2.2 ++ [position]) := by
    have free (state : Shared × μ) :
        (client.answer call).Abides Contract.any (fun _ _ => True) state :=
      .of_free (fun _ _ => trivial) _ state
    refine Process.Abides.zoom ?_ ?_ ?_ (free _)
    · exact fun _ _ _ => trivial
    · exact fun _ _ _ => ⟨rfl, rfl⟩
    · exact fun _ _ _ => trivial
  have still := answering.within fun before after =>
    after.2.2.count position = before.2.2.count position
  refine ((still ?_ ?_ ?_ ?_).weaken ?_ ?_ ?_).mono ?_
  · exact fun _ => rfl
  · exact fun first second => second.trans first
  · exact fun relied => relied
  · exact fun kept => congrArg (List.count position) kept
  · exact fun _ _ relied => relied
  · exact fun _ _ kept => .keep kept
  · exact fun _ _ _ => trivial
  · intro reply after known now relied
    have here : now.2.2.count position = 1 := Eq.trans relied (known.2.trans once)
    refine ⟨.finish rfl, fun later relied' => Eq.trans relied' ?_⟩
    rw [List.count_erase_self, here]

/-- A row makes one call at a time, and has none in flight when it ends. -/
theorem abides_serve_metered (position : Nat) (process : RowProcess α)
    {both : Shared × μ × List Nat} (idle : both.2.2.count position = 0) :
    ((client.metered position).hoisted.serve process).Abides
      (.metering (fun both => both.2.2) position)
      (fun _ after => after.2.2.count position = 0) both := by
  induction process generalizing both with
  | done result => exact fun after relied => Eq.trans relied idle
  | step update next ih =>
      intro after relied
      exact ⟨.keep rfl, ih after.1 (Eq.trans relied idle)⟩
  | ask call next ih =>
      refine .bind (Process.Abides.mono (fun reply after idle => ih reply idle) ?_)
      show ((client.metered position).hoisted.answer call).Abides _ _ _
      simp only [hoisted]
      cases Model.hoist call.messages with
      | ok messages => exact abides_metered position ⟨call.form, messages⟩ idle
      | error error => exact fun after relied => Eq.trans relied idle
  | pause next ih => exact ih idle

end Client

/-- A row with a pool of its own makes its calls as in the pool of all rows. -/
theorem abides_inOwnPool_metering {position : Nat}
    {process : Process (Shared × μ × List Nat) Empty Empty α}
    (abides : ∀ both : Shared × μ × List Nat, both.2.2.count position = 0 →
      process.Abides (.metering (fun both => both.2.2) position)
        (fun _ after => after.2.2.count position = 0) both)
    {both : Shared × μ × List Nat} (idle : both.2.2.count position = 0) :
    (inOwnPool process).Abides (.metering (fun both => both.2.2) position)
      (fun _ after => after.2.2.count position = 0) both := by
  let whole : Contract ((Shared × μ × List Nat) × Unique.Store) Empty Empty :=
    .metering (fun both => both.1.2.2) position
  let inside (whole : (Shared × μ × List Nat) × Unique.Store) : Shared × μ × List Nat :=
    ({ whole.1.1 with pool := whole.2 }, whole.1.2)
  have begun : process.Abides (.metering (fun both => both.2.2) position)
      (fun _ after => after.2.2.count position = 0) (inside (both, .fresh)) :=
    abides _ idle
  have zoomed : (process.zoom inside fun inner whole =>
      (({ inner.1 with pool := whole.1.1.pool }, inner.2), inner.1.pool)).Abides whole
        (fun _ after => (inside after).2.2.count position = 0) (both, .fresh) := by
    refine Process.Abides.zoom ?_ ?_ ?_ begun
    · exact fun _ _ relied => relied
    · exact fun _ _ owed => ⟨rfl, owed⟩
    · exact fun _ _ _ => trivial
  refine .bind ((Process.Abides.own ?_ ?_ ?_ zoomed).lasting.mono ?_)
  · exact fun _ _ _ relied => relied
  · exact fun _ _ owed => owed
  · exact fun _ _ _ => trivial
  · exact fun _ _ ended => ended

namespace Run

section

variable (run : Run μ π ω)

/-- The run, whose client keeps a list of the calls in flight. -/
def metered (position : Nat) : Run (μ × List Nat) π ω :=
  { run with client := run.client.metered position }

def meteredSurroundings : Surroundings (RunWorld (μ × List Nat) π ω) :=
  ⟨RunWorld.report, RunWorld.observe run.observer⟩

def meteredBatch : List (BatchTask (RunWorld (μ × List Nat) π ω)) :=
  run.tasks.map fun task => ⟨task.seed, fun position => (run.metered position).execute task⟩

end

end Run

/-- What a metered run has beside the calls in flight. -/
def RunWorld.unmetered (world : RunWorld (μ × List Nat) π ω) : RunWorld μ π ω :=
  { world with model := world.model.1 }

namespace Run

variable {run : Run μ π ω}

theorem annotatedBy_serve_metered (recipe : RowRecipe) (position : Nat) :
    (run.serve recipe).AnnotatedBy Client.unmetered ((run.metered position).serve recipe) := by
  have served : ((run.client.hoisted.serve (RowRecipe.once recipe.runRow)).bind
      fun result => .done result.1).AnnotatedBy Client.unmetered
      (((run.client.metered position).hoisted.serve (RowRecipe.once recipe.runRow)).bind
        fun result => .done result.1) :=
    .bind (Client.annotatedBy_serve_metered position _) fun result => .done result.1
  unfold Run.serve
  rw [show (run.metered position).scope = run.scope from rfl]
  cases run.scope with
  | run => exact served
  | row =>
      refine .bind (.own (.zoom ?_ ?_ ?_ served) _) fun result => .done result.1
      · exact fun _ => rfl
      · exact fun _ _ => rfl
      · exact fun _ => rfl

theorem annotatedBy_execute_metered (task : RowTask) (position : Nat) :
    (run.execute task).AnnotatedBy RunWorld.unmetered ((run.metered position).execute task) := by
  unfold Run.execute
  rw [show (run.metered position).recipe task = run.recipe task from rfl]
  cases run.recipe task with
  | error error => exact .done _
  | ok recipe =>
      refine .bind (.zoom ?_ ?_ ?_ (annotatedBy_serve_metered recipe position)) fun result => ?_
      · exact fun _ => rfl
      · exact fun _ _ => rfl
      · exact fun _ => rfl
      · cases result with
        | failure failure => exact .done _
        | success index row =>
            refine .step (fun _ => rfl) fun whole => ?_
            have same : (whole.deliver (run.metered position).outlet row).1 =
                (whole.unmetered.deliver run.outlet row).1 := rfl
            rw [same]
            cases (whole.unmetered.deliver run.outlet row).1 with
            | error error => exact .done _
            | ok after => exact .step (fun _ => rfl) fun _ => .done _

/-- The contract of a metered task, and how it ends. -/
def meterContract (position : Nat) : Contract (RunWorld (μ × List Nat) π ω) Empty Empty :=
  .metering (fun world => world.model.2) position

theorem abides_run_serve_metered (recipe : RowRecipe) (position : Nat)
    {both : Shared × μ × List Nat} (idle : both.2.2.count position = 0) :
    ((run.metered position).serve recipe).Abides (.metering (fun both => both.2.2) position)
      (fun _ after => after.2.2.count position = 0) both := by
  have pooled (both : Shared × μ × List Nat) (idle : both.2.2.count position = 0) :
      (((run.client.metered position).hoisted.serve (RowRecipe.once recipe.runRow)).bind
        fun result => .done result.1).Abides (.metering (fun both => both.2.2) position)
          (fun _ after => after.2.2.count position = 0) both :=
    .bind ((Client.abides_serve_metered position _ idle).lasting.mono fun _ _ ended => ended)
  unfold Run.serve
  rw [show (run.metered position).scope = run.scope from rfl]
  cases run.scope with
  | run => exact pooled both idle
  | row => exact abides_inOwnPool_metering pooled idle

theorem abides_generate_metered (recipe : RowRecipe) (position : Nat)
    {world : RunWorld (μ × List Nat) π ω} (idle : world.model.2.count position = 0) :
    ((run.metered position).generate recipe).Abides (meterContract position)
      (fun _ after => after.model.2.count position = 0) world := by
  let part (world : RunWorld (μ × List Nat) π ω) : Shared × μ × List Nat :=
    (world.shared, world.model)
  have served : ((run.metered position).serve recipe).Abides
      (.metering (fun both => both.2.2) position) (fun _ after => after.2.2.count position = 0)
      (part world) :=
    abides_run_serve_metered recipe position idle
  refine Process.Abides.zoom ?_ ?_ ?_ served
  · exact fun _ _ relied => relied
  · exact fun _ _ owed => ⟨rfl, owed⟩
  · exact fun _ _ _ => trivial

theorem abides_execute_metered (task : RowTask) (position : Nat)
    {world : RunWorld (μ × List Nat) π ω} (idle : world.model.2.count position = 0) :
    ((run.metered position).execute task).Abides (meterContract position)
      (fun _ after => after.model.2.count position = 0) world := by
  unfold Run.execute
  cases (run.metered position).recipe task with
  | error error => exact fun _ relied => Eq.trans relied idle
  | ok recipe =>
      refine .bind ((abides_generate_metered recipe position idle).mono ?_)
      intro result ended idle
      cases result with
      | failure failure => exact fun _ relied => Eq.trans relied idle
      | success index row =>
          intro before relied
          refine ⟨.keep rfl, ?_⟩
          have idle : (before.deliver run.outlet row).2.model.2.count position = 0 :=
            Eq.trans relied idle
          dsimp only
          cases (before.deliver (run.metered position).outlet row).1 with
          | error error => exact fun _ relied => Eq.trans relied idle
          | ok kept =>
              exact fun _ relied => ⟨.keep rfl, fun _ relied' =>
                Eq.trans relied' (Eq.trans relied idle)⟩

/-- What metered tasks owe: each has at most one call in flight, and none before it begins and behind
its end. -/
def meterDuties (run : Run μ π ω) : Surroundings.Duties (RunWorld (μ × List Nat) π ω) where
  contract := meterContract
  holds world := world.model.2.Nodup ∧ ∀ position ∈ world.model.2, position < run.tasks.length
  waits position world := world.model.2.count position = 0
  ends position _ world := world.model.2.count position = 0

theorem model_notify (notice : Notice) (world : RunWorld (μ × List Nat) π ω) :
    (run.meteredSurroundings.notify notice world).model = world.model := by
  unfold Surroundings.notify
  rcases heard : run.meteredSurroundings.observer.hear notice world with ⟨result, after⟩
  have same : after.model = world.model := congrArg (fun both => both.2.model) heard.symm
  cases result <;> exact same

theorem dependable_metered :
    run.meteredSurroundings.Dependable run.meteredBatch run.meterDuties where
  notify notice world := by
    have same := congrArg Prod.snd (run.model_notify notice world)
    exact ⟨fun position => congrArg (List.count position) same, fun held => by
      simpa only [meterDuties, same] using held⟩
  report _ _ _ := ⟨fun _ => rfl, id⟩
  owed differ metered := metered.count_of_ne differ
  kept inside held metered := metered.kept (by simpa [meteredBatch] using inside) held
  patient relied idle := Eq.trans relied idle
  tasks := by
    intro position metered found world _ idle
    simp only [meteredBatch, List.getElem?_map, Option.map_eq_some_iff] at found
    obtain ⟨task, _, rfl⟩ := found
    exact abides_execute_metered task position idle

section

variable {busy : Nat → Option Nat} {settled : List Nat} {outcomes : Nat → TaskOutcome}
variable {moment : List (Process (RunWorld (μ × List Nat) π ω × Board) Empty Empty Unit) ×
  (RunWorld (μ × List Nat) π ω × Board)}

/-- Every call in flight is that of a row in progress. -/
theorem calls_of_ledger (ledger : run.meteredSurroundings.Ledger run.meteredBatch run.meterDuties
      busy settled outcomes moment) :
    moment.2.1.model.2.length ≤ moment.2.2.inProgress := by
  obtain ⟨nodup, below⟩ := ledger.holding
  have tasks : run.meteredBatch.length = run.tasks.length := List.length_map _
  have executing : moment.2.1.model.2 ⊆ (List.range moment.1.length).filterMap busy := by
    intro position member
    have calls : moment.2.1.model.2.count position ≠ 0 := by
      simpa [List.count_eq_zero] using member
    by_cases early : position < moment.2.2.next
    · rcases ledger.books.covered early with known | ⟨place, here⟩
      · exact absurd (ledger.ended position known _ rfl) calls
      · refine List.mem_filterMap.2 ⟨place, List.mem_range.2 ?_, here⟩
        by_contra outside
        rw [ledger.vacant place (Nat.not_lt.1 outside)] at here
        cases here
    · have inside : position < run.meteredBatch.length := tasks ▸ below position member
      exact absurd (ledger.waiting position (Nat.not_lt.1 early) inside) calls
  rw [← ledger.executing.2]
  exact (nodup.subperm executing).length_le

end

/-- A world in which the client has no call in flight. -/
def quiet (world : RunWorld μ π ω) : RunWorld (μ × List Nat) π ω :=
  { world with model := (world.model, []) }

/-- However the workers of a run move, they can move so behind a metered client, and at every moment
there are no more calls in flight than rows in progress. -/
theorem metered_of_interleaves {concurrency : Nat} {world : RunWorld μ π ω}
    {moment : List (Process (RunWorld μ π ω × Board) Empty Empty Unit) × (RunWorld μ π ω × Board)}
    (interleaves : Process.Interleaves Process.Nothing
      (run.surroundings.crew run.batch concurrency world) moment) :
    ∃ workers whole, Process.Interleaves Process.Nothing
        (run.meteredSurroundings.crew run.meteredBatch concurrency (quiet world)) (workers, whole) ∧
      Surroundings.eraseBoth RunWorld.unmetered whole = moment.2 ∧
      whole.1.model.2.length ≤ moment.2.2.inProgress := by
  have annotates : run.surroundings.AnnotatedBy RunWorld.unmetered run.meteredSurroundings :=
    ⟨fun _ _ _ => rfl, fun _ _ => rfl⟩
  have each : List.Forall₂ (Surroundings.TaskAnnotatedBy RunWorld.unmetered) run.batch
      run.meteredBatch := by
    refine List.forall₂_map_right_iff.2 (List.forall₂_map_left_iff.2 (List.forall₂_same.2 ?_))
    exact fun task _ => ⟨rfl, fun position => annotatedBy_execute_metered task position⟩
  have shown : Process.Interleaves Process.Nothing
      (run.surroundings.crew run.batch concurrency (quiet world).unmetered) moment := interleaves
  obtain ⟨workers, whole, metered, same, _⟩ := annotates.follow each shown
  let anything (_ : Surroundings.Account (RunWorld (μ × List Nat) π ω)) : Prop := True
  have kept {before after : Surroundings.Account (RunWorld (μ × List Nat) π ω)}
      (_ : run.meteredSurroundings.Stage run.meteredBatch run.meterDuties before after)
      (_ : anything before) : anything after := trivial
  have idle : run.meterDuties.holds (quiet world) := ⟨.nil, fun _ member => nomatch member⟩
  have dependable : run.meteredSurroundings.Dependable run.meteredBatch run.meterDuties :=
    dependable_metered
  have begins := dependable.notify (.start run.meteredBatch.length concurrency) (quiet world)
  have start : run.meteredSurroundings.Ledger run.meteredBatch run.meterDuties (fun _ => none) []
      (fun _ => .ok none)
      (run.meteredSurroundings.crew run.meteredBatch concurrency (quiet world)) :=
    .start _ (begins.kept idle) (fun position _ => begins.relied position) _
  obtain ⟨busy, settled, outcomes, _, ledger⟩ :=
    start.interleaves dependable kept trivial metered
  refine ⟨workers, whole, metered, same, ?_⟩
  rw [← same]
  exact calls_of_ledger ledger

end Run

namespace Surroundings

variable {σ : Type}

/-- The progress of a batch is accounted for exactly, whatever its tasks come to, however its workers
move, and also if the observer fails. At every moment the board counts the tasks that are being
executed, which are not more than the workers and, with those completed, not more than all tasks. In
the end the observer has been told of each task when it was taken and when it was settled, and of each
failed task before that. No run has more calls to the model in flight than rows in progress. -/
theorem accounts_for_progress {concurrency : Nat} (positive : 1 ≤ concurrency)
    (surroundings : Surroundings σ) (tasks : List (BatchTask σ)) (state : σ) :
    (∀ moment, Process.Interleaves Process.Nothing
        (surroundings.crew tasks concurrency state) moment →
      ∃ busy, surroundings.Counted tasks concurrency moment busy) ∧
    Process.Finishes (surroundings.crew tasks concurrency state) ∧
    (∀ last, surroundings.Batched tasks concurrency state last →
      ∃ (log : List TaskNote) (heard : List Notice) (outcomes : Nat → TaskOutcome)
        (settled : List Nat),
        surroundings.noted.overheard.Batched
          (tasks.map fun task => task.noted.beside (List Notice)) concurrency ((state, []), [])
          (((last.1, log), heard), last.2) ∧
        (∀ position < tasks.length,
          notesOf position log = [.begun position, .ended position (outcomes position)]) ∧
        settled.Perm (List.range tasks.length) ∧
        Recital tasks.length concurrency (failureOf tasks outcomes) settled heard) ∧
    ∀ {μ π ω : Type} (run : Run μ π ω) (world : RunWorld μ π ω)
      (moment : List (Process (RunWorld μ π ω × Board) Empty Empty Unit) × (RunWorld μ π ω × Board)),
      Process.Interleaves Process.Nothing
        (run.surroundings.crew run.batch concurrency world) moment →
        moment.2.2.inProgress ≤ min concurrency run.tasks.length ∧
        ∃ workers whole, Process.Interleaves Process.Nothing
            (run.meteredSurroundings.crew run.meteredBatch concurrency (Run.quiet world))
            (workers, whole) ∧
          eraseBoth RunWorld.unmetered whole = moment.2 ∧
          whole.1.model.2.length ≤ moment.2.2.inProgress := by
  refine ⟨fun moment interleaves => counted_of_interleaves interleaves, Process.finishes _ _,
    fun last batched => ?_, fun run world moment interleaves => ?_⟩
  · let note : BatchTask σ → BatchTask (σ × List TaskNote) := .noted
    let change (task : BatchTask (σ × List TaskNote)) : BatchTask ((σ × List TaskNote) × List Notice) :=
      task.beside (List Notice)
    have noting : List.Forall₂ (TaskAnnotatedBy Prod.fst) tasks (tasks.map note) :=
      List.forall₂_map_right_iff.2 (List.forall₂_same.2 fun task _ => taskAnnotatedBy_noted task)
    have hearing : List.Forall₂ (TaskAnnotatedBy Prod.fst) (tasks.map note)
        ((tasks.map note).map change) :=
      List.forall₂_map_right_iff.2
        (List.forall₂_same.2 fun task _ => taskAnnotatedBy_beside (List Notice) task)
    have shown : surroundings.Batched tasks concurrency (Prod.fst (state, ([] : List TaskNote)))
        last := batched
    obtain ⟨noted, batchedNoted, rfl⟩ := surroundings.annotatedBy_noted.batched noting shown
    have shownNoted : surroundings.noted.Batched (tasks.map note) concurrency
        (Prod.fst ((state, ([] : List TaskNote)), ([] : List Notice))) noted := batchedNoted
    obtain ⟨⟨⟨⟨ended, log⟩, heard⟩, board⟩, overheard, rfl⟩ :=
      surroundings.noted.annotatedBy_overheard.batched hearing shownNoted
    have yields (position : Nat) (task : BatchTask σ) (_ : tasks[position]? = some task) :
        (task.execute position).Yields fun _ => True :=
      fun state => .of_free (fun _ _ => trivial) _ state
    have dependable := surroundings.dependable_noted yields
    have empty : (noteDuties tasks fun _ => True).holds (state, []) := fun _ member => nomatch member
    have fresh (position : Nat) (_ : position < (tasks.map note).length) :
        (noteDuties tasks fun _ => True).waits position (state, []) := rfl
    obtain ⟨outcomes, settled, all, ends, recital⟩ :=
      overheard.recited dependable positive empty fresh
    rw [List.length_map] at all ends recital
    rw [failureOf_map note fun _ => rfl] at recital
    rw [List.map_map] at overheard
    exact ⟨log, heard, outcomes, settled, overheard, fun position inside => (ends position inside).1,
      all, recital⟩
  · obtain ⟨busy, counted⟩ := counted_of_interleaves interleaves
    have bounded := counted.bounded
    rw [Run.batch, List.length_map] at bounded
    exact ⟨bounded, Run.metered_of_interleaves interleaves⟩

/-- Two workers at three tasks, one of which raises an error and one fails, and an observer that fails
each time. -/
theorem accounts_for_progress_threeTasks :
    1 ≤ 2 ∧ (∃ busy, failing.Counted threeTasks 2 (failing.crew threeTasks 2 0) busy) ∧
      ∃ last, failing.Batched threeTasks 2 0 last ∧
        ∃ (log : List TaskNote) (heard : List Notice) (outcomes : Nat → TaskOutcome)
          (settled : List Nat),
          failing.noted.overheard.Batched
            (threeTasks.map fun task => task.noted.beside (List Notice)) 2 ((0, []), [])
            (((last.1, log), heard), last.2) ∧
          (∀ position < 3,
            notesOf position log = [.begun position, .ended position (outcomes position)]) ∧
          settled.Perm [0, 1, 2] ∧
          Recital 3 2 (failureOf threeTasks outcomes) settled heard := by
  obtain ⟨moments, _, told, _⟩ :=
    accounts_for_progress (show 1 ≤ 2 by decide) failing threeTasks 0
  exact ⟨by decide, moments _ .refl, _, failing.batched_runBatch 2 0,
    told _ (failing.batched_runBatch 2 0)⟩

end Surroundings

end Colloquy
