import Colloquy.Proofs.Batch.Ledger
import Colloquy.Proofs.Dataset.Serving
import Colloquy.Proofs.Export.Outlets

/-!
# Runs among which only the order differs

A run may use any number of workers, and its workers may be interleaved in any way. If every row has
a seed, the model answers as a function of the call, and rows do not share what they choose from,
then the rows of the run are those of its tasks, each generated alone.
-/

set_option autoImplicit false

namespace Colloquy

variable {μ π ω : Type}

/-- Others leave the shared pool as it is and do not close the outlet, and the same is owed. -/
def Contract.steady (ready : ω → Prop) : Contract (RunWorld μ π ω) Empty Empty where
  relies before after := after.shared.pool = before.shared.pool ∧
    (ready before.outlet → ready after.outlet)
  guarantees before after := after.shared.pool = before.shared.pool ∧
    (ready before.outlet → ready after.outlet)
  answers _ _ := True
  relies_refl _ := ⟨rfl, id⟩
  relies_trans first second := ⟨second.1.trans first.1, fun held => second.2 (first.2 held)⟩

namespace Run

/-- The run with another number of workers and at another time. -/
def again (run : Run μ π ω) (concurrency : Nat) (freshSeed : Nat → Int)
    (startTimestamp : Nat → String) : Run μ π ω :=
  { run with
    concurrency := concurrency
    freshSeed := freshSeed
    startTimestamp := startTimestamp }

/-- Two runs differ in the number of their workers and in time only. -/
def Resembles (run other : Run μ π ω) : Prop :=
  ∃ concurrency freshSeed startTimestamp, other = run.again concurrency freshSeed startTimestamp

/-- What makes a run independent of the order in which its rows are generated. -/
structure Reproducible (run : Run μ π ω) (reply : ModelCall → Except Error Reply)
    (ready : ω → Prop) (accept : Row → Except Error Row) : Prop where
  seeded : ∀ task ∈ run.tasks, task.seed.isSome = true
  separate : run.scope = .row ∨
    ∀ task ∈ run.tasks, ∀ recipe, run.recipe task = .ok recipe → recipe.IsRepeatable
  answers : run.client.Answers reply
  outlet : run.outlet.Reliable ready accept

/-- The world in which the batch of the run begins. -/
def opened (run : Run μ π ω) (world : RunWorld μ π ω) (outlet : ω) : RunWorld μ π ω :=
  { world.report .info run.startLine with outlet := outlet }

/-- One of the ways in which a run may go: the workers of its batch are interleaved in some order. -/
def Executes (run : Run μ π ω) (elapsed : String) (world : RunWorld μ π ω)
    (last : Except Error Board × RunWorld μ π ω) : Prop :=
  match run.outlet.start world.outlet with
  | .error error => last = (.error error, world.report .info run.startLine)
  | .ok outlet => ∃ both,
      run.surroundings.Batched run.batch run.concurrency (run.opened world outlet) both ∧
        last = run.close elapsed both

/-- The run comes to its end in whatever order its workers move. -/
def Returns (run : Run μ π ω) (world : RunWorld μ π ω) : Prop :=
  ∃ outlet, run.outlet.start world.outlet = .ok outlet ∧
    Process.Finishes
      (run.surroundings.crew run.batch run.concurrency (run.opened world outlet))

theorem executes_execution (run : Run μ π ω) (elapsed : String) (world : RunWorld μ π ω) :
    run.Executes elapsed world (run.execution elapsed world) := by
  unfold Executes execution
  dsimp only
  rw [show (world.report .info run.startLine).outlet = world.outlet from rfl]
  cases run.outlet.start world.outlet with
  | error error => rfl
  | ok outlet => exact ⟨_, Surroundings.batched_runBatch _ _, rfl⟩

/-- The board of a run whose workers take turns, if they need no more than a number of them. -/
def boardWithin (run : Run μ π ω) (turns : Nat) (world : RunWorld μ π ω) : Option Board :=
  match run.outlet.start world.outlet with
  | .error _ => none
  | .ok outlet =>
      let crew := run.surroundings.crew run.batch run.concurrency (run.opened world outlet)
      (Process.takeTurnsWithin turns crew.1 (List.range crew.1.length) crew.2).map fun last =>
        last.2.2

theorem board_of_within {run : Run μ π ω} {turns : Nat} {world : RunWorld μ π ω} {board : Board}
    (within : run.boardWithin turns world = some board) (elapsed : String) :
    (run.execution elapsed world).1 = .ok board := by
  unfold boardWithin at within
  split at within
  · cases within
  next outlet started =>
    obtain ⟨last, turned, rfl⟩ := Option.map_eq_some_iff.1 within
    have board : (run.surroundings.runBatch run.concurrency run.batch (run.opened world outlet)).2 =
        last.2.2 := congrArg (fun ended => ended.2.2) (Process.takeTurns_of_within turned)
    unfold execution
    dsimp only
    rw [show (world.report .info run.startLine).outlet = world.outlet from rfl, started]
    exact congrArg Except.ok board

theorem Executes.batched {run : Run μ π ω} {elapsed : String} {world : RunWorld μ π ω}
    {last : Except Error Board × RunWorld μ π ω} (executes : run.Executes elapsed world last)
    {board : Board} (ended : last.1 = .ok board) :
    ∃ outlet both, run.outlet.start world.outlet = .ok outlet ∧
      run.surroundings.Batched run.batch run.concurrency (run.opened world outlet) both ∧
      both.2 = board ∧ last = run.close elapsed both := by
  unfold Executes at executes
  split at executes
  · rw [executes] at ended
    cases ended
  next outlet started =>
    obtain ⟨both, batched, rfl⟩ := executes
    exact ⟨outlet, both, started, batched, Except.ok.inj ended, rfl⟩

/-- The results of the tasks of a run, each generated alone in a world of its own. -/
def alone (run : Run μ π ω) (worlds : RowTask → RunWorld μ π ω) : List RowResult :=
  run.tasks.filterMap fun task =>
    TaskOutcome.result? task.index task.seed ((run.execute task).alone (worlds task)).1

/-- What a task comes to, the row being delivered to an outlet that answers as `accept` does. -/
def outcome (run : Run μ π ω) (reply : ModelCall → Except Error Reply)
    (accept : Row → Except Error Row) (task : RowTask) : TaskOutcome :=
  match run.recipe task with
  | .error error => .error error
  | .ok recipe =>
      match (recipe.result (hoistedReply reply)).dated recipe.startTimestamp with
      | .failure failure => .ok (some (.failure failure))
      | .success _ row => (accept row).map fun row => some (.success task.index row)

def result (run : Run μ π ω) (reply : ModelCall → Except Error Reply)
    (accept : Row → Except Error Row) (task : RowTask) : Option RowResult :=
  TaskOutcome.result? task.index task.seed (run.outcome reply accept task)

theorem recipe_eq_ok {run : Run μ π ω} {task : RowTask} {recipe : RowRecipe}
    (made : run.recipe task = .ok recipe) :
    recipe.schema = task.schema ∧ recipe.extras = run.extras := by
  obtain ⟨metadata, _, made⟩ := bind_eq_ok.1 made
  cases made
  exact ⟨rfl, rfl⟩

theorem seed_of_recipe {run : Run μ π ω} {task : RowTask} {recipe : RowRecipe}
    (made : run.recipe task = .ok recipe) : recipe.seed = task.seed := by
  unfold Run.recipe at made
  cases given : callerMetadata run.metadata with
  | error error => simp [given, bind, Except.bind] at made
  | ok metadata =>
      simp only [given, bind, Except.bind, pure, Except.pure, Except.ok.injEq] at made
      rw [← made]

section

variable {run : Run μ π ω} {reply : ModelCall → Except Error Reply} {ready : ω → Prop}
variable {accept : Row → Except Error Row}

theorem abides_generate (reproducible : run.Reproducible reply ready accept) {task : RowTask}
    (member : task ∈ run.tasks) {recipe : RowRecipe} (made : run.recipe task = .ok recipe)
    (world : RunWorld μ π ω) :
    (run.generate recipe).Abides (.steady ready)
      (fun result state =>
        result = (recipe.result (hoistedReply reply)).dated recipe.startTimestamp ∧
          (ready world.outlet → ready state.outlet)) world := by
  have seeded : recipe.seed.isSome = true := by
    rw [seed_of_recipe made]
    exact reproducible.seeded task member
  have separate : run.scope = .row ∨ recipe.IsRepeatable :=
    reproducible.separate.imp_right fun repeatable => repeatable task member recipe made
  have zoomed : (run.generate recipe).Abides (.steady ready)
      (fun result _ =>
        result = (recipe.result (hoistedReply reply)).dated recipe.startTimestamp) world := by
    refine Process.Abides.zoom ?_ ?_ ?_
      (abides_serve reproducible.answers seeded separate _)
    · exact fun _ _ relied => relied.1
    · exact fun _ _ kept => ⟨rfl, kept, id⟩
    · exact fun _ _ _ => trivial
  refine zoomed.within (fun before after => ready before.outlet → ready after.outlet) ?_ ?_ ?_ ?_
  · exact fun _ held => held
  · exact fun first second held => second (first held)
  · exact fun relied => relied.2
  · exact fun owed => owed.2

theorem abides_deliver (reliable : run.outlet.Reliable ready accept) (task : RowTask) (row : Row)
    {world : RunWorld μ π ω} (held : ready world.outlet) :
    (run.deliver task row).Abides (.steady ready)
      (fun outcome _ => outcome = (accept row).map fun row => some (.success task.index row))
      world := by
  intro now relied
  obtain ⟨appended, still⟩ := reliable.append row now.outlet (relied.2 held)
  have delivered : (now.deliver run.outlet row).1 = accept row := appended
  refine ⟨⟨rfl, fun _ => still⟩, ?_⟩
  dsimp only
  rw [delivered]
  cases accept row with
  | error error => exact fun _ _ => rfl
  | ok after => exact fun _ _ => ⟨⟨rfl, id⟩, fun _ _ => rfl⟩

theorem abides_execute (reproducible : run.Reproducible reply ready accept) {task : RowTask}
    (member : task ∈ run.tasks) {world : RunWorld μ π ω} (held : ready world.outlet) :
    (run.execute task).Abides (.steady ready)
      (fun outcome _ => outcome = run.outcome reply accept task) world := by
  unfold Run.execute Run.outcome
  cases made : run.recipe task with
  | error error => exact fun _ _ => rfl
  | ok recipe =>
      dsimp only
      refine .bind ((abides_generate reproducible member made world).mono ?_)
      rintro result state ⟨rfl, still⟩
      cases (recipe.result (hoistedReply reply)).dated recipe.startTimestamp with
      | failure failure => exact fun _ _ => rfl
      | success index row => exact abides_deliver reproducible.outlet task row (still held)

theorem keeps_notify (run : Run μ π ω) (notice : Notice) (world : RunWorld μ π ω) :
    (run.surroundings.notify notice world).shared.pool = world.shared.pool ∧
      (run.surroundings.notify notice world).outlet = world.outlet := by
  rcases heard : run.surroundings.observer.hear notice world with ⟨result, heardWorld⟩
  have kept : heardWorld.shared.pool = world.shared.pool ∧ heardWorld.outlet = world.outlet := by
    have same := congrArg Prod.snd heard
    dsimp only at same
    rw [← same]
    exact ⟨rfl, rfl⟩
  unfold Surroundings.notify
  rw [heard]
  cases result with
  | ok => exact kept
  | error error => exact kept

theorem index_tasksFrom {baseSeed : Option Int} {position first place : Nat} {entries : List Entry}
    {task : RowTask} (found : (tasksFrom baseSeed position first entries)[place]? = some task) :
    task.index = first + place := by
  induction entries generalizing position first place with
  | nil => simp [tasksFrom] at found
  | cons entry entries ih =>
      rw [tasksFrom, List.getElem?_append, Entry.length_tasks] at found
      split at found
      next inside =>
        simp only [Entry.tasks, List.getElem?_map, Option.map_eq_some_iff] at found
        obtain ⟨offset, there, rfl⟩ := found
        obtain ⟨_, rfl⟩ := List.getElem?_eq_some_iff.1 there
        simp
      next outside =>
        have index := ih found
        omega

/-- What the tasks of a run owe: whatever the others do, each comes to its own outcome. -/
def duties (run : Run μ π ω) (reply : ModelCall → Except Error Reply) (ready : ω → Prop)
    (accept : Row → Except Error Row) : Surroundings.Duties (RunWorld μ π ω) where
  contract _ := .steady ready
  holds world := ready world.outlet
  waits _ _ := True
  ends position outcome _ := ∀ task, run.tasks[position]? = some task →
    outcome = run.outcome reply accept task

theorem Reproducible.dependable (reproducible : run.Reproducible reply ready accept) :
    run.surroundings.Dependable run.batch (run.duties reply ready accept) where
  notify notice world := by
    obtain ⟨pool, outlet⟩ := run.keeps_notify notice world
    have still (held : ready world.outlet) :
        ready (run.surroundings.notify notice world).outlet := by
      rw [outlet]
      exact held
    exact ⟨fun _ => ⟨pool, still⟩, still⟩
  report _ _ _ := ⟨fun _ => ⟨rfl, id⟩, id⟩
  owed _ kept := kept
  kept _ held owed := owed.2 held
  patient _ _ := trivial
  tasks := by
    intro position task found world held _
    simp only [batch, List.getElem?_map, Option.map_eq_some_iff] at found
    obtain ⟨rowTask, there, rfl⟩ := found
    refine (abides_execute reproducible (List.mem_of_getElem? there) held).mono ?_
    rintro outcome _ rfl other same
    rw [there, Option.some.injEq] at same
    rw [same]

theorem resultsOf_batch {outcomes : Nat → TaskOutcome} {position : Nat}
    (ends : ∀ task, run.tasks[position]? = some task →
      outcomes position = run.outcome reply accept task) :
    Surroundings.resultsOf run.batch outcomes position =
      run.tasks[position]?.bind (run.result reply accept) := by
  unfold Surroundings.resultsOf batch
  rw [List.getElem?_map]
  cases there : run.tasks[position]? with
  | none => rfl
  | some task =>
      have index : task.index = position := by simpa using index_tasksFrom there
      dsimp only [Option.map, Option.bind, Run.result]
      rw [ends task there, index]

/-- However a run goes, it comes to its end with the rows of its tasks in order, and with their
failures. -/
theorem Reproducible.board (reproducible : run.Reproducible reply ready accept)
    (positive : 1 ≤ run.concurrency) {elapsed : String} {world : RunWorld μ π ω}
    (opens : run.outlet.Opens ready world.outlet) {last : Except Error Board × RunWorld μ π ω}
    (executes : run.Executes elapsed world last) :
    ∃ board, last.1 = .ok board ∧
      run.rows board = (run.tasks.filterMap (run.result reply accept)).filterMap RowResult.row? ∧
      board.failures.Perm
        ((run.tasks.filterMap (run.result reply accept)).filterMap RowResult.failure?) := by
  obtain ⟨opened, started, held⟩ := opens
  unfold Executes at executes
  rw [started] at executes
  obtain ⟨both, batched, rfl⟩ := executes
  have holding : (run.duties reply ready accept).holds (run.opened world opened) := held
  obtain ⟨outcomes, _, ends, rows, failures⟩ :=
    batched.complete reproducible.dependable positive holding fun _ _ => trivial
  have length : run.batch.length = run.tasks.length := List.length_map _
  have inOrder {β : Type} (read : RowResult → Option β) :
      (List.range run.batch.length).filterMap
          (fun position => (Surroundings.resultsOf run.batch outcomes position).bind read) =
        (run.tasks.filterMap (run.result reply accept)).filterMap read := by
    rw [List.filterMap_filterMap, length, ← Surroundings.filterMap_range run.tasks]
    refine List.filterMap_congr fun position member => ?_
    rw [resultsOf_batch (ends position (by rw [length]; exact List.mem_range.1 member)),
      Option.bind_assoc]
  refine ⟨both.2, rfl, ?_, ?_⟩
  · rw [← inOrder, ← rows, length]
    rfl
  · rw [← inOrder]
    exact failures

theorem Reproducible.alone (reproducible : run.Reproducible reply ready accept)
    (worlds : RowTask → RunWorld μ π ω) (held : ∀ task ∈ run.tasks, ready (worlds task).outlet) :
    run.alone worlds = run.tasks.filterMap (run.result reply accept) := by
  refine List.filterMap_congr fun task member => ?_
  have respects : Environment.empty.Respects
      (.steady ready : Contract (RunWorld μ π ω) Empty Empty) :=
    ⟨fun _ => ⟨rfl, id⟩, fun query => query.elim, fun query => query.elim⟩
  have ended : ((run.execute task).run .empty (worlds task, ())).1 = run.outcome reply accept task :=
    Process.Abides.run respects (abides_execute reproducible member (held task member))
  unfold Run.result
  rw [← ended]
  rfl

theorem recipe_again (concurrency : Nat) (freshSeed : Nat → Int) (startTimestamp : Nat → String)
    (task : RowTask) :
    (run.again concurrency freshSeed startTimestamp).recipe task =
      (run.recipe task).map (.again (freshSeed task.index) (startTimestamp task.index)) := by
  unfold Run.recipe
  dsimp only [again]
  cases callerMetadata run.metadata <;> rfl

theorem result_congr (task : RowTask) {left right : Except Error Row}
    (same : left.map Row.undated = right.map Row.undated) :
    (TaskOutcome.result? task.index task.seed
        (left.map fun row => some (.success task.index row))).map RowResult.undated =
      (TaskOutcome.result? task.index task.seed
        (right.map fun row => some (.success task.index row))).map RowResult.undated := by
  cases left with
  | error error =>
      cases right with
      | error error' =>
          cases same
          rfl
      | ok row => cases same
  | ok row =>
      cases right with
      | error error => cases same
      | ok row' =>
          have rows : row.undated = row'.undated := Except.ok.inj same
          exact congrArg (fun row => some (RowResult.success task.index row)) rows

theorem Reproducible.result_again (reproducible : run.Reproducible reply ready accept)
    (concurrency : Nat) (freshSeed : Nat → Int) (startTimestamp : Nat → String) (task : RowTask) :
    ((run.again concurrency freshSeed startTimestamp).result reply accept task).map
        RowResult.undated =
      (run.result reply accept task).map RowResult.undated := by
  unfold Run.result Run.outcome
  rw [recipe_again]
  cases run.recipe task with
  | error error => rfl
  | ok recipe =>
      have same : (recipe.again (freshSeed task.index) (startTimestamp task.index)).result
          (hoistedReply reply) = recipe.result (hoistedReply reply) := rfl
      dsimp only [Except.map]
      rw [same]
      cases recipe.result (hoistedReply reply) with
      | failure failure => rfl
      | success index row =>
          have undated := reproducible.outlet.undated
            (show (row.dated (startTimestamp task.index)).undated =
              (row.dated recipe.startTimestamp).undated from rfl)
          exact result_congr task undated

theorem Reproducible.again (reproducible : run.Reproducible reply ready accept) (concurrency : Nat)
    (freshSeed : Nat → Int) (startTimestamp : Nat → String) :
    (run.again concurrency freshSeed startTimestamp).Reproducible reply ready accept where
  seeded := reproducible.seeded
  separate := by
    refine reproducible.separate.imp_right fun repeatable task member recipe made => ?_
    rw [recipe_again] at made
    cases first : run.recipe task with
    | error error => simp [first, Except.map] at made
    | ok original =>
        simp only [first, Except.map, Except.ok.injEq] at made
        subst made
        obtain ⟨schema, extras⟩ := repeatable task member original first
        exact ⟨schema, extras⟩
  answers := reproducible.answers
  outlet := reproducible.outlet

theorem rows_undated (results : List RowResult) :
    (results.filterMap RowResult.row?).map Row.undated =
      (results.map RowResult.undated).filterMap RowResult.row? := by
  rw [List.map_filterMap, List.filterMap_map]
  refine List.filterMap_congr fun result _ => ?_
  cases result <;> rfl

theorem failures_undated (results : List RowResult) :
    results.filterMap RowResult.failure? =
      (results.map RowResult.undated).filterMap RowResult.failure? := by
  rw [List.filterMap_map]
  refine List.filterMap_congr fun result _ => ?_
  cases result <;> rfl

/-- However a run goes, with whatever number of workers, its rows are those of its tasks alone, in
their order, and so are its failures. -/
theorem Reproducible.rows_alone (reproducible : run.Reproducible reply ready accept)
    {other : Run μ π ω} (resembles : run.Resembles other) (positive : 1 ≤ other.concurrency)
    {elapsed : String} {world : RunWorld μ π ω} (opens : run.outlet.Opens ready world.outlet)
    {last : Except Error Board × RunWorld μ π ω} (executes : other.Executes elapsed world last)
    (worlds : RowTask → RunWorld μ π ω) (held : ∀ task ∈ run.tasks, ready (worlds task).outlet) :
    ∃ board, last.1 = .ok board ∧
      (other.rows board).map Row.undated =
        ((run.alone worlds).filterMap RowResult.row?).map Row.undated ∧
      board.failures.Perm ((run.alone worlds).filterMap RowResult.failure?) := by
  obtain ⟨concurrency, freshSeed, startTimestamp, rfl⟩ := resembles
  obtain ⟨board, ended, rows, failures⟩ :=
    (reproducible.again concurrency freshSeed startTimestamp).board positive opens executes
  -- Both runs are held against the same reference, so that neither has to be followed by the other.
  have results : (run.tasks.filterMap
        ((run.again concurrency freshSeed startTimestamp).result reply accept)).map
          RowResult.undated =
      (run.tasks.filterMap (run.result reply accept)).map RowResult.undated := by
    rw [List.map_filterMap, List.map_filterMap]
    exact List.filterMap_congr fun task _ => reproducible.result_again _ _ _ task
  refine ⟨board, ended, ?_, ?_⟩
  · rw [rows, reproducible.alone worlds held, rows_undated, rows_undated, ← results]
    rfl
  · rw [reproducible.alone worlds held, failures_undated, ← results, ← failures_undated]
    exact failures

theorem returns_of_opens {world : RunWorld μ π ω} (opens : run.outlet.Opens ready world.outlet) :
    run.Returns world := by
  obtain ⟨outlet, started, _⟩ := opens
  exact ⟨outlet, started, Process.finishes _ _⟩

/-- Concurrency does not change rows. Two runs that differ in the number of their workers, in the
order in which these move, and in time, come to their ends and give the same rows in the same order,
but for their dates, and the same failures: those that the tasks come to alone. -/
theorem Reproducible.same_rows (reproducible : run.Reproducible reply ready accept)
    {first second : Run μ π ω} (resembles : run.Resembles first)
    (resembles' : run.Resembles second) (positive : 1 ≤ first.concurrency)
    (positive' : 1 ≤ second.concurrency) {elapsed elapsed' : String}
    {world world' : RunWorld μ π ω} (opens : run.outlet.Opens ready world.outlet)
    (opens' : run.outlet.Opens ready world'.outlet)
    {last last' : Except Error Board × RunWorld μ π ω}
    (executes : first.Executes elapsed world last)
    (executes' : second.Executes elapsed' world' last') (worlds : RowTask → RunWorld μ π ω)
    (held : ∀ task ∈ run.tasks, ready (worlds task).outlet) :
    first.Returns world ∧ second.Returns world' ∧
      ∃ board board', last.1 = .ok board ∧ last'.1 = .ok board' ∧
        (first.rows board).map Row.undated = (second.rows board').map Row.undated ∧
        board.failures.Perm board'.failures ∧
        (first.rows board).map Row.undated =
          ((run.alone worlds).filterMap RowResult.row?).map Row.undated ∧
        board.failures.Perm ((run.alone worlds).filterMap RowResult.failure?) := by
  obtain ⟨board, ended, rows, failures⟩ :=
    reproducible.rows_alone resembles positive opens executes worlds held
  obtain ⟨board', ended', rows', failures'⟩ :=
    reproducible.rows_alone resembles' positive' opens' executes' worlds held
  have returns : first.Returns world := by
    obtain ⟨concurrency, freshSeed, startTimestamp, rfl⟩ := resembles
    exact returns_of_opens opens
  have returns' : second.Returns world' := by
    obtain ⟨concurrency, freshSeed, startTimestamp, rfl⟩ := resembles'
    exact returns_of_opens opens'
  exact ⟨returns, returns', board, board', ended, ended', rows.trans rows'.symm,
    failures.trans failures'.symm, rows, failures⟩

end

/-- Two rows in which a model that takes its time answers a greeting, collected in memory. -/
def greetings : Run Unit Unit Archive where
  client := ⟨.text "model", fun _ => .pause (.done (.ok ⟨.text "Hello", .null⟩))⟩
  entries := [⟨.tree (.list [.node (.leaf (.fixed (.text "user") (.text "Hi"))),
    .node (.leaf (.written (.text "assistant") (.text "Greet back")))]), 2, some 7⟩]
  baseSeed := none
  concurrency := 1
  scope := .row
  extras := none
  metadata := .null
  modelName := .null
  tokenCounter := none
  observer := .silent
  outlet := Archive.outlet "rows"
  freshSeed _ := 0
  startTimestamp _ := "2024-01-01T00:00:00+00:00"

/-- The greetings at another time, by two workers. -/
def laterGreetings : Run Unit Unit Archive :=
  greetings.again 2 (fun _ => 1) fun _ => "2024-01-02T00:00:00+00:00"

def quietWorld : RunWorld Unit Unit Archive :=
  ⟨⟨.fresh, #[]⟩, (), (), ⟨.toMemory .messages, .empty⟩⟩

/-- One worker makes all greetings, or two workers take turns. -/
theorem same_rows_greetings :
    ∃ board board',
      (greetings.execution "1.00s" quietWorld).1 = .ok board ∧
      (laterGreetings.execution "0.50s" quietWorld).1 = .ok board' ∧
      (greetings.rows board).map Row.undated = (laterGreetings.rows board').map Row.undated ∧
      board.failures.Perm board'.failures ∧
      (greetings.rows board).map Row.undated =
        ((greetings.alone fun _ => quietWorld).filterMap RowResult.row?).map Row.undated ∧
      board.failures.Perm
        ((greetings.alone fun _ => quietWorld).filterMap RowResult.failure?) := by
  let ready (archive : Archive) : Prop :=
    archive.writer.medium = .memory ∧ archive.writer.format = .messages
  have reproducible : greetings.Reproducible (fun _ => .ok ⟨.text "Hello", .null⟩) ready
      ExportFormat.messages.accept := {
    seeded := by decide
    separate := .inl rfl
    answers := fun _ _ _ _ => rfl
    outlet := Archive.reliable_memory "rows" .messages }
  have resembles : greetings.Resembles greetings := ⟨1, _, _, rfl⟩
  have resembles' : greetings.Resembles laterGreetings := ⟨2, _, _, rfl⟩
  have opens : greetings.outlet.Opens ready quietWorld.outlet := ⟨_, rfl, rfl, rfl⟩
  have runs := reproducible.same_rows resembles resembles' (Nat.le_refl 1) (Nat.le_succ 1) opens
    opens (executes_execution greetings "1.00s" quietWorld)
    (executes_execution laterGreetings "0.50s" quietWorld) (fun _ => quietWorld)
    fun _ _ => ⟨rfl, rfl⟩
  exact runs.2.2

end Run

end Colloquy
