import Colloquy.Proofs.Batch.Notes
import Colloquy.Proofs.Dataset.Concurrency
import Colloquy.Proofs.Resolution.Evenness

/-!
# Runs without skew

If no pool sways the schemas of a run, and no code of authors, callers or the model raises an error of
skew itself, then no row of the run fails by a skew, however its workers are interleaved and whatever
they choose from.
-/

set_option autoImplicit false

namespace Colloquy

variable {μ π ω : Type}

/-- The client fails with no error of skew. -/
def Client.IsCandid (client : Client μ) : Prop :=
  ∀ call, (client.answer call).YieldsGiven (fun _ _ => True) Candid

theorem Client.IsCandid.hoisted {client : Client μ} (candid : client.IsCandid) :
    client.hoisted.IsCandid := by
  intro call
  have plain : Plainly (Model.hoist call.messages) := by
    unfold Model.hoist
    split
    next error found =>
      obtain ⟨message, _, fault⟩ := List.exists_of_findSome?_eq_some found
      cases message <;> cases fault <;> exact .error rfl
    next => exact .ok _
  simp only [Client.hoisted]
  cases hoisted : Model.hoist call.messages with
  | ok messages => exact candid ⟨call.form, messages⟩
  | error error => exact .error (plain.candid error hoisted)

namespace RowRecipe

variable {recipe : RowRecipe}

theorem given_transition {α : Type} {ends : Except Error α → Prop} (recipe : RowRecipe)
    (target : RowState) {next : Except Error Unit → RowLife (Except Error α)}
    (refused : ∀ error : Error, error.Unskewed →
      (next (.error error)).YieldsGiven (fun _ => Candid) ends)
    (entered : (next (.ok ())).YieldsGiven (fun _ => Candid) ends) :
    ((recipe.transition target).bind next).YieldsGiven (fun _ => Candid) ends := by
  intro world
  show ((if world.mayEnter target then .done (.ok ())
    else .done (.error (.transition world.state.name target.name)) :
      RowLife (Except Error Unit)).bind next).YieldsGiven _ _
  split
  · exact entered
  · exact refused _ fun skew => nomatch skew

theorem candid_finish (recipe : RowRecipe) (plan : Plan) (conversation : Generated)
    (tokens : Option TokenCount) : Candid (recipe.finish plan conversation tokens) :=
  (Plainly.mapError (Error.plain_ofFaults _) _).candid.map _

theorem candid_attempt (steady : recipe.schema.IsSteady) (quiet : PromptExtras.Quiet recipe.extras) :
    recipe.attempt.YieldsGiven (fun _ => Candid) Candid := by
  refine recipe.given_transition .checking (fun _ unskewed => .error unskewed) ?_
  dsimp only
  split
  next error refused => exact .error (steady.resolves error refused)
  next root resolved =>
    have candid := steady.candid root resolved
    refine .bind ((Process.YieldsGiven.zoom (check_leads candid ..)).mono fun walked checked => ?_)
    rcases walked with halt | ⟨plan, walk⟩
    · exact .error checked
    refine recipe.given_transition .checked (fun _ unskewed => .error unskewed) ?_
    refine recipe.given_transition .generating (fun _ unskewed => .error unskewed) ?_
    have quiet : PromptExtras.Quiet recipe.making.extras := quiet
    have generated := generate_unskewed quiet candid (steady.unswayed root resolved) checked
      recipe.seed (some recipe.rowIndex)
    refine .bind ((Process.YieldsGiven.zoom generated).mono fun walked unskewed => ?_)
    rcases walked with halt | ⟨conversation, last⟩
    · exact .error unskewed
    refine .bind ((Process.YieldsGiven.of_free _).mono fun tokens _ => ?_)
    exact recipe.candid_finish plan conversation tokens

theorem candid_generateRow (steady : recipe.schema.IsSteady)
    (quiet : PromptExtras.Quiet recipe.extras) :
    recipe.generateRow.YieldsGiven (fun _ => Candid) Candid := by
  refine .bind ((candid_attempt steady quiet).mono fun result candid => ?_)
  rcases result with error | row
  · exact fun _ => .error (candid error rfl)
  · exact recipe.given_transition .completed (fun _ unskewed => .error unskewed) (.ok row)

end RowRecipe

/-- The row is not dropped for a skew. -/
def RowResult.Unskewed (result : RowResult) : Prop :=
  ∀ failure, result.failure? = some failure → failure.error.Unskewed

theorem RowRecipe.unskewed_once {recipe : RowRecipe} (steady : recipe.schema.IsSteady)
    (quiet : PromptExtras.Quiet recipe.extras) :
    (once recipe.runRow).YieldsGiven (fun _ => Candid) fun result => result.1.Unskewed := by
  have life : recipe.runRow.YieldsGiven (fun _ => Candid) RowResult.Unskewed := by
    refine .bind ((candid_generateRow steady quiet).mono fun result candid => ?_)
    rintro failure same
    cases result with
    | error error =>
        cases same
        exact candid error rfl
    | ok row => cases same
  have called : (call recipe.runRow).YieldsGiven (fun _ => Candid) RowResult.Unskewed :=
    .bind (Process.YieldsGiven.own life.zoom [])
  exact called.own RowState.uninitialized

/-- The outcome drops no row for a skew. -/
def TaskOutcome.Unskewed (outcome : TaskOutcome) : Prop :=
  ∀ position seed failure, outcome.failure? position seed = some failure → failure.error.Unskewed

namespace Run

/-- What keeps a run from failing by a skew: its schemas are steady, and no code around it draws, or
raises an error of skew. -/
structure IsSteady (run : Run μ π ω) : Prop where
  schemas : ∀ task ∈ run.tasks, task.schema.IsSteady
  extras : PromptExtras.Quiet run.extras
  client : run.client.IsCandid
  outlet : ∀ row state, Candid (run.outlet.append row state).1

variable {run : Run μ π ω} (steady : run.IsSteady)

theorem candid_recipe (task : RowTask) : Candid (run.recipe task) := by
  refine Raises.bind ?_ fun _ _ => .ok _
  unfold callerMetadata
  split
  · exact (Datum.plainly_asEntries _).candid
  · exact .ok []

include steady

theorem IsSteady.serve {task : RowTask} (member : task ∈ run.tasks) {recipe : RowRecipe}
    (made : run.recipe task = .ok recipe) :
    (run.serve recipe).YieldsGiven (fun _ _ => True) RowResult.Unskewed := by
  obtain ⟨schema, extras⟩ := recipe_eq_ok made
  have once := RowRecipe.unskewed_once (schema ▸ steady.schemas task member)
    (extras ▸ steady.extras)
  have served : (run.client.hoisted.serve (RowRecipe.once recipe.runRow)).YieldsGiven
      (fun _ _ => True) fun result => result.1.Unskewed :=
    .handle steady.client.hoisted once.zoom
  unfold Run.serve
  dsimp only
  split
  · exact .bind served
  · exact .bind (Process.YieldsGiven.own (Process.YieldsGiven.zoom (.bind served)) Unique.Store.fresh)

theorem IsSteady.execute {task : RowTask} (member : task ∈ run.tasks) :
    (run.execute task).YieldsGiven (fun _ _ => True) TaskOutcome.Unskewed := by
  unfold Run.execute
  cases made : run.recipe task with
  | error error =>
      rintro position seed failure ⟨⟩
      exact candid_recipe task error made
  | ok recipe =>
      refine .bind ((Process.YieldsGiven.zoom (steady.serve member made)).mono fun result unskewed => ?_)
      cases result with
      | failure cause =>
          rintro position seed failure ⟨⟩
          exact unskewed cause rfl
      | success index row =>
          intro world
          have candid := steady.outlet row world.outlet
          dsimp only
          cases delivered : (world.deliver run.outlet row).1 with
          | error error =>
              rintro position seed failure ⟨⟩
              exact candid error delivered
          | ok after => exact fun _ _ _ _ failed => nomatch failed

/-- Whatever the others do, no task of a steady run drops its row for a skew. -/
theorem IsSteady.dependable :
    run.surroundings.Dependable run.batch (.outcomes TaskOutcome.Unskewed) := by
  refine Surroundings.dependable_outcomes fun position task found => ?_
  simp only [batch, List.getElem?_map, Option.map_eq_some_iff] at found
  obtain ⟨rowTask, there, rfl⟩ := found
  exact (steady.execute (List.mem_of_getElem? there)).abides (fun _ _ => trivial) fun _ _ _ => trivial

/-- However the workers of a steady run are interleaved, and whatever its rows choose from, none of
them fails by a skew. -/
theorem IsSteady.no_skew (positive : 1 ≤ run.concurrency) {elapsed : String}
    {world : RunWorld μ π ω} {last : Except Error Board × RunWorld μ π ω}
    (executes : run.Executes elapsed world last) {board : Board} (ended : last.1 = .ok board) :
    ∀ failure ∈ board.failures, failure.kind ≠ .seedSkew := by
  obtain ⟨outlet, both, _, batched, rfl, _⟩ := executes.batched ended
  obtain ⟨outcomes, _, ends, _, failures⟩ :=
    batched.complete steady.dependable positive trivial fun _ _ => trivial
  intro failure member
  obtain ⟨position, inside, failed⟩ := List.mem_filterMap.1 (failures.mem_iff.1 member)
  obtain ⟨result, settled, failed⟩ := Option.bind_eq_some_iff.1 failed
  obtain ⟨task, _, settled⟩ := Option.bind_eq_some_iff.1 settled
  refine ends position (List.mem_range.1 inside) position task.seed failure ?_
  rw [← TaskOutcome.failure?_result?, settled]
  exact failed

omit steady

/-- A question, and one of two openings that no other row takes. -/
def opening : Item :=
  .list [.node (.leaf (.written (.text "user") (.text "Ask something"))),
    .node (.oneOf [.plain (.node (.leaf (.fixed (.text "assistant") (.text "Hi")))),
      .plain (.node (.leaf (.fixed (.text "assistant") (.text "Hello"))))]
      (some ⟨"openings", none⟩))]

/-- Two rows with an opening each, made by two workers. -/
def openings : Run Unit Unit Archive :=
  { greetings with entries := [⟨.tree opening, 2, some 7⟩], concurrency := 2, scope := .run }

theorem isEven_opening : opening.IsEven := by
  have spoken (name : String) (human : name ≠ Role.tool.name) (content : Datum) :
      (Leaf.fixed (.text name) content).IsSpoken := by simpa [Leaf.IsSpoken] using human
  have answer := spoken "assistant" (by decide)
  refine ⟨spoken "user" (by decide) .null, ⟨?_, fun left here right there => ?_⟩, trivial⟩
  · rintro shown compute ⟨⟩
  · simp only [List.mem_cons, List.not_mem_nil, or_false] at here there
    rcases here with rfl | rfl <;> rcases there with rfl | rfl <;>
      exact Node.interchangeable_leaves rfl rfl rfl rfl (answer _) (answer _)

theorem no_skew_openings :
    ∃ board, (openings.execution "1.00s" quietWorld).1 = .ok board ∧
      ∀ failure ∈ board.failures, failure.kind ≠ .seedSkew := by
  have steady : openings.IsSteady :=
    { schemas := by
        intro task member
        have known : task.schema ∈ openings.tasks.map RowTask.schema :=
          List.mem_map.2 ⟨task, member, rfl⟩
        rw [show openings.tasks.map RowTask.schema = [.tree opening, .tree opening] from rfl] at known
        have same : task.schema = .tree opening := by simpa using known
        exact same ▸ Schema.isSteady_tree isEven_opening
      extras := fun _ _ _ => ⟨trivial, rfl⟩
      client := fun _ => .ok _
      outlet := fun row archive => (archive.plainly_append row).candid }
  exact ⟨_, rfl, steady.no_skew (by decide) (openings.executes_execution "1.00s" quietWorld) rfl⟩

end Run

end Colloquy
