import Colloquy.Proofs.Process.View
import Colloquy.Proofs.Resolution.Arguments
import Colloquy.Proofs.Resolution.Catalogue
import Colloquy.Proofs.Row.Marks

/-!
# The catalogue of a row

A row runs its phases on its view of what is shared. What they come to there is what they come to in
an environment that knows the row by its view and its state. A row that completes lists the tools
whose definitions its generate phase comes to: a tool that its messages mention is listed once if so,
and not at all otherwise.
-/

set_option autoImplicit false

namespace Colloquy

variable {μ : Type}

theorem Process.run_bind_eq_ok {σ Q R ε ε' α β : Type}
    (process : Process σ Q R (Except ε α)) {next : Except ε α → Process σ Q R (Except ε' β)}
    {environment : Environment σ μ Q R} {both : σ × μ} {result : β}
    (returned : ((process.bind next).run environment both).1 = .ok result)
    (stops : ∀ failure, ∃ error, next (.error failure) = .done (.error error)) :
    ∃ value later, process.run environment both = (.ok value, later) ∧
      ((next (.ok value)).run environment later).1 = .ok result := by
  rw [run_bind] at returned
  rcases ran : process.run environment both with ⟨failure | value, later⟩
  · obtain ⟨error, stopped⟩ := stops failure
    rw [ran, stopped] at returned
    cases returned
  · rw [ran] at returned
    exact ⟨value, later, rfl, returned⟩

/-- A row by its view of what is shared and by its state. -/
def RowWorld.ofView (seen : Shared) (state : RowState) : RowWorld :=
  ⟨{ seen with pool := seen.pool.base?.getD seen.pool }, state, seen.pool.marked?.getD []⟩

/-- What is around a row, for somebody who has only its view and remembers its state. -/
def Environment.seen (environment : Environment RowWorld μ ModelCall (Except Error Reply)) :
    Environment Shared (RowState × μ) ModelCall (Except Error Reply) where
  answer call both :=
    let answered := environment.answer call (.ofView both.1 both.2.1, both.2.2)
    (answered.1, answered.2.1.view, answered.2.1.state, answered.2.2)
  meanwhile both :=
    let later := environment.meanwhile (.ofView both.1 both.2.1, both.2.2)
    (later.1.view, later.1.state, later.2)

namespace RowRecipe

/-- What a phase comes to as a part of a row is what it comes to on the view of the row. -/
theorem run_onView {rule : Option Unique.UniqueBy → Prop} {α : Type} {process : RowProcess α}
    (made : process.MadeOf rule)
    (environment : Environment RowWorld μ ModelCall (Except Error Reply)) (world : RowWorld)
    (memory : μ) :
    (onView process).run environment (world, memory) =
      let last := process.run environment.seen (world.view, world.state, memory)
      (last.1, .ofView last.2.1 last.2.2.1, last.2.2.2) := by
  induction made generalizing world memory with
  | done result => rfl
  | @choose options uniqueBy walk next allowed rest ih =>
      have selects := Walk.selects_chosen allowed options walk world.view
      have later := ih (walk.chosen options uniqueBy world.view).1
        (world.withView (walk.chosen options uniqueBy world.view).2) memory
      rw [(RowWorld.moves_withView selects).1] at later
      exact later
  | report rest ih => exact ih _ _
  | ask rest ih => exact ih _ _ _
  | pause rest ih => exact ih _ _

/-- Where the generate phase of a row begins, if the row comes so far: the tree, the plan, and how
things are then. -/
def begun (recipe : RowRecipe)
    (environment : Environment RowWorld μ ModelCall (Except Error Reply)) (both : RowWorld × μ) :
    Option (Item × Plan × RowWorld × μ) :=
  match recipe.schema.resolve with
  | .error _ => none
  | .ok root =>
      let entered := ((recipe.transition .checking).run environment both).2
      match (onView (check root recipe.seed (some recipe.rowIndex) recipe.stream
        recipe.metadata)).run environment entered with
      | (.error _, _) => none
      | (.ok (plan, _), checked) =>
          let ready := ((recipe.transition .checked).run environment checked).2
          some (root, plan, ((recipe.transition .generating).run environment ready).2)

/-- The tools whose definitions the generate phase of a row comes to, in order. -/
def listings (recipe : RowRecipe)
    (environment : Environment RowWorld μ ModelCall (Except Error Reply)) (both : RowWorld × μ) :
    List ToolSpec :=
  match recipe.begun environment both with
  | none => []
  | some (root, plan, world, memory) =>
      (root.script .done).listings (Walk.makeLeaf recipe.making) environment.seen
        (.startGenerate recipe.seed (some recipe.rowIndex) recipe.stream plan)
        (world.view, world.state, memory)

theorem generated_of_attempt {recipe : RowRecipe}
    {environment : Environment RowWorld μ ModelCall (Except Error Reply)} {both : RowWorld × μ}
    {row : Row} (returned : (recipe.attempt.run environment both).1 = .ok row) :
    ∃ root plan world memory conversation last tokens,
      recipe.begun environment both = some (root, plan, world, memory) ∧
      ((generate recipe.making root recipe.seed (some recipe.rowIndex) recipe.stream plan).run
        environment.seen (world.view, world.state, memory)).1 = .ok (conversation, last) ∧
      recipe.finish plan conversation tokens = .ok row := by
  -- The attempt returns, so that each of its parts has: they are taken off one after the other.
  obtain ⟨⟨⟩, entered, checking, returned⟩ :=
    Process.run_bind_eq_ok (recipe.transition .checking) returned fun _ => ⟨_, rfl⟩
  dsimp only at returned
  cases resolved : recipe.schema.resolve with
  | error error =>
      rw [resolved] at returned
      cases returned
  | ok root =>
      rw [resolved] at returned
      obtain ⟨⟨plan, walk⟩, checked, planned, returned⟩ := Process.run_bind_eq_ok
        (onView (check root recipe.seed (some recipe.rowIndex) recipe.stream
          recipe.metadata)) returned fun _ => ⟨_, rfl⟩
      obtain ⟨⟨⟩, ready, isReady, returned⟩ :=
        Process.run_bind_eq_ok (recipe.transition .checked) returned fun _ => ⟨_, rfl⟩
      obtain ⟨⟨⟩, ⟨world, memory⟩, generating, returned⟩ :=
        Process.run_bind_eq_ok (recipe.transition .generating) returned fun _ => ⟨_, rfl⟩
      obtain ⟨⟨conversation, last⟩, made, generated, returned⟩ := Process.run_bind_eq_ok
        (onView (generate recipe.making root recipe.seed (some recipe.rowIndex)
          recipe.stream plan)) returned fun _ => ⟨_, rfl⟩
      have counted := congrArg Prod.fst (Process.run_bind (recipe.countTokens conversation)
        (fun tokens => .done (recipe.finish plan conversation tokens)) environment made)
      have begun : recipe.begun environment both = some (root, plan, world, memory) := by
        simp only [begun, resolved, checking, planned, isReady, generating]
      have chooses : (generate recipe.making root recipe.seed (some recipe.rowIndex) recipe.stream
          plan).MadeOf fun _ => True :=
        madeOf_generate (.any (root.script .done)) (fun extras _ => .any extras) _ _ _ _
      have seen := run_onView chooses environment world memory
      rw [generated] at seen
      exact ⟨root, plan, world, memory, conversation, last, _, begun,
        (congrArg Prod.fst seen).symm, counted.symm.trans returned⟩

theorem finish_eq_ok {recipe : RowRecipe} {plan : Plan} {conversation : Generated}
    {tokens : Option TokenCount} {row : Row}
    (finished : recipe.finish plan conversation tokens = .ok row) :
    row.messages = conversation.messages ∧ row.tools = conversation.tools ∧ row.plan = plan := by
  obtain ⟨origin, _, rfl⟩ := map_eq_ok.1 finished
  exact ⟨rfl, rfl, rfl⟩

theorem attempt_of_generateRow {recipe : RowRecipe}
    {environment : Environment RowWorld μ ModelCall (Except Error Reply)} {both : RowWorld × μ}
    {row : Row} (returned : (recipe.generateRow.run environment both).1 = .ok row) :
    (recipe.attempt.run environment both).1 = .ok row := by
  replace returned : ((recipe.attempt.bind _ : RowLife (Except Error Row)).run environment
    both).1 = .ok row := returned
  rw [Process.run_bind] at returned
  rcases attempted : (recipe.attempt.run environment both).1 with error | made
  · rw [attempted] at returned
    cases returned
  · rw [attempted] at returned
    obtain ⟨⟨⟩, _, _, returned⟩ :=
      Process.run_bind_eq_ok (recipe.transition .completed) returned fun _ => ⟨_, rfl⟩
    cases returned
    rfl

end RowRecipe

/-- The message calls a tool of that name, or is the result of one. -/
def Message.Mentions (message : Message) (name : String) : Prop :=
  (∃ call ∈ message.toolCalls.getD [], call.name = name) ∨ message.name = some name

/-- The recipe of a row with a seed and little else. -/
def plainRecipe (root : Item) : RowRecipe where
  schema := .tree root
  seed := some 7
  freshSeed := 0
  rowIndex := 0
  extras := none
  metadata := []
  tokenCounter := none
  model := .text "m"
  output := .null
  startTimestamp := "now"

/-- A row that nothing has been done for. -/
def RowWorld.fresh : RowWorld := ⟨⟨.fresh, #[]⟩, .uninitialized, []⟩

/-- A forecast whose tool is defined behind the call of it, and then once more in other words. -/
def lateForecast : Item :=
  .list [.node (.leaf (.call forecastCall)), .node (.tool forecastTool),
    .node (.tool { forecastTool with description := "Oracle" })]

def unlistedForecast : Item := .node (.leaf (.call forecastCall))

end Colloquy
