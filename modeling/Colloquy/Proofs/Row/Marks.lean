import Colloquy.Proofs.Resolution.Choosing
import Colloquy.Row.Generator

/-!
# The marks of a row

Each step of a row leaves pool and marks alone, or marks one identifier that was not used, or gives
all marks back and ends in failure. What a row has marked is its own affair: others may change the
pool, but neither its state nor its list of marks.
-/

set_option autoImplicit false

namespace Colloquy

/-- Others may do anything to what is shared, and the computation marks unused identifiers only. -/
def Contract.selecting (rule : Option Unique.UniqueBy → Prop) :
    Contract Shared ModelCall (Except Error Reply) where
  relies _ _ := True
  guarantees := Shared.Selects rule
  answers _ _ := True
  relies_refl _ := trivial
  relies_trans _ _ := trivial

variable {rule : Option Unique.UniqueBy → Prop}

theorem Process.MadeOf.abides {α : Type} {process : RowProcess α} (made : process.MadeOf rule)
    (shared : Shared) : process.Abides (.selecting rule) (fun _ _ => True) shared := by
  induction made generalizing shared with
  | done result => exact fun _ _ => trivial
  | choose allowed _ ih =>
      intro after _
      exact ⟨Walk.selects_chosen allowed _ _ after, ih _ _⟩
  | report _ ih =>
      intro after _
      exact ⟨.inl rfl, ih _⟩
  | ask _ ih =>
      intro reply _
      exact ih reply shared
  | pause _ ih => exact ih shared

namespace RowWorld

/-- How a step of a row changes the pool and the marks of the row. -/
inductive Moves (rule : Option Unique.UniqueBy → Prop) (before after : RowWorld) : Prop where
  | keep (pool : after.shared.pool = before.shared.pool) (marked : after.marked = before.marked)
  | mark {given : Unique.UniqueBy} {key : String} (allowed : rule (some given))
      (unused : before.shared.pool.has given.collection key = false)
      (pool : after.shared.pool = before.shared.pool.mark given.collection key)
      (marked : after.marked = before.marked ++ [(given.collection, key)])
  | release (pool : after.shared.pool = before.shared.pool.releaseAll before.marked)
      (marked : after.marked = []) (failed : after.state = .failed)

def contract (rule : Option Unique.UniqueBy → Prop) :
    Contract RowWorld ModelCall (Except Error Reply) where
  relies before after := after.state = before.state ∧ after.marked = before.marked
  guarantees := Moves rule
  answers _ _ := True
  relies_refl _ := ⟨rfl, rfl⟩
  relies_trans first second := ⟨second.1.trans first.1, second.2.trans first.2⟩

/-- The contract of what a row does on its view of what is shared. -/
def viewContract (rule : Option Unique.UniqueBy → Prop) :
    Contract RowWorld ModelCall (Except Error Reply) :=
  { contract rule with
    guarantees := fun before after => Moves rule before after ∧ after.state = before.state }

/-- What a row changes of what it sees arrives in the shared pool and in its marks. -/
theorem moves_withView {world : RowWorld} {seen : Shared} (selects : world.view.Selects rule seen) :
    (world.withView seen).view = seen ∧ Moves rule world (world.withView seen) := by
  obtain ⟨pool, log⟩ := seen
  rcases selects with same | ⟨given, key, allowed, unused, marked⟩
  · dsimp only at same
    subst same
    exact ⟨rfl, .keep rfl rfl⟩
  · dsimp only at marked
    subst marked
    exact ⟨rfl, .mark allowed unused rfl rfl⟩

theorem pool_tryEnter (rowIndex : Int) (target : RowState) (world : RowWorld) :
    (world.tryEnter rowIndex target).shared.pool = world.shared.pool ∧
      (world.tryEnter rowIndex target).marked = world.marked := by
  unfold tryEnter
  split <;> exact ⟨rfl, rfl⟩

theorem enters_of_allowed (rowIndex : Int) {target : RowState} {world : RowWorld}
    (allowed : target ∈ world.state.successors) :
    world.mayEnter target = true ∧ (world.tryEnter rowIndex target).state = target := by
  have may : world.mayEnter target = true := by simpa [mayEnter] using allowed
  exact ⟨may, by simp [tryEnter, may, enter]⟩

theorem moves_settle (rowIndex : Int) {world : RowWorld} (active : world.state.isActive = true) :
    Moves rule world (world.settle rowIndex) ∧ (world.settle rowIndex).state = .failed ∧
      (world.settle rowIndex).marked = [] := by
  by_cases unmarked : world.marked = []
  · have same : world.releaseMarks rowIndex = world := by simp [releaseMarks, unmarked]
    have failed : (world.settle rowIndex).state = .failed := by simp [settle, same, active, enter]
    refine ⟨.release ?_ ?_ failed, failed, ?_⟩
    · simp [settle, same, active, enter, unmarked, Unique.Store.releaseAll, Shared.report]
    · simp [settle, same, active, enter, unmarked]
    · simp [settle, same, active, enter, unmarked]
  · have failed : (world.settle rowIndex).state = .failed := by
      simp [settle, releaseMarks, unmarked, active, enter]
    refine ⟨.release ?_ ?_ failed, failed, ?_⟩
    · simp [settle, releaseMarks, unmarked, active, enter, Shared.report]
    · simp [settle, releaseMarks, unmarked, active, enter]
    · simp [settle, releaseMarks, unmarked, active, enter]

end RowWorld

namespace RowRecipe

open RowWorld (contract viewContract Moves)

theorem abides_onView {α : Type} {process : RowProcess α} (made : process.MadeOf rule)
    (world : RowWorld) :
    (onView process).Abides (contract rule) (fun _ after => after.state = world.state) world := by
  have zoomed : (onView process).Abides (viewContract rule) (fun _ _ => True) world := by
    refine Process.Abides.zoom ?_ ?_ ?_ (made.abides world.view)
    · intro before after _
      trivial
    · intro before seen selects
      obtain ⟨back, moves⟩ := RowWorld.moves_withView selects
      exact ⟨back, moves, rfl⟩
    · intro query answer _
      trivial
  have stays := zoomed.within fun before after => after.state = before.state
  refine ((stays ?_ ?_ ?_ ?_).mono fun _ _ known => known.2).weaken ?_ ?_ ?_
  · exact fun _ => rfl
  · exact fun first second => second.trans first
  · exact fun relied => relied.1
  · exact fun owed => owed.2
  · exact fun _ _ relied => relied
  · exact fun _ _ owed => owed.1
  · exact fun _ _ admitted => admitted

/-- The rule for a transition on the way of a row. -/
theorem abides_enter {α : Type} {ends : α → RowWorld → Prop} (recipe : RowRecipe)
    (target : RowState) {next : Except Error Unit → RowLife α} {world : RowWorld}
    (allowed : target ∈ world.state.successors)
    (rest : ∀ after, after.state = target →
      (next (.ok ())).Abides (contract rule) ends after) :
    ((recipe.transition target).bind next).Abides (contract rule) ends world := by
  intro now relied
  rw [← relied.1] at allowed
  obtain ⟨may, entered⟩ := RowWorld.enters_of_allowed recipe.rowIndex allowed
  have kept := RowWorld.pool_tryEnter recipe.rowIndex target now
  refine ⟨.keep kept.1 kept.2, ?_⟩
  have onward := rest _ entered
  simpa [may] using onward

/-- The rule for counting tokens, which may leave a warning in the log. -/
theorem abides_counting {contract : Contract RowWorld ModelCall (Except Error Reply)}
    {ends : Option TokenCount → RowWorld → Prop} (recipe : RowRecipe) (conversation : Generated)
    {world : RowWorld}
    (counted : ∀ tokens after, contract.relies world after → ends tokens after)
    (warned : ∀ now warning, contract.relies world now →
      let after := now.withShared (now.shared.report .warning warning)
      contract.guarantees now after ∧ ∀ later, contract.relies after later → ends none later) :
    (recipe.countTokens conversation).Abides contract ends world := by
  have perhaps (suspends : Bool) {process : RowLife (Option TokenCount)}
      (abides : process.Abides contract ends world) :
      (if suspends then .pause process else process : RowLife (Option TokenCount)).Abides
        contract ends world := by
    split <;> exact abides
  unfold countTokens
  split
  · exact counted none
  · refine perhaps _ ?_
    split
    · exact counted _
    · exact fun now relied => warned now _ relied

theorem abides_countTokens (recipe : RowRecipe) (conversation : Generated) (world : RowWorld) :
    (recipe.countTokens conversation).Abides (contract rule)
      (fun _ after => after.state = world.state) world :=
  recipe.abides_counting conversation (fun _ _ relied => relied.1) fun _ _ relied =>
    ⟨.keep rfl rfl, fun _ later => later.1.trans relied.1⟩

/-- A recipe whose choices are all made under certain rules. -/
structure ChoosesBy (rule : Option Unique.UniqueBy → Prop) (recipe : RowRecipe) : Prop where
  schema : ∀ root, recipe.schema.resolve = .ok root →
    (root.script .done).WrittenIn (.choosing rule)
  extras : ∀ extras, recipe.extras = some extras → extras.ChoosesBy rule

theorem ChoosesBy.any (recipe : RowRecipe) : recipe.ChoosesBy fun _ => True :=
  ⟨fun root _ => .any (root.script .done), fun extras _ => .any extras⟩

/-- What a contract lets one say of a row in each of its states: it lasts whatever others do, the
parts of an attempt that enter no state keep it, and a transition that is refused leaves it as if it
had been made. -/
structure Stages (rule : Option Unique.UniqueBy → Prop) (recipe : RowRecipe)
    (contract : Contract RowWorld ModelCall (Except Error Reply))
    (stands : RowState → RowWorld → Prop) : Prop where
  lasts : ∀ {state before after}, stands state before → contract.relies before after →
    stands state after
  enter : ∀ {α : Type} {ends : α → RowWorld → Prop} {source target : RowState}
    {next : Except Error Unit → RowLife α} {world : RowWorld}, target ∈ source.successors →
    stands source world →
    (∀ after, stands target after → (next (.ok ())).Abides contract ends after) →
    (∀ error after, stands target after → (next (.error error)).Abides contract ends after) →
      ((recipe.transition target).bind next).Abides contract ends world
  onView : ∀ {α : Type} {process : RowProcess α}, process.MadeOf rule →
    ∀ {state world}, stands state world →
      (onView process).Abides contract (fun _ after => stands state after) world
  count : ∀ conversation {state world}, stands state world →
    (recipe.countTokens conversation).Abides contract (fun _ after => stands state after) world

namespace Stages

variable {recipe : RowRecipe} {contract : Contract RowWorld ModelCall (Except Error Reply)}
variable {stands : RowState → RowWorld → Prop} {world : RowWorld}

/-- What an attempt leaves behind: it comes to a row that is being generated, or it is given up at
some stage that is under way. -/
def Reaches (stands : RowState → RowWorld → Prop) : Except Error Row → RowWorld → Prop
  | .ok _, world => stands .generating world
  | .error _, world => ∃ state, state.isActive = true ∧ stands state world

theorem abandon (stages : Stages rule recipe contract stands) (error : Error) {state : RowState}
    (active : state.isActive = true) (stood : stands state world) :
    (Process.done (.error error) : RowLife (Except Error Row)).Abides contract (Reaches stands)
      world :=
  fun _ relied => ⟨state, active, stages.lasts stood relied⟩

theorem attempt (stages : Stages rule recipe contract stands) (chooses : recipe.ChoosesBy rule)
    (start : stands .uninitialized world) :
    recipe.attempt.Abides contract (Reaches stands) world := by
  refine stages.enter (by decide) start ?_ fun error _ => stages.abandon error (by decide)
  -- From here on the row is under way, so that it may fail at any point.
  intro entered checking
  dsimp only
  split
  · exact stages.abandon _ (by decide) checking
  next root resolved =>
    have written := chooses.schema root resolved
    refine .bind ((stages.onView (madeOf_check written ..) checking).mono ?_)
    intro walked checked checking
    rcases walked with halt | ⟨plan, walk⟩
    · exact stages.abandon _ (by decide) checking
    · refine stages.enter (by decide) checking ?_ fun error _ => stages.abandon error (by decide)
      intro ready isReady
      refine stages.enter (by decide) isReady ?_ fun error _ => stages.abandon error (by decide)
      intro begun generating
      refine .bind ((stages.onView (madeOf_generate written chooses.extras ..) generating).mono ?_)
      intro walked generated generating
      rcases walked with halt | ⟨conversation, last⟩
      · exact stages.abandon _ (by decide) generating
      · refine .bind ((stages.count conversation generating).mono ?_)
        intro tokens counted generating
        cases recipe.finish plan conversation tokens with
        | ok row => exact fun _ relied => stages.lasts generating relied
        | error error => exact stages.abandon error (by decide) generating

end Stages

/-- The state that an attempt leaves a row in: it is under way. -/
def Attempted : Except Error Row → RowWorld → Prop
  | .ok _, world => world.state = .generating
  | .error _, world => world.state.isActive = true

theorem stages_state (recipe : RowRecipe) :
    Stages rule recipe (contract rule) fun state world => world.state = state where
  lasts stood relied := relied.1.trans stood
  enter allowed stood rest _ := recipe.abides_enter _ (stood ▸ allowed) rest
  onView made _ world stood := (abides_onView made world).mono fun _ _ same => same.trans stood
  count conversation _ world stood :=
    (recipe.abides_countTokens conversation world).mono fun _ _ same => same.trans stood

theorem abides_attempt {recipe : RowRecipe} (chooses : recipe.ChoosesBy rule) {world : RowWorld}
    (start : world.state = .uninitialized) :
    recipe.attempt.Abides (contract rule) Attempted world := by
  refine (recipe.stages_state.attempt chooses start).mono fun result world reached => ?_
  cases result with
  | ok row => exact reached
  | error error =>
      obtain ⟨state, active, rfl⟩ := reached
      exact active

/-- The state that a row ends in, and its marks. -/
def Ended : Except Error Row → RowWorld → Prop
  | .ok _, world => world.state = .completed
  | .error _, world => world.state = .failed ∧ world.marked = []

/-- A row that has not begun keeps to its contract: it marks unused identifiers only, and it gives
all of them back if it fails. -/
theorem abides_generateRow {recipe : RowRecipe} (chooses : recipe.ChoosesBy rule)
    {world : RowWorld} (start : world.state = .uninitialized) :
    recipe.generateRow.Abides (contract rule) Ended world := by
  refine .bind ((abides_attempt chooses start).mono fun result tried attempted => ?_)
  rcases result with error | row
  · intro now relied
    have active : now.state.isActive = true := by rw [relied.1]; exact attempted
    obtain ⟨moves, failed, unmarked⟩ := RowWorld.moves_settle recipe.rowIndex active
    refine ⟨moves, fun after later => ?_⟩
    exact ⟨later.1.trans failed, later.2.trans unmarked⟩
  · have generating : tried.state = .generating := attempted
    refine recipe.abides_enter .completed (by simp [generating, RowState.successors]) ?_
    intro ended completed after relied
    exact relied.1.trans completed

/-- How a row stands whose result is known. -/
def EndedAs : RowResult → RowWorld → Prop
  | .success _ _, world => world.state = .completed
  | .failure _, world => world.state = .failed ∧ world.marked = []

theorem abides_runRow {recipe : RowRecipe} (chooses : recipe.ChoosesBy rule) {world : RowWorld}
    (start : world.state = .uninitialized) :
    recipe.runRow.Abides (contract rule) EndedAs world := by
  refine .bind ((abides_generateRow chooses start).mono fun result last ended after relied => ?_)
  cases result with
  | error error => exact ⟨relied.1.trans ended.1, relied.2.trans ended.2⟩
  | ok row => exact relied.1.trans ended

/-- The rule for a call, whose marks nobody else knows. -/
theorem abides_call {α : Type} {life : RowLife α}
    {outside : Contract (Shared × RowState) ModelCall (Except Error Reply)}
    {inside : Contract RowWorld ModelCall (Except Error Reply)}
    {ends : α → Shared × RowState → Prop} {both : Shared × RowState}
    (relies : ∀ before after marked, outside.relies before after →
      inside.relies ⟨before.1, before.2, marked⟩ ⟨after.1, after.2, marked⟩)
    (guarantees : ∀ before after, inside.guarantees before after →
      outside.guarantees (before.shared, before.state) (after.shared, after.state))
    (answers : ∀ query answer, outside.answers query answer → inside.answers query answer)
    (abides : life.Abides inside (fun result world => ends result (world.shared, world.state))
      ⟨both.1, both.2, []⟩) :
    (call life).Abides outside ends both := by
  let part (whole : (Shared × RowState) × List (String × String)) : RowWorld :=
    ⟨whole.1.1, whole.1.2, whole.2⟩
  let whole : Contract ((Shared × RowState) × List (String × String)) ModelCall
      (Except Error Reply) :=
    ⟨fun before after => inside.relies (part before) (part after),
      fun before after => inside.guarantees (part before) (part after),
      inside.answers, fun _ => inside.relies_refl _, inside.relies_trans⟩
  have begins : life.Abides inside (fun result world => ends result (world.shared, world.state))
      (part (both, [])) := abides
  have zoomed : (life.zoom part fun world _ => ((world.shared, world.state), world.marked)).Abides
      whole (fun result whole => ends result ((part whole).shared, (part whole).state))
      (both, []) := by
    refine Process.Abides.zoom ?_ ?_ ?_ begins
    · exact fun _ _ relied => relied
    · exact fun _ _ owed => ⟨rfl, owed⟩
    · exact fun _ _ admitted => admitted
  have owned : ((life.zoom part _).own []).Abides outside _ both :=
    .own relies (fun _ _ owed => guarantees _ _ owed) answers zoomed
  exact .bind (owned.lasting.mono fun _ _ ended => ended)

end RowRecipe

end Colloquy
