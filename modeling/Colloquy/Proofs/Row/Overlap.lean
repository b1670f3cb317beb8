import Colloquy.Proofs.Row.Marks
import Mathlib.Logic.Relation

/-!
# Rows that others may fail

A row that is called again while it is under way is failed by the other call, and finds this at its
next transition. Whatever the others do, it goes on from state to state; it ends completed if it has
come to a row, and failed if not.
-/

set_option autoImplicit false

namespace Colloquy

namespace RowState

/-- One state comes after another on the way of a row, at once or later. -/
abbrev Leads : RowState → RowState → Prop :=
  Relation.ReflTransGen fun source target => target ∈ source.successors

/-- What other calls may make of a row: they may fail it while it is under way. -/
def Meanwhile (before after : RowState) : Prop :=
  after = before ∨ before.isActive = true ∧ after = failed

variable {before between after : RowState}

theorem begun_of_leads (leads : before.Leads after) (begun : before ≠ uninitialized) :
    after ≠ uninitialized := by
  induction leads with
  | refl => exact begun
  | @tail between _ _ next _ =>
      rintro rfl
      cases between <;> simp [successors] at next

theorem active_of_leads (leads : before.Leads after) (begun : before ≠ uninitialized)
    (active : after.isActive = true) : before.isActive = true := by
  induction leads with
  | refl => exact active
  | @tail between last earlier next ih =>
      have begun := begun_of_leads earlier begun
      refine ih ?_
      cases between with
      | uninitialized => exact absurd rfl begun
      | checking | checked | generating => rfl
      | completed | failed => exact nomatch next

namespace Meanwhile

theorem refl (state : RowState) : state.Meanwhile state := .inl rfl

theorem trans (first : before.Meanwhile between) (second : between.Meanwhile after) :
    before.Meanwhile after := by
  rcases first with rfl | ⟨active, rfl⟩
  · exact second
  · rcases second with rfl | ⟨_, rfl⟩ <;> exact .inr ⟨active, rfl⟩

theorem leads (meanwhile : before.Meanwhile after) : before.Leads after := by
  rcases meanwhile with rfl | ⟨active, rfl⟩
  · exact .refl
  · exact .single (failed_mem_successors active)

theorem of_failed (meanwhile : failed.Meanwhile after) : after = failed := by
  rcases meanwhile with same | ⟨_, same⟩ <;> exact same

theorem or_failed (meanwhile : before.Meanwhile after) {state : RowState}
    (found : before = state ∨ before = failed) : after = state ∨ after = failed := by
  rcases meanwhile with rfl | ⟨_, failed⟩
  · exact found
  · exact .inr failed

end Meanwhile

end RowState

namespace RowWorld

theorem state_settle (rowIndex : Int) (world : RowWorld) :
    (world.settle rowIndex).state = if world.state.isActive then .failed else world.state := by
  have released : (world.releaseMarks rowIndex).state = world.state := by
    unfold releaseMarks
    split <;> rfl
  unfold settle
  dsimp only
  rw [released]
  split
  · rfl
  · exact released

theorem meanwhile_settle (rowIndex : Int) (world : RowWorld) :
    world.state.Meanwhile (world.settle rowIndex).state := by
  rw [state_settle]
  split
  next active => exact .inr ⟨active, rfl⟩
  next => exact .refl _

/-- Others may fail the row while it is under way, and each of its own steps leads it on. -/
def overlapped : Contract RowWorld ModelCall (Except Error Reply) where
  relies before after := before.state.Meanwhile after.state
  guarantees before after := before.state.Leads after.state
  answers _ _ := True
  relies_refl _ := .refl _
  relies_trans first second := first.trans second

end RowWorld

namespace RowRecipe

open RowWorld (overlapped)

theorem overlapped_onView {α : Type} (process : RowProcess α) (world : RowWorld) :
    (onView process).Abides overlapped (fun _ after => world.state.Meanwhile after.state)
      world := by
  induction process generalizing world with
  | done result => exact fun _ relied => relied
  | step update next ih =>
      intro now relied
      have onward := ih now.view (now.withView (update now.view))
      exact ⟨.refl, onward.mono fun _ _ later => relied.trans later⟩
  | ask query next ih => exact fun answer _ => ih answer world
  | pause next ih => exact ih world

/-- The rule for a transition on the way of a row, which others may have failed. -/
theorem overlapped_enter {α : Type} {ends : α → RowWorld → Prop} (recipe : RowRecipe)
    {source target : RowState} (allowed : target ∈ source.successors)
    {next : Except Error Unit → RowLife α} {world : RowWorld}
    (found : world.state = source ∨ world.state = .failed)
    (rest : ∀ after, after.state = target → (next (.ok ())).Abides overlapped ends after)
    (stop : ∀ error after, after.state = .failed →
      (next (.error error)).Abides overlapped ends after) :
    ((recipe.transition target).bind next).Abides overlapped ends world := by
  intro now relied
  rcases relied.or_failed found with here | failed
  · rw [← here] at allowed
    obtain ⟨may, entered⟩ := RowWorld.enters_of_allowed recipe.rowIndex allowed
    have onward := rest _ entered
    refine ⟨?_, by simpa [may] using onward⟩
    show now.state.Leads (now.tryEnter recipe.rowIndex target).state
    rw [entered]
    exact .single allowed
  · have barred : now.mayEnter target = false := by
      simp [RowWorld.mayEnter, failed, RowState.successors]
    have kept : now.tryEnter recipe.rowIndex target = now := by simp [RowWorld.tryEnter, barred]
    dsimp only
    rw [kept, barred]
    exact ⟨.refl, stop _ now failed⟩

theorem stages_overlapped (recipe : RowRecipe) :
    Stages (fun _ => True) recipe overlapped fun state world =>
      world.state = state ∨ world.state = .failed where
  lasts stood relied := relied.or_failed stood
  enter allowed stood rest stop := recipe.overlapped_enter allowed stood
    (fun after entered => rest after (.inl entered))
    fun error after failed => stop error after (.inr failed)
  onView _ _ world stood :=
    (overlapped_onView _ world).mono fun _ _ meanwhile => meanwhile.or_failed stood
  count conversation _ _ stood := recipe.abides_counting conversation
    (fun _ _ relied => relied.or_failed stood)
    fun _ _ relied => ⟨.refl, fun _ later => (relied.trans later).or_failed stood⟩

def Closed : Except Error Row → RowWorld → Prop
  | .ok _, world => world.state = .completed
  | .error _, world => world.state = .failed

theorem overlapped_generateRow (recipe : RowRecipe) {world : RowWorld}
    (start : world.state = .uninitialized) :
    recipe.generateRow.Abides overlapped Closed world := by
  have fails (error : Error) {after : RowWorld} (failed : after.state = .failed) :
      (Process.done (.error error) : RowLife (Except Error Row)).Abides overlapped Closed after :=
    fun later relied => (failed ▸ relied : RowState.failed.Meanwhile later.state).of_failed
  have attempt := recipe.stages_overlapped.attempt (.any recipe) (.inl start)
  refine .bind (attempt.mono fun result tried reached => ?_)
  rcases result with error | row
  · obtain ⟨state, active, stood⟩ := reached
    intro now relied
    refine ⟨(now.meanwhile_settle recipe.rowIndex).leads, fails error ?_⟩
    rw [RowWorld.state_settle]
    -- What is settled is under way, or others have failed it: it is a failure in either case.
    rcases relied.or_failed stood with same | failed
    · rw [same]
      exact if_pos active
    · rw [failed]
      rfl
  · refine recipe.overlapped_enter (by decide) reached ?_ fun error _ failed => fails error failed
    rintro entered completed after (same | ⟨active, _⟩)
    · exact same.trans completed
    · rw [completed] at active
      exact absurd active (by decide)

/-- A row begins with a transition. If it may not make it, then it fails. -/
theorem generateRow_eq (recipe : RowRecipe) : ∃ next,
    recipe.generateRow = .step (RowWorld.tryEnter recipe.rowIndex .checking) next ∧
      ∀ before, before.mayEnter .checking = false →
        next before = .step (RowWorld.settle recipe.rowIndex) fun _ =>
          .done (.error (.transition before.state.name RowState.checking.name)) := by
  refine ⟨_, rfl, fun before barred => ?_⟩
  dsimp only
  rw [barred]
  rfl

end RowRecipe

end Colloquy
