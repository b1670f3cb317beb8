import Colloquy.Proofs.Process.View
import Colloquy.Proofs.Row.Marks

/-!
# Rows as they are alone

What a row comes to depends on its recipe, on the answers of the model, and on what its choices see
of the pool. If nobody else changes that, then the row is the same among others as it is alone.
-/

set_option autoImplicit false

namespace Colloquy

open Selection (Choice)

def Row.dated (startTimestamp : String) (row : Row) : Row :=
  { row with provenance := { row.provenance with startTimestamp := startTimestamp } }

def Row.undated (row : Row) : Row := row.dated ""

def RowResult.dated (startTimestamp : String) : RowResult → RowResult
  | success index row => success index (row.dated startTimestamp)
  | failure cause => failure cause

def RowResult.undated (result : RowResult) : RowResult := result.dated ""

def RowRecipe.again (freshSeed : Int) (startTimestamp : String) (recipe : RowRecipe) : RowRecipe :=
  { recipe with freshSeed := freshSeed, startTimestamp := startTimestamp }

def RowRecipe.timeless (recipe : RowRecipe) : RowRecipe := recipe.again 0 ""

/-- What a row comes to if it is generated alone, the model's answers being given by a function. -/
def RowRecipe.result (reply : ModelCall → Except Error Reply) (recipe : RowRecipe) : RowResult :=
  ((RowRecipe.once recipe.timeless.runRow).run (.answering reply) (⟨.fresh, #[]⟩, ())).1.1

/-- What choices under certain rules depend on: what they see of the view of a row, and what this
shows of the pool that rows share. -/
structure Sight (rule : Option Unique.UniqueBy → Prop) (ν ξ : Type) where
  look : Unique.Store → ν
  see : Unique.Store → ξ
  chosen : ∀ {uniqueBy : Option Unique.UniqueBy}, rule uniqueBy →
    ∀ (options : List (Choice Datum)) (walk : Walk) {left right : Shared},
      see left.pool = see right.pool →
        (walk.chosen options uniqueBy left).1 = (walk.chosen options uniqueBy right).1 ∧
          see (walk.chosen options uniqueBy left).2.pool =
            see (walk.chosen options uniqueBy right).2.pool
  tracked : ∀ (marked : List (String × String)) {left right : Unique.Store},
    look left = look right → see (.tracking marked left) = see (.tracking marked right)
  written : ∀ (marked : List (String × String)) {left right inner inner' : Unique.Store},
    look left = look right → see inner = see inner' →
      look (inner.base?.getD left) = look (inner'.base?.getD right) ∧
        inner.marked?.getD marked = inner'.marked?.getD marked
  released : ∀ (marked : List (String × String)) {left right : Unique.Store},
    look left = look right → look (left.releaseAll marked) = look (right.releaseAll marked)

namespace Sight

/-- Choices of all kinds depend on the whole pool. -/
def whole (rule : Option Unique.UniqueBy → Prop) : Sight rule Unique.Store Unique.Store where
  look := id
  see := id
  chosen _ options walk _ _ same := Walk.chosen_congr options _ walk same
  tracked marked _ _ same := congrArg (Unique.Store.tracking marked) same
  written marked _ _ _ _ same inside := by
    cases same
    cases inside
    exact ⟨rfl, rfl⟩
  released marked _ _ same := congrArg (Unique.Store.releaseAll · marked) same

/-- Choices that may be repeated depend on nothing. -/
def blind : Sight (fun uniqueBy => uniqueBy = none) Unit (Option (List (String × String))) where
  look _ := ()
  see := Unique.Store.marked?
  chosen := by
    rintro _ rfl options walk left right same
    refine ⟨(walk.chosen_none options left right).1, ?_⟩
    rw [(walk.chosen_none options left right).2, (walk.chosen_none options right left).2]
    exact same
  tracked _ _ _ _ := rfl
  written marked _ _ _ _ _ inside := ⟨rfl, congrArg (Option.getD · marked) inside⟩
  released _ _ _ _ := rfl

variable {rule : Option Unique.UniqueBy → Prop} {ν ξ : Type} (sight : Sight rule ν ξ)

def world (world : RowWorld) : ν × RowState × List (String × String) :=
  (sight.look world.shared.pool, world.state, world.marked)

/-- Whether two results are one but for the date of the row. -/
def Dates (startTimestamp : String) (result timeless : Except Error Row) : Prop :=
  result = timeless.map (Row.dated startTimestamp)

variable {sight}

theorem world_eq {left right : RowWorld} (same : sight.world left = sight.world right) :
    sight.look left.shared.pool = sight.look right.shared.pool ∧ left.state = right.state ∧
      left.marked = right.marked := by
  obtain ⟨pool, rest⟩ := Prod.mk.inj same
  exact ⟨pool, Prod.mk.inj rest⟩

variable (sight) in
theorem alike_madeOf {α : Type} {process : RowProcess α} (made : process.MadeOf rule) :
    process.Alike (fun shared => sight.see shared.pool) Eq process := by
  induction made with
  | done result => exact .done rfl
  | @choose options uniqueBy walk next allowed _ ih =>
      refine .step (fun left right same => (sight.chosen allowed options walk same).2) ?_
      intro left right same
      show (next _).Alike _ Eq (next _)
      rw [(sight.chosen allowed options walk same).1]
      exact ih _
  | report _ ih => exact .step (fun _ _ same => same) fun _ _ _ => ih
  | ask _ ih => exact .ask ih
  | pause _ ih => exact .pause ih

theorem alike_onView {α : Type} {process : RowProcess α} (made : process.MadeOf rule) :
    (RowRecipe.onView process).Alike sight.world Eq (RowRecipe.onView process) := by
  refine .zoom ?_ ?_ (sight.alike_madeOf made)
  · intro left right same
    obtain ⟨pool, _, marked⟩ := world_eq same
    show sight.see (.tracking left.marked _) = sight.see (.tracking right.marked _)
    rw [marked]
    exact sight.tracked _ pool
  · intro left right inner inner' same inside
    obtain ⟨pool, state, marked⟩ := world_eq same
    obtain ⟨looks, marks⟩ := sight.written left.marked pool inside
    show (_, left.state, _) = (_, right.state, inner'.pool.marked?.getD right.marked)
    rw [state, ← marked, ← marks]
    exact congrArg (fun seen => (seen, right.state, inner.pool.marked?.getD left.marked)) looks

theorem world_tryEnter (rowIndex : Int) (target : RowState) {left right : RowWorld}
    (same : sight.world left = sight.world right) :
    sight.world (left.tryEnter rowIndex target) = sight.world (right.tryEnter rowIndex target) := by
  obtain ⟨pool, state, marked⟩ := world_eq same
  have may : left.mayEnter target = right.mayEnter target := by simp [RowWorld.mayEnter, state]
  unfold RowWorld.tryEnter
  rw [may]
  split
  · simp [world, RowWorld.enter, Shared.report, pool, marked]
  · exact same

theorem world_settle (rowIndex : Int) {left right : RowWorld}
    (same : sight.world left = sight.world right) :
    sight.world (left.settle rowIndex) = sight.world (right.settle rowIndex) := by
  have released : sight.world (left.releaseMarks rowIndex) =
      sight.world (right.releaseMarks rowIndex) := by
    obtain ⟨pool, state, marked⟩ := world_eq same
    unfold RowWorld.releaseMarks
    rw [marked]
    split
    · exact same
    · simp [world, Shared.report, state, sight.released right.marked pool]
  obtain ⟨pool, state, marked⟩ := world_eq released
  unfold RowWorld.settle
  dsimp only
  rw [state]
  split
  · simp [world, RowWorld.enter, Shared.report, pool, marked]
  · exact released

theorem alike_transition (recipe : RowRecipe) (target : RowState) :
    (recipe.transition target).Alike sight.world Eq (recipe.timeless.transition target) := by
  refine .step (fun _ _ same => world_tryEnter recipe.rowIndex target same) ?_
  intro left right same
  obtain ⟨_, state, _⟩ := world_eq same
  have may : left.mayEnter target = right.mayEnter target := by simp [RowWorld.mayEnter, state]
  rw [may, state]
  split <;> exact .done rfl

theorem alike_countTokens (recipe : RowRecipe) (conversation : Generated) :
    (recipe.countTokens conversation).Alike sight.world Eq
      (recipe.timeless.countTokens conversation) := by
  have perhaps (suspends : Bool) {process : RowLife (Option TokenCount)}
      (alike : process.Alike sight.world Eq process) :
      (if suspends then .pause process else process).Alike sight.world Eq
        (if suspends then .pause process else process) := by
    split
    · exact .pause alike
    · exact alike
  show (recipe.countTokens conversation).Alike sight.world Eq (recipe.countTokens conversation)
  unfold RowRecipe.countTokens
  split
  · exact .done rfl
  · refine perhaps _ ?_
    split
    · exact .done rfl
    · exact .step (fun _ _ same => same) fun _ _ _ => .done rfl

theorem finish_timeless (recipe : RowRecipe) (plan : Plan) (conversation : Generated)
    (tokens : Option TokenCount) :
    Dates recipe.startTimestamp (recipe.finish plan conversation tokens)
      (recipe.timeless.finish plan conversation tokens) := by
  have same : recipe.timeless.mergedMetadata conversation.metadata =
      recipe.mergedMetadata conversation.metadata := rfl
  unfold Dates RowRecipe.finish
  rw [same]
  dsimp only [RowRecipe.timeless, RowRecipe.again]
  generalize Fitted.both _ _ = fitted
  cases fitted <;> rfl

theorem alike_attempt {recipe : RowRecipe} (chooses : recipe.ChoosesBy rule)
    (seeded : recipe.seed.isSome = true) :
    recipe.attempt.Alike sight.world (Dates recipe.startTimestamp) recipe.timeless.attempt := by
  -- A row that has a seed never uses the one that it could draw for itself.
  have stream : recipe.timeless.stream = recipe.stream := by
    obtain ⟨seed, given⟩ := Option.isSome_iff_exists.1 seeded
    simp [RowRecipe.stream, RowRecipe.timeless, RowRecipe.again, given]
  refine .bind (alike_transition recipe .checking) ?_
  rintro entered _ rfl
  rcases entered with error | ⟨⟨⟩⟩
  · exact .done rfl
  dsimp only
  split
  next error refused =>
    rw [show recipe.timeless.schema.resolve = .error error from refused]
    exact .done rfl
  next root resolved =>
    rw [show recipe.timeless.schema.resolve = .ok root from resolved, stream]
    have written := chooses.schema root resolved
    refine .bind (alike_onView (madeOf_check written ..)) ?_
    rintro walked _ rfl
    rcases walked with halt | ⟨plan, walk⟩
    · exact .done rfl
    refine .bind (alike_transition recipe .checked) ?_
    rintro entered _ rfl
    rcases entered with error | ⟨⟨⟩⟩
    · exact .done rfl
    refine .bind (alike_transition recipe .generating) ?_
    rintro entered _ rfl
    rcases entered with error | ⟨⟨⟩⟩
    · exact .done rfl
    refine .bind (alike_onView (madeOf_generate written chooses.extras ..)) ?_
    rintro walked _ rfl
    rcases walked with halt | ⟨conversation, last⟩
    · exact .done rfl
    refine .bind (alike_countTokens recipe conversation) ?_
    rintro tokens _ rfl
    exact .done (finish_timeless recipe plan conversation tokens)

theorem alike_generateRow {recipe : RowRecipe} (chooses : recipe.ChoosesBy rule)
    (seeded : recipe.seed.isSome = true) :
    recipe.generateRow.Alike sight.world (Dates recipe.startTimestamp)
      recipe.timeless.generateRow := by
  refine .bind (alike_attempt chooses seeded) ?_
  rintro _ result rfl
  rcases result with error | row
  · exact .step (fun _ _ same => world_settle recipe.rowIndex same) fun _ _ _ => .done rfl
  · refine .bind (alike_transition recipe .completed) ?_
    rintro entered _ rfl
    rcases entered with error | ⟨⟨⟩⟩
    · exact .done rfl
    · exact .done rfl

variable (sight) in
/-- The whole life of a row depends on what it sees of the pool, and its result is that of the recipe
apart from any time, with the date of the row. -/
theorem alike_once {recipe : RowRecipe} (chooses : recipe.ChoosesBy rule)
    (seeded : recipe.seed.isSome = true) :
    (RowRecipe.once recipe.runRow).Alike (fun shared => sight.look shared.pool)
      (fun result timeless => result.1 = timeless.1.dated recipe.startTimestamp)
      (RowRecipe.once recipe.timeless.runRow) := by
  let dates (result timeless : RowResult) : Prop := result = timeless.dated recipe.startTimestamp
  have life : recipe.runRow.Alike sight.world dates recipe.timeless.runRow := by
    refine .bind (alike_generateRow chooses seeded) ?_
    rintro _ result rfl
    cases result with
    | error error => exact .done rfl
    | ok row => exact .done rfl
  have called : (RowRecipe.call recipe.runRow).Alike
      (fun both => (sight.look both.1.pool, both.2)) dates
      (RowRecipe.call recipe.timeless.runRow) := by
    refine .bind (.own dates (.zoom ?_ ?_ life) []) fun _ _ same => .done same
    · intro whole whole' same
      simp only [Prod.mk.injEq] at same
      simp [world, same]
    · intro _ _ _ _ _ inside
      obtain ⟨pool, state, marked⟩ := world_eq inside
      simp [pool, state, marked]
  refine .own dates ?_ RowState.uninitialized
  exact called

end Sight

/-- The contract of a row that keeps the pool as it is. -/
def RowWorld.keepsPool : Contract RowWorld ModelCall (Except Error Reply) :=
  .sheltered (fun world => (world.state, world.marked))
    (fun before after => after.shared.pool = before.shared.pool) fun _ _ => True

namespace RowRecipe

/-- A row whose choices may all be repeated keeps the pool as it is: it marks nothing, so that it has
nothing to release. -/
theorem keeps_runRow {recipe : RowRecipe}
    (chooses : recipe.ChoosesBy fun uniqueBy => uniqueBy = none) {world : RowWorld}
    (start : world.state = .uninitialized) (unmarked : world.marked = []) :
    recipe.runRow.Abides RowWorld.keepsPool (fun _ _ => True) world := by
  have kept : recipe.generateRow.Abides RowWorld.keepsPool
      (fun result after => Ended result after ∧ after.marked = []) world := by
    refine (abides_generateRow chooses start).keeping (fun world => world.marked = []) ?_ ?_ ?_
      (fun _ _ _ => trivial) unmarked
    · exact fun _ _ relied => Prod.mk.inj relied
    · exact fun _ _ unmarked relied => relied.2.trans unmarked
    · intro before after unmarked moves
      cases moves with
      | keep pool marked => exact ⟨pool, marked.trans unmarked⟩
      | mark allowed _ _ _ => cases allowed
      | release pool marked _ =>
          -- Nothing has been marked, so that giving all marks back changes nothing.
          rw [unmarked] at pool
          exact ⟨pool, marked⟩
  exact .bind (kept.mono fun _ _ _ _ _ => trivial)

theorem keeps_once {recipe : RowRecipe}
    (chooses : recipe.ChoosesBy fun uniqueBy => uniqueBy = none) (shared : Shared) :
    (once recipe.runRow).Abides
      (.sheltered (fun _ => ()) (fun before after => after.pool = before.pool) fun _ _ => True)
      (fun _ _ => True) shared := by
  let part : Contract (Shared × RowState) ModelCall (Except Error Reply) :=
    .sheltered Prod.snd (fun before after => after.1.pool = before.1.pool) fun _ _ => True
  have called : (call recipe.runRow).Abides part (fun _ _ => True) (shared, .uninitialized) := by
    refine abides_call ?_ ?_ ?_ (keeps_runRow chooses rfl rfl)
    · exact fun _ _ marked relied => congrArg (fun state => (state, marked)) relied
    · exact fun _ _ owed => owed
    · exact fun _ _ _ => trivial
  refine (Process.Abides.own ?_ ?_ ?_ called).mono ?_
  · exact fun _ _ _ _ => rfl
  · exact fun _ _ owed => owed
  · exact fun _ _ _ => trivial
  · exact fun _ _ _ => trivial

section

variable {reply : ModelCall → Except Error Reply} {recipe : RowRecipe}
variable (seeded : recipe.seed.isSome = true)

include seeded

theorem abides_once_fresh {shared : Shared} (fresh : shared.pool = .fresh) :
    (once recipe.runRow).Abides
      (.sheltered Shared.pool (fun _ _ => True) fun call answer => answer = reply call)
      (fun result _ => result.1 = (recipe.result reply).dated recipe.startTimestamp) shared := by
  have alike := (Sight.whole fun _ => True).alike_once (.any recipe) seeded
  have free : (once recipe.runRow).Abides
      (.sheltered Shared.pool (fun _ _ => True) fun call answer => answer = reply call)
      (fun _ _ => True) shared := .of_free (fun _ _ => trivial) _ _
  exact alike.abides ⟨.fresh, #[]⟩ free fresh

/-- A row whose choices may all be repeated comes to its own result in any pool. -/
theorem abides_once_repeatable (chooses : recipe.ChoosesBy fun uniqueBy => uniqueBy = none)
    (shared : Shared) :
    (once recipe.runRow).Abides (.preserving Shared.pool fun call answer => answer = reply call)
      (fun result _ => result.1 = (recipe.result reply).dated recipe.startTimestamp) shared := by
  have alike := Sight.blind.alike_once chooses seeded
  have keeps : (once recipe.runRow).Abides
      (.sheltered (fun _ => ()) (fun before after => after.pool = before.pool)
        fun call answer => answer = reply call) (fun _ _ => True) shared := by
    refine (keeps_once chooses shared).weaken ?_ ?_ ?_
    · exact fun _ _ relied => relied
    · exact fun _ _ owed => owed
    · exact fun _ _ _ => trivial
  refine (alike.abides ⟨.fresh, #[]⟩ keeps rfl).weaken ?_ ?_ ?_
  · exact fun _ _ _ => rfl
  · exact fun _ _ owed => owed
  · exact fun _ _ admitted => admitted

end

end RowRecipe

end Colloquy
