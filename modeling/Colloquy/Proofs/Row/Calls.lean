import Colloquy.Proofs.Process.Interleaving
import Colloquy.Proofs.Row.Alone
import Colloquy.Proofs.Row.Overlap
import Colloquy.Proofs.Unique.Release

/-!
# Calls of a row

A call generates a row that has not begun, and is refused otherwise. The call that begins a row
closes it, and if the row fails undisturbed, then the pool is as it was. A call that is refused
changes nothing unless the row is under way, which it then fails.
-/

set_option autoImplicit false

namespace Colloquy

namespace RowWorld

/-- What is used in the pool was used from the start, or is marked by the row. -/
def Holds (initial : Unique.Store) (world : RowWorld) : Prop :=
  ∃ own, world.shared.pool = initial.withOwn own ∧
    (∀ collection key, key ∈ own.used collection ↔
      key ∈ initial.own.used collection ∨ (collection, key) ∈ world.marked) ∧
    ∀ collection key, (collection, key) ∈ world.marked → key ∉ initial.own.used collection

variable {initial : Unique.Store} {world before after : RowWorld}

theorem Holds.start (shared : Shared) (state : RowState) :
    (RowWorld.mk shared state []).Holds shared.pool :=
  ⟨shared.pool.own, shared.pool.withOwn_own.symm, by simp, by simp⟩

theorem Holds.unmarked (holds : world.Holds initial) (unmarked : world.marked = [])
    (collection key : String) :
    key ∈ world.shared.pool.used collection ↔ key ∈ initial.used collection := by
  obtain ⟨own, pool, used, _⟩ := holds
  have same (collection key : String) :
      key ∈ own.used collection ↔ key ∈ initial.own.used collection := by
    simpa [unmarked] using used collection key
  rw [pool, initial.mem_used_withOwn same, initial.withOwn_own]

theorem Holds.keep (holds : before.Holds initial)
    (pool : after.shared.pool = before.shared.pool) (marked : after.marked = before.marked) :
    after.Holds initial := by
  obtain ⟨own, plain, used, fresh⟩ := holds
  exact ⟨own, pool.trans plain, by rwa [marked], by rwa [marked]⟩

theorem Holds.moves {rule : Option Unique.UniqueBy → Prop} (isOwn : initial.IsOwn)
    (holds : before.Holds initial) (moves : Moves rule before after) : after.Holds initial := by
  have ⟨own, plain, used, fresh⟩ := holds
  cases moves with
  | keep pool marked => exact holds.keep pool marked
  | @mark given key allowed unused pool marked =>
      rw [plain] at unused
      have absent := Unique.Store.notMem_of_has_withOwn isOwn unused
      rw [used, not_or] at absent
      refine ⟨own.mark given.collection key, ?_, fun collection name => ?_, ?_⟩
      · rw [pool, plain, Unique.Store.mark_withOwn isOwn]
      · rw [Unique.Collections.mem_used_mark, used, marked, List.mem_append, List.mem_singleton,
          Prod.mk.injEq, or_assoc]
      · intro collection name member
        rw [marked, List.mem_append, List.mem_singleton] at member
        rcases member with known | new
        · exact fresh collection name known
        · cases new
          exact absent.1
  | release pool marked _ =>
      refine ⟨own.releaseAll before.marked, ?_, fun collection name => ?_, by simp [marked]⟩
      · rw [pool, plain, Unique.Store.releaseAll_withOwn isOwn]
      · rw [Unique.Collections.mem_used_releaseAll, used, marked]
        constructor
        · rintro ⟨initially | here, gone⟩
          · exact .inl initially
          · exact absurd here gone
        · rintro (initially | here)
          · exact ⟨.inl initially, fun here => fresh collection name here initially⟩
          · exact nomatch here

/-- A row that fails over a pool that is itself a view leaves what it has selected. -/
theorem pool_settle_of_view (view : ¬world.shared.pool.IsOwn) (rowIndex : Int) :
    (world.settle rowIndex).shared.pool = world.shared.pool := by
  have released : (world.releaseMarks rowIndex).shared.pool = world.shared.pool := by
    unfold releaseMarks
    split
    · rfl
    · exact Unique.Store.releaseAll_of_view view world.marked
  unfold settle
  dsimp only
  split <;> exact released

end RowWorld

/-- What a caller is given: the row or the error, or a report of either. -/
inductive RowVerdict where
  | ended (result : Except Error Row)
  | told (result : RowResult)

/-- A call of a row, which generates it or runs it. Each call has a time of its own, and a seed of
its own for a row without a seed. -/
inductive RowCall where
  | generate (freshSeed : Int) (startTimestamp : String)
  | run (freshSeed : Int) (startTimestamp : String)

abbrev RowCalling := Process (Shared × RowState) ModelCall (Except Error Reply) RowVerdict

namespace RowCall

variable (recipe : RowRecipe) (call : RowCall)

def verdict (result : Except Error Row) : RowVerdict :=
  match call with
  | generate _ _ => .ended result
  | run _ _ => .told (.ofExcept recipe.rowIndex recipe.seed result)

def recipeOf : RowRecipe :=
  match call with
  | generate freshSeed startTimestamp => recipe.again freshSeed startTimestamp
  | run freshSeed startTimestamp => recipe.again freshSeed startTimestamp

def life : RowLife RowVerdict :=
  match call with
  | generate freshSeed startTimestamp =>
      (recipe.again freshSeed startTimestamp).generateRow.bind fun result => .done (.ended result)
  | run freshSeed startTimestamp =>
      (recipe.again freshSeed startTimestamp).runRow.bind fun result => .done (.told result)

def process : RowCalling := RowRecipe.call (call.life recipe)

/-- What a call finds: it has marked nothing yet. -/
def world (both : Shared × RowState) : RowWorld := ⟨both.1, both.2, []⟩

/-- A row that has begun may not begin again. -/
def refusal (state : RowState) : Except Error Row :=
  .error (.transition state.name RowState.checking.name)

/-- What remains of a call that the row has refused in a state. -/
def refused (state : RowState) : RowCalling :=
  RowRecipe.call (.step (RowWorld.settle recipe.rowIndex) fun _ =>
    .done (call.verdict recipe (refusal state)))

theorem life_eq : call.life recipe = (call.recipeOf recipe).generateRow.bind fun result =>
    .done (call.verdict recipe result) := by
  cases call with
  | generate freshSeed startTimestamp => rfl
  | run freshSeed startTimestamp => exact Process.bind_assoc _ _ _

variable {recipe call} {both after : Shared × RowState} {next : RowCalling}

/-- The first move of a call changes nothing if the row has begun: the call is refused. -/
theorem move_process (moves : (call.process recipe).Move both next after)
    (begun : both.2 ≠ .uninitialized) : next = call.refused recipe both.2 ∧ after = both := by
  have barred : (world both).mayEnter .checking = false := by
    unfold world
    cases state : both.2 <;> first | rfl | exact absurd state begun
  have kept : (world both).tryEnter (call.recipeOf recipe).rowIndex .checking = world both := by
    simp [RowWorld.tryEnter, barred]
  have index : (call.recipeOf recipe).rowIndex = recipe.rowIndex := by cases call <;> rfl
  obtain ⟨rest, step, refuses⟩ := (call.recipeOf recipe).generateRow_eq
  unfold process at moves
  rw [life_eq, step] at moves
  cases moves
  unfold world at kept barred
  dsimp only
  rw [kept, refuses _ barred, index]
  exact ⟨rfl, rfl⟩

theorem begins_of_move (moves : (call.process recipe).Move both next after)
    (fresh : both.2 = .uninitialized) : after.2 = .checking := by
  have allowed : RowState.checking ∈ (world both).state.successors := by
    simp [world, fresh, RowState.successors]
  obtain ⟨rest, step, _⟩ := (call.recipeOf recipe).generateRow_eq
  unfold process at moves
  rw [life_eq, step] at moves
  cases moves
  exact (RowWorld.enters_of_allowed _ allowed).2

/-- A refused call fails, and it makes the row a failure if the row is under way. -/
theorem move_refused {state : RowState} (moves : (call.refused recipe state).Move both next after) :
    next = .done (call.verdict recipe (refusal state)) ∧
      (¬both.2.isActive = true → after = both) ∧
      (both.2.isActive = true → after.2 = .failed) := by
  cases moves
  refine ⟨rfl, fun inactive => ?_, fun active => ?_⟩
  · have kept : (world both).settle recipe.rowIndex = world both := by
      simp [RowWorld.settle, RowWorld.releaseMarks, world, inactive]
    unfold world at kept
    dsimp only
    rw [kept]
  · exact (RowWorld.state_settle recipe.rowIndex (world both)).trans (if_pos active)

def overlapped : Contract (Shared × RowState) ModelCall (Except Error Reply) where
  relies before after := before.2.Meanwhile after.2
  guarantees before after := before.2.Leads after.2
  answers _ _ := True
  relies_refl _ := .refl _
  relies_trans first second := first.trans second

/-- How a row stands behind the call that has begun it: it is completed if and only if the call
returns a row, and it has failed if and only if the call fails. -/
def Closes (recipe : RowRecipe) (call : RowCall) (verdict : RowVerdict)
    (both : Shared × RowState) : Prop :=
  ∃ result, verdict = call.verdict recipe result ∧
    ((∃ row, result = .ok row) ↔ both.2 = .completed) ∧
    ((∃ error, result = .error error) ↔ both.2 = .failed)

theorem Closes.of_closed {result : Except Error Row} {world : RowWorld}
    (closed : RowRecipe.Closed result world) :
    call.Closes recipe (call.verdict recipe result) (world.shared, world.state) := by
  refine ⟨result, rfl, ?_⟩
  cases result with
  | ok row => simp [show world.state = .completed from closed]
  | error error => simp [show world.state = .failed from closed]

theorem overlapped_process (fresh : both.2 = .uninitialized) :
    (call.process recipe).Abides overlapped (call.Closes recipe) both := by
  have begins : (world both).state = .uninitialized := fresh
  refine RowRecipe.abides_call ?_ ?_ ?_
    (?_ : (call.life recipe).Abides RowWorld.overlapped _ (world both))
  · exact fun _ _ _ relied => relied
  · exact fun _ _ owed => owed
  · exact fun _ _ _ => trivial
  rw [life_eq]
  have row := ((call.recipeOf recipe).overlapped_generateRow begins).lasting
  exact .bind (row.mono fun result world lasts after relied => .of_closed (lasts after relied))

/-- Nobody else moves the row or changes the pool. -/
def undisturbed : Contract (Shared × RowState) ModelCall (Except Error Reply) where
  relies before after := after.2 = before.2 ∧ after.1.pool = before.1.pool
  guarantees _ _ := True
  answers _ _ := True
  relies_refl _ := ⟨rfl, rfl⟩
  relies_trans first second := ⟨second.1.trans first.1, second.2.trans first.2⟩

/-- A row that has failed has released what it selected: what was used is used, and nothing else. -/
def Released (initial : Unique.Store) (both : Shared × RowState) : Prop :=
  both.2 = .failed → ∀ collection key,
    key ∈ both.1.pool.used collection ↔ key ∈ initial.used collection

theorem Released.of_ended {initial : Unique.Store} {result : Except Error Row} {world : RowWorld}
    (ended : RowRecipe.Ended result world) (holds : world.Holds initial) :
    Released initial (world.shared, world.state) := by
  intro failed
  cases result with
  | ok row => exact nomatch ended.symm.trans failed
  | error error => exact holds.unmarked ended.2

theorem releases_process (isOwn : both.1.pool.IsOwn) (fresh : both.2 = .uninitialized) :
    (call.process recipe).Abides undisturbed (fun _ after => Released both.1.pool after) both := by
  let inside : Contract RowWorld ModelCall (Except Error Reply) :=
    { RowWorld.contract fun _ => True with
      relies := fun before after => (after.state = before.state ∧ after.marked = before.marked) ∧
        after.shared.pool = before.shared.pool
      relies_refl := fun _ => ⟨⟨rfl, rfl⟩, rfl⟩
      relies_trans := fun first second => ⟨⟨second.1.1.trans first.1.1, second.1.2.trans first.1.2⟩,
        second.2.trans first.2⟩ }
  let ended (result : Except Error Row) (world : RowWorld) : Prop :=
    RowRecipe.Ended result world ∧ world.Holds both.1.pool
  have row : (call.recipeOf recipe).generateRow.Abides inside ended (world both) := by
    have begins : (world both).state = .uninitialized := fresh
    have plain : (call.recipeOf recipe).generateRow.Abides inside RowRecipe.Ended
        (world both) := by
      refine (RowRecipe.abides_generateRow (.any _) begins).weaken ?_ ?_ ?_
      · exact fun _ _ relied => relied.1
      · exact fun _ _ owed => owed
      · exact fun _ _ admitted => admitted
    -- The pool differs from what it was by the marks alone, and a row that has failed has none.
    refine plain.keeping (RowWorld.Holds both.1.pool) ?_ ?_ ?_ ?_ ?_
    · exact fun _ _ relied => relied
    · exact fun _ _ holds relied => holds.keep relied.2 relied.1.2
    · exact fun _ _ holds moves => ⟨moves, holds.moves isOwn moves⟩
    · exact fun _ _ admitted => admitted
    · exact .start _ _
  refine RowRecipe.abides_call ?_ ?_ ?_ (?_ : (call.life recipe).Abides inside _ (world both))
  · exact fun _ _ _ relied => ⟨⟨relied.1, rfl⟩, relied.2⟩
  · exact fun _ _ _ => trivial
  · exact fun _ _ _ => trivial
  rw [life_eq]
  refine .bind (row.lasting.mono fun result world lasts after relied => ?_)
  obtain ⟨ended, holds⟩ := lasts after relied
  exact .of_ended ended holds

end RowCall

end Colloquy
