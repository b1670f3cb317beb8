import Colloquy.Proofs.Process.Interleaving
import Colloquy.Proofs.Row.Marks
import Colloquy.Proofs.Unique.Choice
import Colloquy.Proofs.Unique.Release
import Mathlib.Logic.Function.Basic

/-!
# Rows that share a pool

Any number of rows are generated at the same time from one plain pool. However they are interleaved,
an identifier is used exactly if it was used from the start or one row has marked it, and a row that
fails leaves no trace in the pool.
-/

set_option autoImplicit false

namespace Colloquy

/-- A row as it stands: its state, and what it has marked. -/
structure Desk where
  state : RowState
  marked : List (String × String)

/-- Rows at their places, and what they share. -/
structure Floor where
  shared : Shared
  desks : Nat → Desk

namespace Floor

def world (place : Nat) (floor : Floor) : RowWorld :=
  ⟨floor.shared, (floor.desks place).state, (floor.desks place).marked⟩

/-- The floor behind a step of the row at a place. -/
def seat (place : Nat) (world : RowWorld) (floor : Floor) : Floor :=
  ⟨world.shared, Function.update floor.desks place ⟨world.state, world.marked⟩⟩

def opened (initial : Unique.Collections) (log : Log) : Floor :=
  ⟨⟨.plain initial, log⟩, fun _ => ⟨.uninitialized, []⟩⟩

abbrev FloorRow := Process Floor ModelCall (Except Error Reply) (Except Error Row)

def rows (recipes : List RowRecipe) : List FloorRow :=
  recipes.mapIdx fun place recipe => recipe.generateRow.zoom (world place) (seat place)

/-- The rows may write to the log, and so may everybody else, such as the model. -/
def Elsewhere (before after : Floor) : Prop :=
  after.shared.pool = before.shared.pool ∧ after.desks = before.desks

def FloorRow.Failed (row : FloorRow) : Prop := ∃ error, row = .done (.error error)

/-- No identifier has been marked more than once, or was used from the start. -/
structure Separate (initial : Unique.Collections) (floor : Floor) : Prop where
  nodup : ∀ place, (floor.desks place).marked.Nodup
  apart : ∀ {place other mark}, place ≠ other → mark ∈ (floor.desks place).marked →
    mark ∉ (floor.desks other).marked
  fresh : ∀ {place collection key}, (collection, key) ∈ (floor.desks place).marked →
    key ∉ initial.used collection

/-- Unique selections are exclusive, and what is used was used from the start or was marked by a row
that has not failed. -/
structure Exclusive (initial : Unique.Collections) (rows : List FloorRow) (floor : Floor) : Prop
    extends Separate initial floor where
  used : ∀ collection key, key ∈ floor.shared.pool.used collection ↔
    key ∈ initial.used collection ∨
      ∃ place row, rows[place]? = some row ∧ ¬FloorRow.Failed row ∧
        (collection, key) ∈ (floor.desks place).marked

/-- The marks of a number of rows are separate, and the pool holds them and nothing else. -/
structure Tidy (initial : Unique.Collections) (size : Nat) (floor : Floor) : Prop
    extends Separate initial floor where
  vacant : ∀ {place}, size ≤ place → (floor.desks place).marked = []
  pool : ∃ own, floor.shared.pool = .plain own ∧ ∀ collection key,
    key ∈ own.used collection ↔ key ∈ initial.used collection ∨
      ∃ place, (collection, key) ∈ (floor.desks place).marked

def contract (place : Nat) : Contract Floor ModelCall (Except Error Reply) where
  relies before after := after.desks place = before.desks place
  guarantees before after :=
    (before.world place).Moves (fun _ => True) (after.world place) ∧
      ∀ other, other ≠ place → after.desks other = before.desks other
  answers _ _ := True
  relies_refl _ := rfl
  relies_trans first second := second.trans first

namespace Tidy

variable {initial : Unique.Collections} {size : Nat} {before after : Floor}

theorem opened (log : Log) : (Floor.opened initial log).Tidy initial size where
  nodup _ := .nil
  apart _ member := by simp [Floor.opened] at member
  fresh member := by simp [Floor.opened] at member
  vacant _ := rfl
  pool := ⟨initial, rfl, by simp [Floor.opened]⟩

theorem same (tidy : before.Tidy initial size) (pool : after.shared.pool = before.shared.pool)
    (desks : after.desks = before.desks) : after.Tidy initial size := by
  obtain ⟨⟨nodup, apart, fresh⟩, vacant, own⟩ := tidy
  rw [← desks] at nodup apart fresh vacant own
  exact ⟨⟨nodup, apart, fresh⟩, vacant, by rwa [pool]⟩

/-- A row that changes its marks leaves those of the others, and all are tidy if its own are. -/
theorem change (tidy : before.Tidy initial size) {place : Nat} (inside : place < size)
    (others : ∀ other, other ≠ place → after.desks other = before.desks other)
    (nodup : (after.desks place).marked.Nodup)
    (apart : ∀ other mark, other ≠ place → mark ∈ (after.desks place).marked →
      mark ∉ (before.desks other).marked)
    (fresh : ∀ collection key, (collection, key) ∈ (after.desks place).marked →
      key ∉ initial.used collection)
    (pool : ∃ own, after.shared.pool = .plain own ∧ ∀ collection key,
      key ∈ own.used collection ↔ key ∈ initial.used collection ∨
        (collection, key) ∈ (after.desks place).marked ∨
          ∃ other, other ≠ place ∧ (collection, key) ∈ (before.desks other).marked) :
    after.Tidy initial size where
  nodup other := by
    by_cases here : other = place
    · exact here ▸ nodup
    · rw [others other here]
      exact tidy.nodup other
  apart := by
    intro first second mark differ member
    by_cases here : first = place
    · subst here
      rw [others second (Ne.symm differ)]
      exact apart second mark (Ne.symm differ) member
    · rw [others first here] at member
      by_cases there : second = place
      · subst there
        exact fun double => apart first mark here double member
      · rw [others second there]
        exact tidy.apart differ member
  fresh := by
    intro other collection key member
    by_cases here : other = place
    · exact fresh collection key (here ▸ member)
    · rw [others other here] at member
      exact tidy.fresh member
  vacant := by
    intro other outside
    rw [others other (by omega)]
    exact tidy.vacant outside
  pool := by
    obtain ⟨own, plain, used⟩ := pool
    refine ⟨own, plain, fun collection key => (used collection key).trans (or_congr_right ?_)⟩
    constructor
    · rintro (here | ⟨other, differ, there⟩)
      · exact ⟨place, here⟩
      · exact ⟨other, by rwa [others other differ]⟩
    · rintro ⟨other, member⟩
      by_cases here : other = place
      · exact .inl (here ▸ member)
      · exact .inr ⟨other, here, by rwa [← others other here]⟩

theorem used_iff (tidy : before.Tidy initial size) (place : Nat) :
    ∃ own, before.shared.pool = .plain own ∧ ∀ collection key,
      key ∈ own.used collection ↔ key ∈ initial.used collection ∨
        (collection, key) ∈ (before.desks place).marked ∨
          ∃ other, other ≠ place ∧ (collection, key) ∈ (before.desks other).marked := by
  obtain ⟨own, plain, used⟩ := tidy.pool
  refine ⟨own, plain, fun collection key => (used collection key).trans (or_congr_right ?_)⟩
  constructor
  · rintro ⟨other, member⟩
    by_cases here : other = place
    · exact .inl (here ▸ member)
    · exact .inr ⟨other, here, member⟩
  · rintro (here | ⟨other, _, there⟩)
    · exact ⟨place, here⟩
    · exact ⟨other, there⟩

section

variable {place : Nat} (tidy : before.Tidy initial size) (inside : place < size)
variable (others : ∀ other, other ≠ place → after.desks other = before.desks other)

include tidy inside others

theorem keep (pool : after.shared.pool = before.shared.pool)
    (marked : (after.desks place).marked = (before.desks place).marked) :
    after.Tidy initial size := by
  obtain ⟨own, plain, used⟩ := tidy.used_iff place
  refine tidy.change inside others ?_ ?_ ?_ ?_
  · rw [marked]
    exact tidy.nodup place
  · intro other mark differ member
    exact tidy.apart (Ne.symm differ) (marked ▸ member)
  · intro collection key member
    exact tidy.fresh (marked ▸ member)
  · rw [marked]
    exact ⟨own, pool.trans plain, used⟩

/-- An identifier that is marked while it is unused is neither marked elsewhere nor used from the
start. -/
theorem mark {collection key : String} (unused : before.shared.pool.has collection key = false)
    (pool : after.shared.pool = before.shared.pool.mark collection key)
    (marked : (after.desks place).marked = (before.desks place).marked ++ [(collection, key)]) :
    after.Tidy initial size := by
  obtain ⟨own, plain, used⟩ := tidy.used_iff place
  have absent : key ∉ own.used collection := by
    rw [plain] at unused
    simpa [Unique.Store.has, Unique.Collections.has] using unused
  rw [used, not_or, not_or, not_exists] at absent
  obtain ⟨notInitial, notHere, notElsewhere⟩ := absent
  refine tidy.change inside others ?_ ?_ ?_ ?_
  · rw [marked, List.nodup_append]
    refine ⟨tidy.nodup place, by simp, ?_⟩
    rintro known member mark last rfl
    rw [List.mem_singleton.1 last] at member
    exact notHere member
  · intro other mark differ member
    rw [marked, List.mem_append, List.mem_singleton] at member
    rcases member with known | rfl
    · exact tidy.apart (Ne.symm differ) known
    · exact fun there => notElsewhere other ⟨differ, there⟩
  · intro other name member
    rw [marked, List.mem_append, List.mem_singleton] at member
    rcases member with known | new
    · exact tidy.fresh known
    · cases new
      exact notInitial
  · refine ⟨own.mark collection key, by rw [pool, plain]; rfl, fun other name => ?_⟩
    rw [Unique.Collections.mem_used_mark, used, marked, List.mem_append, List.mem_singleton,
      Prod.mk.injEq]
    constructor
    · rintro ((initially | here | there) | new)
      · exact .inl initially
      · exact .inr (.inl (.inl here))
      · exact .inr (.inr there)
      · exact .inr (.inl (.inr new))
    · rintro (initially | (here | new) | there)
      · exact .inl (.inl initially)
      · exact .inl (.inr (.inl here))
      · exact .inr new
      · exact .inl (.inr (.inr there))

/-- Identifiers are released by name. They were marked by this row alone, so no other row loses one
of its own. -/
theorem release
    (pool : after.shared.pool = before.shared.pool.releaseAll (before.desks place).marked)
    (marked : (after.desks place).marked = []) : after.Tidy initial size := by
  obtain ⟨own, plain, used⟩ := tidy.used_iff place
  obtain ⟨left, released, remaining⟩ :=
    Unique.Store.mem_used_releaseAll own (before.desks place).marked
  refine tidy.change inside others ?_ ?_ ?_ ?_
  · rw [marked]
    exact .nil
  · intro other mark _ member
    simp [marked] at member
  · intro collection key member
    simp [marked] at member
  · refine ⟨left, by rw [pool, plain, released], fun collection key => ?_⟩
    rw [remaining, used, marked]
    constructor
    · rintro ⟨initially | here | there, gone⟩
      · exact .inl initially
      · exact absurd here gone
      · exact .inr (.inr there)
    · rintro (initially | here | ⟨other, differ, there⟩)
      · exact ⟨.inl initially, fun here => tidy.fresh here initially⟩
      · simp at here
      · exact ⟨.inr (.inr ⟨other, differ, there⟩), tidy.apart differ there⟩

theorem moves {rule : Option Unique.UniqueBy → Prop}
    (moves : (before.world place).Moves rule (after.world place)) : after.Tidy initial size := by
  cases moves with
  | keep pool marked => exact tidy.keep inside others pool marked
  | mark _ unused pool marked => exact tidy.mark inside others unused pool marked
  | release pool marked _ => exact tidy.release inside others pool marked

end

end Tidy

theorem compatible (initial : Unique.Collections) (size : Nat) :
    Process.Compatible contract size Elsewhere (Tidy initial size) where
  answers _ _ _ := trivial
  others differ owed := owed.2 _ differ
  outside changed := congrFun changed.2 _
  kept inside tidy owed := tidy.moves inside owed.2 owed.1
  keptOutside tidy changed := tidy.same changed.1 changed.2

/-- Whoever leaves pool and desks alone might as well be the row at a place. -/
theorem guarantees_elsewhere (place : Nat) {before after : Floor} (changed : Elsewhere before after) :
    (contract place).guarantees before after :=
  ⟨.keep changed.1 (by simp [world, changed.2]), fun other _ => congrFun changed.2 other⟩

theorem abides_seated {α : Type} {life : RowLife α} {ends : α → RowWorld → Prop} (place : Nat)
    {floor : Floor} (abides : life.Abides (RowWorld.contract fun _ => True) ends (floor.world place)) :
    (life.zoom (world place) (seat place)).Abides (contract place)
      (fun result floor => ends result (floor.world place)) floor := by
  refine Process.Abides.zoom ?_ ?_ ?_ abides
  · intro before after relied
    simp only [world, contract] at relied ⊢
    exact ⟨by rw [relied], by rw [relied]⟩
  · intro before after moves
    have back : world place (seat place after before) = after := by simp [world, seat]
    refine ⟨back, ?_, fun other differ => ?_⟩
    · rw [back]
      exact moves
    · simp [seat, differ]
  · intro query answer _
    trivial

theorem abides_row (recipe : RowRecipe) (place : Nat) {floor : Floor}
    (start : (floor.desks place).state = .uninitialized) :
    (recipe.generateRow.zoom (world place) (seat place)).Abides (contract place)
      (fun result floor => RowRecipe.Ended result (floor.world place)) floor :=
  have begins : (floor.world place).state = .uninitialized := start
  abides_seated place (RowRecipe.abides_generateRow (.any recipe) begins)

def greeting (place : Nat) : RowRecipe :=
  ⟨.tree (.node (.leaf (.fixed (.text "user") (.text "Hi")))), some 1, 0, place, none, [], none,
    .text "model", .null, ""⟩

end Floor

end Colloquy
