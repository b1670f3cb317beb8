import Colloquy.Dataset.Entries
import Colloquy.Proofs.Number.Numerals
import Colloquy.Proofs.Resolution.Updates
import Colloquy.Row.Generator
import Mathlib

/-!
# The layout of rows

The rows of a run are laid out entry by entry: each has its position as its index, and the seed of its
entry plus its offset there. A row with a seed has an id that tells this seed from all others.
-/

set_option autoImplicit false

namespace Colloquy

/-- The index of the first row of the entry at a position: as many rows belong to earlier entries. -/
def firstRow (entries : List Entry) (position : Nat) : Nat :=
  ((entries.take position).map Entry.count).sum

@[simp]
theorem firstRow_zero (entries : List Entry) : firstRow entries 0 = 0 := rfl

@[simp]
theorem firstRow_cons (entry : Entry) (entries : List Entry) (position : Nat) :
    firstRow (entry :: entries) (position + 1) = entry.count + firstRow entries position := by
  simp [firstRow]

/-- The row at an offset in the entry at a position. -/
def Entry.taskAt (entry : Entry) (baseSeed : Option Int) (position first offset : Nat) : RowTask :=
  ⟨first + offset, entry.schema, (entry.seed.or baseSeed).map (· + (offset : Int)), position⟩

variable {entries : List Entry} {baseSeed : Option Int}

theorem Entry.getElem?_tasks (entry : Entry) (baseSeed : Option Int) (position first : Nat)
    {offset : Nat} (inside : offset < entry.count) :
    (entry.tasks baseSeed position first)[offset]? =
      some (entry.taskAt baseSeed position first offset) := by
  unfold Entry.tasks Entry.taskAt rowSeed
  rw [List.getElem?_map, List.getElem?_range inside, Option.map_some]

theorem length_tasksFrom (baseSeed : Option Int) (position first : Nat) (entries : List Entry) :
    (tasksFrom baseSeed position first entries).length = (entries.map Entry.count).sum := by
  induction entries generalizing position first with
  | nil => rfl
  | cons entry entries ih =>
      rw [tasksFrom, List.length_append, Entry.length_tasks, ih, List.map_cons, List.sum_cons]

theorem getElem?_tasksFrom (baseSeed : Option Int) (start first : Nat) {entry : Entry}
    {position offset : Nat} (here : entries[position]? = some entry) (inside : offset < entry.count) :
    (tasksFrom baseSeed start first entries)[firstRow entries position + offset]? =
      some (entry.taskAt baseSeed (start + position) (first + firstRow entries position) offset) := by
  induction entries generalizing position start first with
  | nil => cases here
  | cons head rest ih =>
      rw [tasksFrom]
      cases position with
      | zero =>
          obtain rfl : head = entry := Option.some.inj here
          rw [firstRow_zero, Nat.zero_add,
            List.getElem?_append_left (by rw [Entry.length_tasks]; exact inside)]
          exact head.getElem?_tasks baseSeed start first inside
      | succ position =>
          have later := ih (start + 1) (first + head.count) here
          rw [firstRow_cons, List.getElem?_append_right (by rw [Entry.length_tasks]; omega),
            Entry.length_tasks,
            show head.count + firstRow rest position + offset - head.count =
              firstRow rest position + offset by omega, later]
          congr 2 <;> omega

/-- Every row is the one at some offset in some entry. -/
theorem exists_of_mem_tasksFrom {start first : Nat} {task : RowTask}
    (member : task ∈ tasksFrom baseSeed start first entries) :
    ∃ (position : Nat) (entry : Entry) (offset : Nat), entries[position]? = some entry ∧
      offset < entry.count ∧
      task = entry.taskAt baseSeed (start + position) (first + firstRow entries position) offset := by
  induction entries generalizing start first with
  | nil => cases member
  | cons head rest ih =>
      rw [tasksFrom, List.mem_append] at member
      rcases member with own | later
      · obtain ⟨offset, inside, rfl⟩ := List.mem_map.1 own
        exact ⟨0, head, offset, rfl, List.mem_range.1 inside, rfl⟩
      · obtain ⟨position, entry, offset, here, inside, rfl⟩ := ih later
        refine ⟨position + 1, entry, offset, here, inside, ?_⟩
        rw [firstRow_cons]
        congr 1 <;> omega

/-- Two rows of one entry that have seeds and are not the same row have different seeds. -/
theorem seed_ne_of_index_ne {first second : RowTask} (member : first ∈ tasksOf entries baseSeed)
    (member' : second ∈ tasksOf entries baseSeed) (differs : first.index ≠ second.index)
    (same : first.entry = second.entry) (seeded : first.seed.isSome) : first.seed ≠ second.seed := by
  obtain ⟨position, entry, offset, here, _, rfl⟩ := exists_of_mem_tasksFrom member
  obtain ⟨position', entry', offset', here', _, rfl⟩ := exists_of_mem_tasksFrom member'
  simp only [Entry.taskAt, Nat.zero_add] at differs same seeded ⊢
  subst same
  obtain rfl : entry = entry' := Option.some.inj (here.symm.trans here')
  cases given : entry.seed.or baseSeed with
  | none => simp [given] at seeded
  | some seed =>
      rw [Option.map_some, Option.map_some, Ne, Option.some.injEq]
      omega

theorem underscore_notMem_natural (number : Nat) : '_' ∉ (toString number).toList := by
  rw [Nat.toString_eq_ofList_toDigits, String.toList_ofList]
  intro member
  have digit := Nat.isDigit_of_mem_toDigits (by decide) (by decide) member
  exact absurd digit (by decide)

theorem underscore_notMem_integer (number : Int) : '_' ∉ (toString number).toList := by
  cases number with
  | ofNat number => exact underscore_notMem_natural number
  | negSucc number =>
      have shown : toString (Int.negSucc number) = "-" ++ toString (number + 1) := rfl
      rw [shown, String.toList_append, List.mem_append, not_or]
      exact ⟨by decide, underscore_notMem_natural _⟩

/-- Between its first two underscores an id has the seed, whatever the digits behind them. -/
theorem takeWhile_rowId (seed : Int) :
    ((rowId seed).toList.drop 4).takeWhile (· ≠ '_') = (toString seed).toList := by
  have plain : ∀ character ∈ (toString seed).toList, decide (character ≠ '_') = true :=
    fun character member => decide_eq_true fun same => underscore_notMem_integer seed (same ▸ member)
  rw [rowId]
  simp only [String.toList_append, List.append_assoc]
  change List.takeWhile _ ((toString seed).toList ++ '_' :: _) = _
  rw [List.takeWhile_append_of_pos plain, List.takeWhile_cons_of_neg (by simp), List.append_nil]

theorem rowId_injective : Function.Injective rowId := by
  intro first second same
  have shown : (toString first).toList = (toString second).toList := by
    rw [← takeWhile_rowId, same, takeWhile_rowId]
  exact Int.repr_injective (String.toList_inj.1 shown)

/-- The id of a row that has a seed. -/
def RowTask.id? (task : RowTask) : Option String := task.seed.map rowId

/-- Whatever metadata the schema leaves, a row is given the id of its seed. -/
theorem RowRecipe.id_of_seed {recipe : RowRecipe} {seed : Int} (seeded : recipe.seed = some seed)
    (fromSchema : Entries) :
    Entries.get? (recipe.mergedMetadata fromSchema) "id" = some (.text (rowId seed)) := by
  unfold mergedMetadata
  rw [seeded]
  exact (Entries.get?_putEntry _ _ _ _).trans (if_pos (Datum.equal_text_iff.2 rfl))

/-- Rows and their ids are laid out exactly. There is one row for each that is asked for. The row at an
offset in an entry stands behind all rows of earlier entries; its position is its index, and its seed is
that of its entry, or else the base seed, plus the offset. A number has just one numeral, the one that
ids use, and a seed has an id of its own. So two rows with seeds share their id exactly if they share
their seed, and no two rows of one entry do. -/
theorem layout_of_tasks (entries : List Entry) (baseSeed : Option Int) :
    (tasksOf entries baseSeed).length = (entries.map Entry.count).sum ∧
    (∀ position entry, entries[position]? = some entry → ∀ offset < entry.count,
      (tasksOf entries baseSeed)[((entries.take position).map Entry.count).sum + offset]? =
        some ⟨((entries.take position).map Entry.count).sum + offset, entry.schema,
          (entry.seed.or baseSeed).map (· + (offset : Int)), position⟩) ∧
    (∀ text value, Number.IsNumeral36 text value ↔ text = Number.base36 value) ∧
    Function.Injective rowId ∧
    (∀ first ∈ tasksOf entries baseSeed, ∀ second ∈ tasksOf entries baseSeed,
      first.seed.isSome → second.seed.isSome →
      (first.id? = second.id? ↔ first.seed = second.seed) ∧
      (first.entry = second.entry → first.index ≠ second.index → first.id? ≠ second.id?)) ∧
    ∀ task ∈ tasksOf entries baseSeed, ∀ id, task.id? = some id →
      ∀ recipe : RowRecipe, recipe.seed = task.seed → ∀ fromSchema,
        Entries.get? (recipe.mergedMetadata fromSchema) "id" = some (.text id) := by
  have shares (first second : RowTask) : first.id? = second.id? ↔ first.seed = second.seed :=
    (Option.map_injective rowId_injective).eq_iff
  refine ⟨length_tasksFrom baseSeed 0 0 entries, fun position entry here offset inside => ?_,
    fun _ _ => Number.isNumeral36_iff, rowId_injective, ?_, ?_⟩
  · have found := getElem?_tasksFrom baseSeed 0 0 here inside
    rw [Nat.zero_add, Nat.zero_add] at found
    exact found
  · intro first member second member' seeded _
    refine ⟨shares first second, fun same differs => ?_⟩
    rw [Ne, shares]
    exact seed_ne_of_index_ne member member' differs same seeded
  · intro task _ id named recipe same fromSchema
    obtain ⟨seed, seeded, rfl⟩ := Option.map_eq_some_iff.1 named
    exact RowRecipe.id_of_seed (same.trans seeded) fromSchema

def emptyTalk : Schema := .tree (.list [])

/-- Two rows with a seed of their own, an entry without rows, and a row that takes the base seed. -/
def threeRows : List Entry :=
  [⟨emptyTalk, 2, some 0⟩, ⟨emptyTalk, 0, some 5⟩, ⟨emptyTalk, 1, none⟩]

/-- The seeds one and minus one have the same digits behind them, but ids of their own. -/
theorem layout_of_tasks_threeRows :
    (tasksOf threeRows (some (-1)))[1]? = some ⟨1, emptyTalk, some 1, 0⟩ ∧
    (tasksOf threeRows (some (-1)))[2]? = some ⟨2, emptyTalk, some (-1), 2⟩ ∧
    rowId 1 = "row_1_17wdrqp" ∧ rowId (-1) = "row_-1_17wdrqp" ∧
    (⟨1, emptyTalk, some 1, 0⟩ : RowTask).id? ≠ (⟨2, emptyTalk, some (-1), 2⟩ : RowTask).id? := by
  obtain ⟨_, placed, numerals, _, told, _⟩ := layout_of_tasks threeRows (some (-1))
  have first := placed 0 _ rfl 1 (by decide)
  have second := placed 2 _ rfl 0 (by decide)
  have digits : "17wdrqp" = Number.base36 2654435761 :=
    (numerals "17wdrqp" 2654435761).1 ⟨by decide +kernel, by decide, by decide⟩
  have one : (1 * seedMultiplier).natAbs % 4294967296 = 2654435761 := by decide
  have minus : (-1 * seedMultiplier).natAbs % 4294967296 = 2654435761 := by decide
  refine ⟨first, second, by rw [rowId, one, ← digits]; rfl, by rw [rowId, minus, ← digits]; rfl, ?_⟩
  have shared := (told _ (List.mem_of_getElem? first) _ (List.mem_of_getElem? second) rfl rfl).1
  exact fun same => absurd (shared.1 same) (by decide)

end Colloquy
