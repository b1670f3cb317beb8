import Colloquy.Proofs.Unique.Intervals
import Colloquy.Proofs.Unique.Stock

/-!
# What is unused of a stock

The candidates of a choice from a stock are its unused options. None is left when all identifiers of
the stock are used, and then the choice fails.
-/

set_option autoImplicit false

namespace Colloquy

namespace Selection

variable {α β κ : Type} [Arithmetic κ]

/-- Weights do not depend on what the options hold. -/
theorem Weighs.congr {choices : List (Choice α)} {others : List (Choice β)} (weighs : Weighs κ choices)
    (same : choices.map Choice.weight? = others.map Choice.weight?) : Weighs κ others where
  filled := by
    rintro rfl
    exact weighs.filled (List.map_eq_nil_iff.1 same)
  readable := by
    intro choice member
    have among : choice.weight? ∈ choices.map Choice.weight? := same ▸ List.mem_map_of_mem member
    obtain ⟨other, known, given⟩ := List.mem_map.1 among
    unfold IsReadable
    rw [← given]
    exact weighs.readable other known
  bounded := by
    rw [← ownWeights_congr same]
    exact weighs.bounded

end Selection

namespace Unique

open Selection (Choice Candidate Arithmetic remaining normalizeWeights weigh evenShare ownWeights)

section Numbered

variable {κ : Type} [Arithmetic κ] {options : List (Choice Datum)}

theorem weight?_numbered (options : List (Choice Datum)) :
    (numbered options).map Choice.weight? = options.map Choice.weight? := by
  refine List.ext_getElem? fun place => ?_
  simp [Function.comp_def]

theorem normalizeWeights_numbered {weighed : List (Datum × κ)}
    (accepted : normalizeWeights options = .ok weighed) :
    ∃ places : List ((Nat × Datum) × κ), normalizeWeights (numbered options) = .ok places ∧
      (places.map fun pair => (pair.1.2, pair.2)) = weighed := by
  obtain ⟨weighs, rfl⟩ := Selection.normalizeWeights_eq_ok.1 accepted
  have same := weight?_numbered options
  refine ⟨_, Selection.normalizeWeights_eq_ok.2 ⟨weighs.congr same.symm, rfl⟩, ?_⟩
  rw [Selection.ownWeights_congr same]
  refine List.ext_getElem? fun place => ?_
  simp only [List.getElem?_map, getElem?_numbered, Option.map_map]
  refine congrArg (Option.map · options[place]?) (funext fun option => ?_)
  simp [weigh]

end Numbered

namespace Stock

variable {stock : Stock}

theorem identified_each : List.Forall₂ (fun option key => stock.rule.keyFor option.item = .ok key)
    stock.options stock.keys := by
  have identified := stock.identified
  generalize stock.keys = keys at identified
  generalize stock.options = options at identified
  induction options generalizing keys with
  | nil =>
      cases identified
      exact .nil
  | cons option options ih =>
      rw [List.mapM_cons] at identified
      obtain ⟨key, named, more⟩ := bind_eq_ok.1 identified
      obtain ⟨others, known, same⟩ := bind_eq_ok.1 more
      cases same
      exact .cons named (ih _ known)

theorem key_of_option {option : Choice Datum} (member : option ∈ stock.options) :
    ∃ key ∈ stock.keys, stock.rule.keyFor option.item = .ok key := by
  obtain ⟨place, inside, rfl⟩ := List.mem_iff_getElem.1 member
  have length := stock.identified_each.length_eq
  exact ⟨_, List.getElem_mem (by omega), stock.identified_each.get inside (by omega)⟩

theorem option_of_key {key : String} (member : key ∈ stock.keys) :
    ∃ option ∈ stock.options, stock.rule.keyFor option.item = .ok key := by
  obtain ⟨place, inside, rfl⟩ := List.mem_iff_getElem.1 member
  have length := stock.identified_each.length_eq
  exact ⟨_, List.getElem_mem (by omega), stock.identified_each.get (by omega) inside⟩

variable (stock) in
def leaves (store : Store) (item : Datum) : Bool :=
  match stock.rule.keyFor item with
  | .ok key => !stock.uses store key
  | .error _ => false

variable (stock) in
/-- The options whose identifiers are unused. -/
def unused (store : Store) : List (Choice Datum) :=
  stock.options.filter fun option => stock.leaves store option.item

variable (stock) in
/-- The places of the unused options. -/
def unusedPlaces (store : Store) : List Nat :=
  ((numbered stock.options).filter fun option => stock.leaves store option.item.2).map
    fun option => option.item.1

variable (stock) in
theorem options_unusedPlaces (store : Store) : (stock.unusedPlaces store).map (stock.options[·]?) =
    (stock.unused store).map some := by
  have numbers : ((numbered stock.options).map fun option =>
        (option.item.2, stock.options[option.item.1]?)) =
      stock.options.map fun option => (option.item, some option) := by
    refine List.ext_getElem (by simp [numbered]) fun place inside inside' => ?_
    simp [numbered]
  have kept := congrArg (fun pairs => (pairs.filter fun pair => stock.leaves store pair.1).map Prod.snd)
    numbers
  simp only [List.filter_map, List.map_map] at kept
  rw [unusedPlaces, unused, List.map_map]
  exact kept

theorem unused_eq_nil {store : Store} : stock.unused store = [] ↔ stock.Spent store := by
  rw [unused, List.filter_eq_nil_iff]
  constructor
  · intro empty key member
    obtain ⟨option, among, named⟩ := option_of_key member
    simpa [leaves, named] using empty option among
  · intro spent option member
    obtain ⟨key, among, named⟩ := key_of_option member
    simp [leaves, named, spent key among]

section Choosing

variable {κ : Type} {store : Store} {places : List ((Nat × Datum) × κ)}

variable (stock store) in
/-- The candidates are the unused options. -/
theorem pairs_remaining (places : List ((Nat × Datum) × κ)) :
    ((remaining (filterOf (some stock.rule) (some store)) places).map fun candidate =>
        (candidate.item, candidate.weight)) =
      places.filter fun pair => stock.leaves store pair.1.2 := by
  induction places with
  | nil => rfl
  | cons pair rest ih =>
      have scan : remaining (filterOf (some stock.rule) (some store)) (pair :: rest) =
          ((stock.rule.filter (some store)).candidate? pair).toList ++
            remaining (filterOf (some stock.rule) (some store)) rest := by
        show List.filterMap _ _ = _
        rw [List.filterMap_cons]
        cases (stock.rule.filter (some store)).candidate? pair <;> rfl
      rw [scan, List.map_append, ih, List.filter_cons]
      have key : (stock.rule.filter (some store)).key pair.1 = stock.rule.keyFor pair.1.2 := rfl
      have used : (stock.rule.filter (some store)).used = stock.uses store := rfl
      cases named : stock.rule.keyFor pair.1.2 with
      | error error => simp [Selection.Filter.candidate?, key, named, leaves]
      | ok name =>
          cases unused : stock.uses store name with
          | true => simp [Selection.Filter.candidate?, key, used, named, unused, leaves]
          | false => simp [Selection.Filter.candidate?, key, used, named, unused, leaves]

variable [Arithmetic κ] (accepted : normalizeWeights (numbered stock.options) = .ok places)

include accepted

theorem items_places : (places.map fun pair => pair.1.2) = stock.options.map Choice.item := by
  rw [← items_numbered, ← Selection.items_of_normalizeWeights accepted, List.map_map]
  rfl

theorem identifies :
    Selection.Identifies (filterOf (some stock.rule) (some store)) (places.map Prod.fst) := by
  rintro _ ⟨⟩ item member
  obtain ⟨pair, among, rfl⟩ := List.mem_map.1 member
  have listed : pair.1.2 ∈ stock.options.map Choice.item :=
    items_places accepted ▸ List.mem_map_of_mem among
  obtain ⟨option, known, same⟩ := List.mem_map.1 listed
  obtain ⟨key, -, named⟩ := key_of_option known
  rw [same] at named
  exact ⟨key, named⟩

theorem places_remaining :
    ((remaining (filterOf (some stock.rule) (some store)) places).map fun candidate =>
      candidate.item.1) = stock.unusedPlaces store := by
  have items := congrArg (List.filter fun item => stock.leaves store item.2)
    (Selection.items_of_normalizeWeights accepted)
  rw [List.filter_map, List.filter_map] at items
  have pairs := congrArg (List.map fun pair => pair.1.1) (pairs_remaining stock store places)
  rw [List.map_map] at pairs
  have kept := congrArg (List.map Prod.fst) items
  rw [List.map_map, List.map_map] at kept
  exact pairs.trans kept

theorem remaining_eq_nil :
    remaining (filterOf (some stock.rule) (some store)) places = [] ↔ stock.Spent store := by
  have none_unused : stock.unusedPlaces store = [] ↔ stock.unused store = [] := by
    rw [← List.map_eq_nil_iff (f := (stock.options[·]?)), stock.options_unusedPlaces store,
      List.map_eq_nil_iff]
  rw [← unused_eq_nil, ← none_unused, ← places_remaining accepted, List.map_eq_nil_iff]

theorem follow_of_spent (spent : stock.Spent store) (draws : Nat → κ) (start : Nat) :
    (choose stock.options (some stock.rule) (some store)).follow draws start =
      ((.error (.exhausted stock.collection), some store), 0) := by
  have known : ∀ pair ∈ places, ∃ key, (stock.rule.filter (some store)).key pair.1 = .ok key :=
    fun pair member => identifies accepted _ rfl _ (List.mem_map_of_mem member)
  have empty : remaining (some (stock.rule.filter (some store))) places = [] :=
    (remaining_eq_nil accepted).2 spent
  have failed := Selection.candidates_filtered accepted known
  rw [if_pos (by simpa using empty)] at failed
  rw [follow_choose]
  simp only [filterOf, Option.map_some, failed]
  rfl

end Choosing

end Stock

end Unique

end Colloquy
