import Colloquy.Proofs.Selection.Intervals
import Mathlib.Data.Set.Function

/-!
# Samples as arrangements

A sample exchanges the item at each place with one that stands there or behind it. What stands before
a place is arranged for good, so the sample is an arrangement of distinct positions, and each
arrangement comes of exactly one choice of the places to exchange with. With rational draws every
choice has a box of draws of its own, and all these boxes are alike.
-/

set_option autoImplicit false

namespace Colloquy.Selection

section Exchanging

variable {α : Type}

/-- Exchanges each place from `start` on with the next of some places. -/
def arrange (pool : List α) (start : Nat) : List Nat → List α
  | [] => pool
  | place :: places => arrange (exchange pool start place) (start + 1) places

/-- What stands in the exchanged places behind all exchanges. -/
def arranged (pool : List α) (start : Nat) (places : List Nat) : List α :=
  ((arrange pool start places).drop start).take places.length

/-- Each step, counted from `start` on, selects a place that is not arranged yet. -/
def Selects (size start : Nat) (places : List Nat) : Prop :=
  ∀ (step place : Nat), places[step]? = some place → start + step ≤ place ∧ place < size

theorem selects_nil (size start : Nat) : Selects size start [] := by
  intro step place listed
  simp at listed

theorem selects_cons {size start place : Nat} {places : List Nat} :
    Selects size start (place :: places) ↔
      (start ≤ place ∧ place < size) ∧ Selects size (start + 1) places := by
  constructor
  · intro selects
    refine ⟨selects 0 place rfl, fun step other listed => ?_⟩
    have bounds := selects (step + 1) other listed
    omega
  · rintro ⟨bounds, later⟩ step other listed
    cases step with
    | zero =>
        cases listed
        exact bounds
    | succ step =>
        have bounds := later step other listed
        omega

variable {pool : List α} {left right start : Nat}

theorem exchange_eq (inside : left < pool.length) (inside' : right < pool.length) :
    exchange pool left right = (pool.set left pool[right]).set right pool[left] := by
  simp [exchange, inside, inside']

theorem exchange_perm (pool : List α) (left right : Nat) : (exchange pool left right).Perm pool := by
  by_cases inside : left < pool.length
  · by_cases inside' : right < pool.length
    · rw [exchange_eq inside inside']
      exact List.set_set_perm inside inside'
    · simp [exchange, List.getElem?_eq_none (Nat.le_of_not_lt inside')]
  · simp [exchange, List.getElem?_eq_none (Nat.le_of_not_lt inside)]

theorem map_exchange {β : Type} (change : α → β) (pool : List α) (left right : Nat) :
    (exchange pool left right).map change = exchange (pool.map change) left right := by
  unfold exchange
  rw [List.getElem?_map, List.getElem?_map]
  cases pool[left]? <;> cases pool[right]? <;> simp [List.map_set]

theorem getElem?_exchange_left (inside : left < pool.length) (inside' : right < pool.length) :
    (exchange pool left right)[left]? = some pool[right] := by
  rw [exchange_eq inside inside']
  by_cases same : right = left
  · subst same
    simp [inside]
  · rw [List.getElem?_set_ne same, List.getElem?_set_self (by simpa using inside)]

/-- Places before both that are exchanged keep what they hold. -/
theorem take_exchange (before : left ≤ right) : (exchange pool left right).take left = pool.take left := by
  unfold exchange
  split
  · rw [List.take_set_of_le (by omega), List.take_set_of_le (by omega)]
  · rfl

theorem drop_exchange_perm (before : left ≤ right) :
    ((exchange pool left right).drop left).Perm (pool.drop left) := by
  have whole : pool.take left ++ (exchange pool left right).drop left = exchange pool left right := by
    rw [← take_exchange before, List.take_append_drop]
  refine (List.perm_append_left_iff (pool.take left)).1 ?_
  rw [whole, List.take_append_drop]
  exact exchange_perm pool left right

theorem arrange_perm (pool : List α) (start : Nat) (places : List Nat) :
    (arrange pool start places).Perm pool := by
  induction places generalizing pool start with
  | nil => exact .refl pool
  | cons place places ih => exact (ih _ _).trans (exchange_perm pool start place)

theorem map_arrange {β : Type} (change : α → β) (pool : List α) (start : Nat) (places : List Nat) :
    (arrange pool start places).map change = arrange (pool.map change) start places := by
  induction places generalizing pool start with
  | nil => rfl
  | cons place places ih => rw [arrange, arrange, ih, map_exchange]

/-- The prefix before the first exchanged place is frozen. -/
theorem take_arrange {places : List Nat} (selects : Selects pool.length start places) :
    (arrange pool start places).take start = pool.take start := by
  induction places generalizing pool start with
  | nil => rfl
  | cons place places ih =>
      obtain ⟨⟨before, _⟩, later⟩ := selects_cons.1 selects
      rw [← (exchange_perm pool start place).length_eq] at later
      have frozen := congrArg (List.take start) (ih later)
      rw [List.take_take, List.take_take, Nat.min_eq_left (Nat.le_succ start)] at frozen
      rw [arrange, frozen, take_exchange before]

theorem arranged_sublist (pool : List α) (start : Nat) (places : List Nat) :
    (arranged pool start places).Sublist (arrange pool start places) :=
  (List.take_sublist _ _).trans (List.drop_sublist _ _)

theorem arranged_cons {place : Nat} {places : List Nat}
    (selects : Selects pool.length start (place :: places)) (inside : place < pool.length) :
    arranged pool start (place :: places) =
      pool[place] :: arranged (exchange pool start place) (start + 1) places := by
  obtain ⟨⟨before, _⟩, later⟩ := selects_cons.1 selects
  have start_inside : start < pool.length := before.trans_lt inside
  rw [← (exchange_perm pool start place).length_eq] at later
  have frozen := congrArg (fun front => front[start]?) (take_arrange later)
  simp only [List.getElem?_take_of_lt (Nat.lt_succ_self start)] at frozen
  rw [getElem?_exchange_left start_inside inside] at frozen
  obtain ⟨reached, here⟩ := List.getElem?_eq_some_iff.1 frozen
  have split := List.drop_eq_getElem_cons reached
  rw [here] at split
  unfold arranged
  rw [arrange, split, List.length_cons, List.take_succ_cons]

theorem length_arranged {places : List Nat} (selects : Selects pool.length start places) :
    (arranged pool start places).length = places.length := by
  induction places generalizing pool start with
  | nil => rfl
  | cons place places ih =>
      obtain ⟨⟨_, inside⟩, later⟩ := selects_cons.1 selects
      rw [← (exchange_perm pool start place).length_eq] at later
      rw [arranged_cons selects inside, List.length_cons, ih later, List.length_cons]

/-- What is arranged first tells the first place, and what is left then tells the others. -/
theorem arranged_injective (distinct : pool.Nodup) {places others : List Nat}
    (selects : Selects pool.length start places) (selects' : Selects pool.length start others)
    (same : arranged pool start places = arranged pool start others) : places = others := by
  induction places generalizing pool start others with
  | nil =>
      have size := congrArg List.length same
      rw [length_arranged selects, length_arranged selects'] at size
      exact (List.eq_nil_of_length_eq_zero size.symm).symm
  | cons place places ih =>
      cases others with
      | nil =>
          have size := congrArg List.length same
          rw [length_arranged selects, length_arranged selects'] at size
          cases size
      | cons other others =>
          obtain ⟨⟨_, inside⟩, later⟩ := selects_cons.1 selects
          obtain ⟨⟨_, inside'⟩, later'⟩ := selects_cons.1 selects'
          rw [arranged_cons selects inside, arranged_cons selects' inside', List.cons.injEq] at same
          obtain ⟨first, rest⟩ := same
          obtain rfl := (distinct.getElem_inj_iff).1 first
          have swapped := exchange_perm pool start place
          rw [← swapped.length_eq] at later later'
          rw [ih (swapped.nodup_iff.2 distinct) later later' rest]

/-- Each item that is not arranged yet can be the next one, so that all orders of some come about. -/
theorem exists_arranged (distinct : pool.Nodup) {wanted : List α} (wanted_distinct : wanted.Nodup)
    (left_over : ∀ item ∈ wanted, item ∈ pool.drop start) :
    ∃ places, Selects pool.length start places ∧ arranged pool start places = wanted := by
  induction wanted generalizing pool start with
  | nil => exact ⟨[], selects_nil _ _, rfl⟩
  | cons item wanted ih =>
      obtain ⟨offset, inside, rfl⟩ :=
        List.mem_drop_iff_getElem.1 (left_over item List.mem_cons_self)
      have inside : start + offset < pool.length := by omega
      have before : start ≤ start + offset := Nat.le_add_right start offset
      have swapped := exchange_perm pool start (start + offset)
      have front : (exchange pool start (start + offset)).drop start =
          pool[start + offset] :: (exchange pool start (start + offset)).drop (start + 1) := by
        obtain ⟨reached, here⟩ := List.getElem?_eq_some_iff.1
          (getElem?_exchange_left (before.trans_lt inside) inside)
        rw [List.drop_eq_getElem_cons reached, here]
      obtain ⟨fresh, wanted_distinct⟩ := List.nodup_cons.1 wanted_distinct
      have still : ∀ other ∈ wanted,
          other ∈ (exchange pool start (start + offset)).drop (start + 1) := by
        intro other member
        have kept := (drop_exchange_perm before).mem_iff.2
          (left_over other (List.mem_cons_of_mem _ member))
        rw [front, List.mem_cons] at kept
        exact kept.resolve_left fun same => fresh (same ▸ member)
      obtain ⟨places, selects, rfl⟩ := ih (swapped.nodup_iff.2 distinct) wanted_distinct still
      rw [swapped.length_eq] at selects
      have all := selects_cons.2 ⟨⟨before, inside⟩, selects⟩
      exact ⟨_, all, arranged_cons all inside⟩

end Exchanging

/-- The vectors of as many places as there are steps, each of a step that it is not before. -/
def selections (size count : Nat) : Set (List Nat) :=
  {places | places.length = count ∧ Selects size 0 places}

/-- The arrangements of so many distinct positions of a list. -/
def arrangements (size count : Nat) : Set (List Nat) :=
  {positions | positions.length = count ∧ positions.Nodup ∧ ∀ position ∈ positions, position < size}

/-- The positions that come to stand first by exchanges with some places. -/
def arrangement (size : Nat) (places : List Nat) : List Nat := arranged (List.range size) 0 places

/-- Each arrangement of positions comes of exactly one selection of places. -/
theorem bijOn_arrangement (size count : Nat) :
    Set.BijOn (arrangement size) (selections size count) (arrangements size count) := by
  have length : (List.range size).length = size := List.length_range
  refine ⟨?_, ?_, ?_⟩
  · rintro places ⟨rfl, selects⟩
    rw [← length] at selects
    have sublist := arranged_sublist (List.range size) 0 places
    have all := arrange_perm (List.range size) 0 places
    refine ⟨length_arranged selects, sublist.nodup (all.nodup_iff.2 List.nodup_range), ?_⟩
    intro position member
    exact List.mem_range.1 (all.mem_iff.1 (sublist.subset member))
  · rintro places ⟨_, selects⟩ others ⟨_, selects'⟩ same
    rw [← length] at selects selects'
    exact arranged_injective List.nodup_range selects selects' same
  · rintro positions ⟨rfl, distinct, inside⟩
    have left_over : ∀ position ∈ positions, position ∈ (List.range size).drop 0 :=
      fun position member => List.mem_range.2 (inside position member)
    obtain ⟨places, selects, arranged⟩ := exists_arranged List.nodup_range distinct left_over
    refine ⟨places, ⟨?_, length ▸ selects⟩, arranged⟩
    rw [← arranged, length_arranged selects]

section Drawing

theorem Drawing.follow_bind_done {κ α β : Type} (drawing : Drawing κ α) (change : α → β)
    (draws : Nat → κ) (start : Nat) :
    (drawing.bind fun result => .done (change result)).follow draws start =
      (change (drawing.follow draws start).1, (drawing.follow draws start).2) := by
  induction drawing generalizing start with
  | done result => rfl
  | draw rest ih =>
      rw [Drawing.bind, Drawing.follow, Drawing.follow, ih]

/-- The place that a draw selects at a step: a part of those that are left, counted from the step. -/
def selectedPlace (size : Nat) (draw : Rat) (step : Nat) : Nat :=
  step + ⌊draw * (size - step)⌋₊

/-- The places that draws select from a step on, each step having its draw. -/
def selectedPlaces (size : Nat) (draws : Nat → Rat) (start count : Nat) : List Nat :=
  (List.range' start count).map fun step => selectedPlace size (draws step) step

theorem selectedPlaces_succ (size : Nat) (draws : Nat → Rat) (start count : Nat) :
    selectedPlaces size draws start (count + 1) =
      selectedPlace size (draws start) start :: selectedPlaces size draws (start + 1) count := by
  rw [selectedPlaces, List.range'_succ]
  rfl

theorem getElem?_selectedPlaces {size : Nat} {draws : Nat → Rat} {count step place : Nat}
    (listed : (selectedPlaces size draws 0 count)[step]? = some place) :
    step < count ∧ place = selectedPlace size (draws step) step := by
  obtain ⟨inside, same⟩ := List.getElem?_eq_some_iff.1 listed
  simp only [selectedPlaces, List.length_map, List.length_range'] at inside
  refine ⟨inside, ?_⟩
  rw [← same]
  simp [selectedPlaces]

variable {size step : Nat} {draw : Rat}

theorem selectedPlace_eq (within : step < size) (lower : 0 ≤ draw) :
    (selectedPlace size draw step : Int) = step + ⌊draw * (size - step)⌋ := by
  have left : (0 : Rat) ≤ size - step := sub_nonneg.2 (by exact_mod_cast within.le)
  have floor := Int.natCast_floor_eq_floor (mul_nonneg lower left)
  rw [selectedPlace, Nat.cast_add, floor]

theorem selectedPlace_bounds (within : step < size) (lower : 0 ≤ draw) (upper : draw < 1) :
    step ≤ selectedPlace size draw step ∧ selectedPlace size draw step < size := by
  have bounds := floor_mul_lt (Nat.sub_pos_of_lt within) lower upper
  rw [Nat.cast_sub within.le] at bounds
  have place := selectedPlace_eq within lower
  omega

theorem samplePosition_eq {size start place : Nat} {offset : Int}
    (same : (place : Int) = start + offset) (inside : place < size) :
    samplePosition size start offset = .ok place := by
  have natural : ¬(place : Int) < 0 := by omega
  have placed : 0 ≤ (place : Int) ∧ (place : Int) < size := by omega
  unfold samplePosition
  simp only [← same, if_neg natural, if_pos placed, Int.toNat_natCast]

theorem follow_shuffle_succ {α : Type} {pool : List α} {draws : Nat → Rat} {start taken : Nat}
    (count : Nat) (here : start < pool.length) (lower : 0 ≤ draws taken) (upper : draws taken < 1) :
    (shuffle pool start (count + 1)).follow draws taken =
      let pool := exchange pool start (selectedPlace pool.length (draws taken) start)
      let rest := (shuffle pool (start + 1) count).follow draws (taken + 1)
      (rest.1, rest.2 + 1) := by
  have width : (Arithmetic.ofInt? (pool.length - start : Int) : Option Rat) =
    some ((pool.length - start : Int) : Rat) := rfl
  have found : samplePosition pool.length start ⌊draws taken * ((pool.length - start : Int) : Rat)⌋ =
      .ok (selectedPlace pool.length (draws taken) start) := by
    push_cast
    exact samplePosition_eq (selectedPlace_eq here lower) (selectedPlace_bounds here lower upper).2
  rw [shuffle, Drawing.follow]
  simp only [width, wholePart_floor, bind, Except.bind, found]

/-- A shuffle exchanges with the places that its draws select, and takes a draw for each. -/
theorem follow_shuffle {α : Type} {pool : List α} {draws : Nat → Rat} {start count base : Nat}
    (lower : ∀ place, 0 ≤ draws place) (upper : ∀ place, draws place < 1)
    (within : start + count ≤ pool.length) :
    (shuffle pool start count).follow draws (base + start) =
      (.ok (arrange pool start
        (selectedPlaces pool.length (fun step => draws (base + step)) start count)), count) := by
  induction count generalizing pool start with
  | zero => rfl
  | succ count ih =>
      have here : start < pool.length := by omega
      have length := (exchange_perm pool start
        (selectedPlace pool.length (draws (base + start)) start)).length_eq
      have later : start + 1 + count ≤ (exchange pool start
        (selectedPlace pool.length (draws (base + start)) start)).length := by omega
      rw [follow_shuffle_succ count here (lower _) (upper _), Nat.add_assoc]
      simp only [ih later, length, selectedPlaces_succ, arrange]

end Drawing

/-- The sample takes the items in the positions that come of exchanges with the places that the draws
select. With what is left of the items it is all of them. -/
structure Samples {α : Type} (items : List α) (draws : Nat → Rat) (places : List Nat)
    (picked : List α) : Prop where
  selected : ∀ (step place : Nat), places[step]? = some place →
    (place : Int) = step + ⌊draws step * (items.length - step)⌋
  distinct : arrangement items.length places ∈ arrangements items.length places.length
  taken : picked.map some = (arrangement items.length places).map (items[·]?)
  rest : ∃ rest, (picked ++ rest).Perm items

theorem selectedPlaces_mem_selections {size count : Nat} {draws : Nat → Rat}
    (lower : ∀ place, 0 ≤ draws place) (upper : ∀ place, draws place < 1) (within : count ≤ size) :
    selectedPlaces size draws 0 count ∈ selections size count := by
  refine ⟨by simp [selectedPlaces], fun step place listed => ?_⟩
  obtain ⟨inside, rfl⟩ := getElem?_selectedPlaces listed
  rw [Nat.zero_add]
  exact selectedPlace_bounds (inside.trans_le within) (lower step) (upper step)

theorem samples_selectedPlaces {α : Type} (items : List α) {count : Nat} {draws : Nat → Rat}
    (lower : ∀ place, 0 ≤ draws place) (upper : ∀ place, draws place < 1)
    (within : count ≤ items.length) :
    Samples items draws (selectedPlaces items.length draws 0 count)
      ((arrange items 0 (selectedPlaces items.length draws 0 count)).take count) := by
  have selection := selectedPlaces_mem_selections lower upper within
  have length := selection.1
  refine ⟨fun step place listed => ?_, ?_, ?_, ?_⟩
  · obtain ⟨inside, rfl⟩ := getElem?_selectedPlaces listed
    exact selectedPlace_eq (inside.trans_le within) (lower step)
  · rw [length]
    exact (bijOn_arrangement _ _).mapsTo selection
  · have whole : items.map some = (List.range items.length).map (items[·]?) := by
      refine List.ext_getElem (by simp) fun place _ _ => ?_
      simp
    rw [List.map_take, map_arrange, whole, ← map_arrange, ← List.map_take]
    unfold arrangement arranged
    rw [length, List.drop_zero]
  · refine ⟨(arrange items 0 (selectedPlaces items.length draws 0 count)).drop count, ?_⟩
    rw [List.take_append_drop]
    exact arrange_perm items 0 _

/-- A selection is the one that the draws make exactly if each of them lies in the part of its place. -/
theorem eq_selectedPlaces_iff {size count : Nat} {draws : Nat → Rat}
    (lower : ∀ place, 0 ≤ draws place) (within : count ≤ size) {places : List Nat}
    (selection : places ∈ selections size count) :
    places = selectedPlaces size draws 0 count ↔
      ∀ (step place : Nat), places[step]? = some place →
        draws step ∈ Set.Ico (((place - step : Int) : Rat) / (size - step))
          (((place - step : Int) + 1) / (size - step)) := by
  have part {step place : Nat} (inside : step < size) :
      draws step ∈ Set.Ico (((place - step : Int) : Rat) / (size - step))
          (((place - step : Int) + 1) / (size - step)) ↔
        place = selectedPlace size (draws step) step := by
    have positive : (0 : Rat) < size - step := sub_pos.2 (by exact_mod_cast inside)
    have same := selectedPlace_eq inside (lower step)
    rw [← floor_mul_eq_iff positive]
    omega
  constructor
  · rintro rfl step place listed
    obtain ⟨inside, same⟩ := getElem?_selectedPlaces listed
    exact (part (inside.trans_le within)).2 same
  · intro parts
    refine List.ext_getElem (by simp [selectedPlaces, selection.1]) fun step inside inside' => ?_
    have listed : places[step]? = some places[step] := List.getElem?_eq_getElem inside
    have bounded : step < size := (selection.1 ▸ inside).trans_le within
    rw [(part bounded).1 (parts step _ listed)]
    simp [selectedPlaces]

/-- A sample takes as many draws as it picks items: all there are, if more are asked for. It is the
arrangement of distinct positions that the draws select. Each arrangement comes of its own box of
draws, and the boxes of all arrangements have sides of the same lengths. -/
theorem sample_arranges {α : Type} (items : List α) (count : Int) (draws : Nat → Rat) (start : Nat)
    (lower : ∀ place, 0 ≤ draws place) (upper : ∀ place, draws place < 1) :
    ∃ size : Nat, (size : Int) = min (max count 0) items.length ∧
      (∃ places ∈ selections items.length size, ∃ picked,
        (sample count items).follow draws start = (.ok picked, size) ∧
        Samples items (fun step => draws (start + step)) places picked ∧
        ∀ others ∈ selections items.length size, others = places ↔
          ∀ (step place : Nat), others[step]? = some place →
            draws (start + step) ∈ Set.Ico (((place - step : Int) : Rat) / (items.length - step))
              (((place - step : Int) + 1) / (items.length - step))) ∧
      Set.BijOn (arrangement items.length) (selections items.length size)
        (arrangements items.length size) := by
  have within : min count.toNat items.length ≤ items.length := Nat.min_le_right _ _
  have lower' (step : Nat) : 0 ≤ draws (start + step) := lower _
  have upper' (step : Nat) : draws (start + step) < 1 := upper _
  have ran : (sample count items).follow draws start =
      (.ok ((arrange items 0 (selectedPlaces items.length (fun step => draws (start + step)) 0
        (min count.toNat items.length))).take (min count.toNat items.length)),
          min count.toNat items.length) := by
    have shuffled : (shuffle items 0 (min count.toNat items.length)).follow draws start = _ :=
      follow_shuffle lower upper (Nat.zero_add _ ▸ within)
    rw [sample, Drawing.follow_bind_done, shuffled]
    rfl
  refine ⟨min count.toNat items.length, by omega, ⟨_, selectedPlaces_mem_selections lower' upper' within,
    _, ran, samples_selectedPlaces items lower' upper' within, fun others selection =>
      eq_selectedPlaces_iff lower' within selection⟩, bijOn_arrangement _ _⟩

/-- More items are asked for than there are, so that the sample is an arrangement of all of them. -/
theorem sample_arranges_letters : (0 : Rat) ≤ 1 / 2 ∧ (1 / 2 : Rat) < 1 ∧ ∃ places,
    (sample 5 ["a", "b", "c"]).follow (fun _ => (1 / 2 : Rat)) 0 = (.ok ["b", "c", "a"], 3) ∧
    Samples ["a", "b", "c"] (fun _ => 1 / 2) places ["b", "c", "a"] := by
  have half : (0 : Rat) ≤ 1 / 2 ∧ (1 / 2 : Rat) < 1 := by norm_num
  have known : ((sample 5 ["a", "b", "c"]).follow (fun _ => (1 / 2 : Rat)) 0).1.toOption =
    some ["b", "c", "a"] := by decide +kernel
  obtain ⟨size, taken, ⟨places, _, picked, ran, samples, _⟩, _⟩ :=
    sample_arranges ["a", "b", "c"] 5 (fun _ => 1 / 2) 0 (fun _ => half.1) fun _ => half.2
  have all : (size : Int) = 3 := by simpa using taken
  obtain rfl : size = 3 := by omega
  rw [ran] at known
  cases known
  exact ⟨half.1, half.2, places, ran, samples⟩

end Colloquy.Selection
