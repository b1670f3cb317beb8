import Colloquy.Proofs.Selection.Shares
import Colloquy.Proofs.Unique.Unused

/-!
# Filtering and weighing

A choice from a stock is made among the options that are unused, with the weights that they have in the
whole stock. This is the choice among these options alone only if they keep their shares of the weight:
where some of them have weights of their own, the others would get a greater even share alone.
-/

set_option autoImplicit false

namespace Colloquy.Unique

open Selection (Choice Candidate PicksAt PickAlike KeepsShares remaining normalizeWeights weightsOf weigh
  evenShare ownWeights spread)

/-- A choice without a uniqueness rule takes the option in the place that its weight is picked at. -/
theorem follow_alone {options : List (Choice Datum)} {weighed : List (Datum × Rat)}
    (accepted : normalizeWeights options = .ok weighed) (draws : Nat → Rat) (start : Nat)
    (lower : 0 ≤ draws start) (upper : draws start < 1) :
    ∃ chosen, (choose options none none).follow draws start = ((.ok chosen, none), 1) ∧
      PicksAt (weighed.map Prod.snd) (draws start) chosen.place := by
  obtain ⟨places, numbered_accepted, rfl⟩ := normalizeWeights_numbered accepted
  have filled : remaining (filterOf none none) places ≠ [] := by
    obtain ⟨weighs, rfl⟩ := Selection.normalizeWeights_eq_ok.1 numbered_accepted
    simpa [remaining, filterOf] using weighs.filled
  have unfiltered : Selection.Identifies (filterOf none none) (places.map Prod.fst) := by
    rintro _ ⟨⟩
  obtain ⟨place, candidate, picked, ran⟩ :=
    follow_of_remaining numbered_accepted unfiltered filled lower upper
  have weights : weightsOf (remaining (filterOf none none) places) =
      (places.map fun pair => (pair.1.2, pair.2)).map Prod.snd := by
    simp [weightsOf, remaining, filterOf]
  have here : candidate.item.1 = place := by
    have listed : (places.map Prod.fst)[place]? = some candidate.item := by
      have known := congrArg (Option.map Candidate.item) picked.listed
      simpa [remaining, filterOf, Function.comp_def] using known
    rw [Selection.items_of_normalizeWeights numbered_accepted, List.getElem?_map, getElem?_numbered,
      Option.map_map] at listed
    obtain ⟨option, -, same⟩ := Option.map_eq_some_iff.1 listed
    simp [← same]
  refine ⟨chosenAs candidate, ran, ?_⟩
  rw [← weights]
  show PicksAt _ _ candidate.item.1
  rw [here]
  exact picked.picks

namespace Stock

variable (stock : Stock)

/-- The weights that the unused options have in the whole stock. -/
def weightsLeft (store : Store) (weighed : List (Datum × Rat)) : List Rat :=
  (weighed.filter fun pair => stock.leaves store pair.1).map Prod.snd

/-- By a draw the same option is chosen from the stock as from its unused options alone. -/
def ChoosesAsAlone (store : Store) (draw : Rat) : Prop :=
  ∃ chosen after alone,
    (choose stock.options (some stock.rule) (some store)).follow (fun _ => draw) 0 =
      ((.ok chosen, after), 1) ∧
    (choose (stock.unused store) none none).follow (fun _ => draw) 0 = ((.ok alone, none), 1) ∧
    (stock.unusedPlaces store)[alone.place]? = some chosen.place

variable {stock} {store : Store} {weighed : List (Datum × Rat)}

variable (stock store) in
theorem nodup_unusedPlaces : (stock.unusedPlaces store).Nodup := by
  have all : (numbered stock.options).map (fun option => option.item.1) =
      List.range stock.options.length := by
    refine List.ext_getElem (by simp [numbered]) fun place inside _ => ?_
    simp [numbered]
  have sublist : (stock.unusedPlaces store).Sublist (List.range stock.options.length) :=
    all ▸ List.filter_sublist.map _
  exact sublist.nodup List.nodup_range

theorem ChoosesAsAlone.same_option {draw : Rat} (same : stock.ChoosesAsAlone store draw) :
    ∃ chosen after alone,
      (choose stock.options (some stock.rule) (some store)).follow (fun _ => draw) 0 =
        ((.ok chosen, after), 1) ∧
      (choose (stock.unused store) none none).follow (fun _ => draw) 0 = ((.ok alone, none), 1) ∧
      (stock.unused store)[alone.place]? = stock.options[chosen.place]? := by
  obtain ⟨chosen, after, alone, ran, ran_alone, place⟩ := same
  refine ⟨chosen, after, alone, ran, ran_alone, ?_⟩
  have option := congrArg (·[alone.place]?) (stock.options_unusedPlaces store)
  simp only [List.getElem?_map, place, Option.map_some] at option
  cases known : (stock.unused store)[alone.place]? with
  | none => simp [known] at option
  | some found => simpa [known] using option.symm

theorem weightsLeft_eq_spread (accepted : normalizeWeights stock.options = .ok weighed) :
    stock.weightsLeft store weighed =
      spread (evenShare (ownWeights stock.options)) (ownWeights (stock.unused store)) := by
  obtain ⟨-, rfl⟩ := Selection.normalizeWeights_eq_ok.1 accepted
  simp only [weightsLeft, List.filter_map, List.map_map, spread, ownWeights, unused]
  rfl

theorem weights_remaining {places : List ((Nat × Datum) × Rat)} :
    weightsOf (remaining (filterOf (some stock.rule) (some store)) places) =
      stock.weightsLeft store (places.map fun pair => (pair.1.2, pair.2)) := by
  have pairs := congrArg (List.map Prod.snd) (pairs_remaining stock store places)
  rw [List.map_map] at pairs
  rw [weightsLeft, List.filter_map, List.map_map]
  exact pairs

section Choosing

variable (accepted : normalizeWeights stock.options = .ok weighed) (filled : stock.unused store ≠ [])

include accepted filled

theorem follow_unused (draws : Nat → Rat) (start : Nat) (lower : 0 ≤ draws start)
    (upper : draws start < 1) :
    ∃ place chosen after,
      (choose stock.options (some stock.rule) (some store)).follow draws start =
        ((.ok chosen, after), 1) ∧
      (stock.unusedPlaces store)[place]? = some chosen.place ∧
      PicksAt (stock.weightsLeft store weighed) (draws start) place := by
  obtain ⟨places, numbered_accepted, rfl⟩ := normalizeWeights_numbered accepted
  have some_left : remaining (filterOf (some stock.rule) (some store)) places ≠ [] := by
    rwa [ne_eq, remaining_eq_nil numbered_accepted, ← unused_eq_nil]
  obtain ⟨place, candidate, picked, ran⟩ := follow_of_remaining numbered_accepted
    (identifies numbered_accepted) some_left lower upper
  refine ⟨place, chosenAs candidate, _, ran, ?_, weights_remaining ▸ picked.picks⟩
  rw [← places_remaining numbered_accepted, List.getElem?_map, picked.listed]
  rfl

theorem choosesAsAlone_iff {draw : Rat} (lower : 0 ≤ draw) (upper : draw < 1) :
    stock.ChoosesAsAlone store draw ↔ ∃ place, PicksAt (stock.weightsLeft store weighed) draw place ∧
      PicksAt (spread (evenShare (ownWeights (stock.unused store))) (ownWeights (stock.unused store)))
        draw place := by
  obtain ⟨place, chosen, after, ran, listed, picks⟩ := follow_unused accepted filled
    (fun _ => draw) 0 lower upper
  have alone_accepted := Selection.normalizeWeights_eq_ok.2
    ⟨(Selection.normalizeWeights_eq_ok.1 accepted).1.filter filled, rfl⟩
  obtain ⟨alone, ran_alone, picks_alone⟩ := follow_alone alone_accepted
    (fun _ => draw) 0 lower upper
  have weights : ((stock.unused store).map (weigh (evenShare (ownWeights (stock.unused store))))).map
      Prod.snd = spread (evenShare (ownWeights (stock.unused store))) (ownWeights (stock.unused store)) := by
    simp only [spread, ownWeights, List.map_map]
    rfl
  have same_options : (stock.options.filter fun option => stock.leaves store option.item) =
      stock.unused store := rfl
  rw [same_options, weights] at picks_alone
  constructor
  · rintro ⟨chosen', after', alone', ran', ran_alone', same⟩
    cases ran.symm.trans ran'
    cases ran_alone.symm.trans ran_alone'
    -- no option stands in two places, so that both choices pick at the same one
    have inside := (List.getElem?_eq_some_iff.1 listed).1
    obtain rfl : place = alone.place :=
      (List.getElem?_inj inside (stock.nodup_unusedPlaces store)).1 (listed.trans same.symm)
    exact ⟨_, picks, picks_alone⟩
  · rintro ⟨shared, picks', picks_alone'⟩
    have nonneg (others : List (Option Rat)) :
        ∀ weight ∈ spread (evenShare others) (ownWeights (stock.unused store)), 0 ≤ weight :=
      Selection.spread_nonneg (fun number => Selection.ownWeights_nonneg)
        (Selection.evenShare_nonneg others)
    rw [weightsLeft_eq_spread accepted] at picks picks'
    obtain rfl := picks.unique (nonneg _) picks'
    have same := picks_alone.unique (nonneg _) picks_alone'
    exact ⟨chosen, after, alone, ran, ran_alone, same ▸ listed⟩

end Choosing

/-- A choice from a stock is among its unused options, if there are any, with the weights that they
have in the whole stock. It is the choice among these options alone exactly if they keep their shares
of the weight. -/
theorem chooses_among_unused (stock : Stock) (store : Store) {weighed : List (Datum × Rat)}
    (accepted : normalizeWeights stock.options = .ok weighed) :
    (stock.unused store = [] → ∀ (draws : Nat → Rat) (start : Nat),
      (choose stock.options (some stock.rule) (some store)).follow draws start =
        ((.error (.exhausted stock.collection), some store), 0)) ∧
    (stock.unused store ≠ [] →
      (∀ (draws : Nat → Rat) (start : Nat), 0 ≤ draws start → draws start < 1 →
        ∃ place chosen after,
          (choose stock.options (some stock.rule) (some store)).follow draws start =
            ((.ok chosen, after), 1) ∧
          (stock.unusedPlaces store)[place]? = some chosen.place ∧
          PicksAt (stock.weightsLeft store weighed) (draws start) place) ∧
      ((∀ draw, 0 ≤ draw → draw < 1 → stock.ChoosesAsAlone store draw) ↔
        KeepsShares (evenShare (ownWeights stock.options)) (ownWeights (stock.unused store)))) := by
  refine ⟨fun empty draws start => ?_, fun filled => ⟨fun draws start lower upper =>
    follow_unused accepted filled draws start lower upper, ?_⟩⟩
  · obtain ⟨places, numbered_accepted, -⟩ := normalizeWeights_numbered accepted
    exact follow_of_spent numbered_accepted (unused_eq_nil.1 empty) draws start
  have alike_iff : (∀ draw, 0 ≤ draw → draw < 1 → stock.ChoosesAsAlone store draw) ↔
      PickAlike (spread (evenShare (ownWeights stock.options)) (ownWeights (stock.unused store)))
        (spread (evenShare (ownWeights (stock.unused store))) (ownWeights (stock.unused store))) := by
    refine forall₃_congr fun draw lower upper => ?_
    rw [choosesAsAlone_iff accepted filled lower upper, weightsLeft_eq_spread accepted]
  have listed : (ownWeights (stock.unused store) : List (Option Rat)) ≠ [] := by
    simpa [ownWeights] using filled
  rw [alike_iff]
  exact ⟨Selection.keepsShares_of_pickAlike listed (fun number => Selection.ownWeights_nonneg)
    (Selection.evenShare_nonneg _), Selection.pickAlike_of_keepsShares listed⟩

end Stock

def letterStock : Stock := ⟨letters, letterRule, ["str:a", "str:b", "str:c"], rfl⟩

/-- The letters without weights of their own get the even share of a half each alone as among all
letters, of whose weight they have a quarter each. -/
theorem chooses_among_unused_letters :
    ∃ weighed : List (Datum × Rat), normalizeWeights letterStock.options = .ok weighed ∧
      ∀ draw, 0 ≤ draw → draw < 1 →
        letterStock.ChoosesAsAlone (.plain ⟨[("letters", ["str:a"])]⟩) draw := by
  have weights : (normalizeWeights letters).toOption.map (List.map Prod.snd) =
      some [(1 / 2 : Rat), 1 / 4, 1 / 4] := by decide +kernel
  have accepted : normalizeWeights letterStock.options =
      .ok ((letters.map Choice.item).zip [(1 / 2 : Rat), 1 / 4, 1 / 4]) :=
    Selection.normalizeWeights_of_weights weights
  have unused : letterStock.unused (.plain ⟨[("letters", ["str:a"])]⟩) =
      [.plain (.text "b"), .plain (.text "c")] := rfl
  have keeps : KeepsShares (evenShare (ownWeights letters))
      (ownWeights (letterStock.unused (.plain ⟨[("letters", ["str:a"])]⟩))) := by
    have positive : (0 : Rat) < evenShare (ownWeights letters) := by decide +kernel
    rw [unused]
    exact .inr (.inr (.inr ⟨positive, by simp [ownWeights, Selection.ownWeight, Choice.weight?]⟩))
  have among := (Stock.chooses_among_unused letterStock (.plain ⟨[("letters", ["str:a"])]⟩)
    accepted).2 (by rw [unused]; exact List.cons_ne_nil _ _)
  exact ⟨_, accepted, among.2.2 keeps⟩

/-- Without the second letter the third one has a third of the weight that is left, not a half. -/
theorem chooses_first_letter : ¬letterStock.ChoosesAsAlone letterStore (3 / 5) := by
  have first : ((choose letters (some letterRule) (some letterStore)).follow
      (fun _ => (3 / 5 : Rat)) 0).1.1.toOption.map Chosen.place = some 0 := by decide +kernel
  have second : ((choose (letterStock.unused letterStore) none none).follow
      (fun _ => (3 / 5 : Rat)) 0).1.1.toOption.map Chosen.place = some 1 := by decide +kernel
  have places : letterStock.unusedPlaces letterStore = [0, 2] := rfl
  rintro ⟨chosen, after, alone, ran, ran_alone, same⟩
  have ran : (choose letters (some letterRule) (some letterStore)).follow
    (fun _ => (3 / 5 : Rat)) 0 = ((.ok chosen, after), 1) := ran
  rw [ran] at first
  rw [ran_alone] at second
  have here : chosen.place = 0 := Option.some.inj first
  have there : alone.place = 1 := Option.some.inj second
  rw [places, here, there] at same
  cases same

end Colloquy.Unique
