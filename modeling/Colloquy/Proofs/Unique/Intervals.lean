import Colloquy.Proofs.Selection.Intervals
import Colloquy.Proofs.Selection.Remaining

/-!
# What a choice by weights chooses

A choice among options takes the candidate in whose interval its draw lies, and marks the identifier
of that candidate. It fails without a draw, and then nothing is marked. A draw of zero is in no
interval: it takes the first candidate, whether that has any weight or not.
-/

set_option autoImplicit false

namespace Colloquy.Unique

open Selection (Choice Candidate Arithmetic Identifies PicksAt remaining normalizeWeights weightsOf
  before)

def filterOf (rule : Option UniqueBy) (store : Option Store) :
    Option (Selection.Filter (Nat × Datum)) :=
  rule.map fun rule => rule.filter store

def chosenAs {κ : Type} (candidate : Candidate (Nat × Datum) κ) : Chosen :=
  ⟨candidate.item.1, candidate.key⟩

theorem follow_choose {κ : Type} [Arithmetic κ] (options : List (Choice Datum))
    (rule : Option UniqueBy) (store : Option Store) (draws : Nat → κ) (start : Nat) :
    (choose options rule store).follow draws start =
      match (Selection.candidates (numbered options) (filterOf rule store) :
          Except Error (List (Candidate (Nat × Datum) κ))) with
      | .error error => ((.error error, store), 0)
      | .ok found =>
          match Selection.pick found (draws start) with
          | .error error => ((.error error, store), 1)
          | .ok candidate =>
              ((.ok (chosenAs candidate), (chosenAs candidate).markIn rule store), 1) := by
  unfold choose Selection.choose filterOf
  cases (Selection.candidates (numbered options) (rule.map fun rule => rule.filter store) :
      Except Error (List (Candidate (Nat × Datum) κ))) with
  | error error => rfl
  | ok found =>
      simp only [Selection.Drawing.bind, Selection.Drawing.follow]
      cases Selection.pick found (draws start) with
      | error error => rfl
      | ok candidate => rfl

/-- The candidate in a place is the one that a draw picks. If there is any weight, the scan stops at
it whatever candidate stands for its end, and a draw above zero lies in the interval of its place. The
intervals are parts of the whole from zero to one, each as long as the candidate's share of the
weight. -/
structure PickedAt (found : List (Candidate (Nat × Datum) Rat)) (draw : Rat) (place : Nat)
    (candidate : Candidate (Nat × Datum) Rat) : Prop where
  listed : found[place]? = some candidate
  nonneg : ∀ weight ∈ weightsOf found, 0 ≤ weight
  picks : PicksAt (weightsOf found) draw place
  scanned : 0 < (weightsOf found).sum →
    ∀ last, Selection.reach (draw * (weightsOf found).sum) 0 last found = candidate
  interval : 0 < (weightsOf found).sum → 0 < draw → ∀ other, place = other ↔
    draw ∈ Set.Ioc (before (weightsOf found) other / (weightsOf found).sum)
      (before (weightsOf found) (other + 1) / (weightsOf found).sum)
  within : 0 < (weightsOf found).sum → ∀ other,
    before (weightsOf found) other / (weightsOf found).sum ∈ Set.Icc 0 1
  share : 0 < (weightsOf found).sum → ∀ other weight, (weightsOf found)[other]? = some weight →
    before (weightsOf found) (other + 1) / (weightsOf found).sum -
      before (weightsOf found) other / (weightsOf found).sum = weight / (weightsOf found).sum

/-- Exactly the identifier of the chosen option is marked if there is a uniqueness rule, and nothing
without one. -/
def Chosen.Marks (chosen : Chosen) (options : List (Choice Datum)) (rule : Option UniqueBy)
    (store after : Option Store) : Prop :=
  match rule with
  | none => after = store
  | some rule => ∃ given marked option key, store = some given ∧ after = some marked ∧
      options[chosen.place]? = some option ∧ rule.keyFor option.item = .ok key ∧
      chosen.key = some key ∧ given.has rule.collection key = false ∧
      ∀ collection name, marked.has collection name = true ↔
        given.has collection name = true ∨ collection = rule.collection ∧ name = key

@[simp]
theorem getElem?_numbered (options : List (Choice Datum)) (place : Nat) :
    (numbered options)[place]? = options[place]?.map fun option => option.map fun value => (place, value) :=
  List.getElem?_mapIdx

theorem mem_items_numbered {options : List (Choice Datum)} {item : Nat × Datum}
    (member : item ∈ (numbered options).map Choice.item) :
    ∃ option, options[item.1]? = some option ∧ option.item = item.2 := by
  obtain ⟨choice, among, rfl⟩ := List.mem_map.1 member
  obtain ⟨place, listed⟩ := List.mem_iff_getElem?.1 among
  rw [getElem?_numbered] at listed
  obtain ⟨option, found, rfl⟩ := Option.map_eq_some_iff.1 listed
  rw [Selection.Choice.item_map]
  exact ⟨option, found, rfl⟩

/-- A draw above zero picks a candidate that has some weight, a draw of zero the first candidate. -/
theorem PickedAt.weight_pos_iff {found : List (Candidate (Nat × Datum) Rat)} {draw : Rat} {place : Nat}
    {candidate first : Candidate (Nat × Datum) Rat} (picked : PickedAt found draw place candidate)
    (heavy : 0 < (weightsOf found).sum) (lower : 0 ≤ draw) (head : found.head? = some first) :
    0 < candidate.weight ↔ 0 < draw ∨ 0 < first.weight := by
  obtain ⟨inside, rfl⟩ := List.getElem?_eq_some_iff.1 picked.listed
  rcases lower.eq_or_lt with zero | positive
  · have first_place : place = 0 := by
      by_contra later
      have below := picked.picks.first heavy 0 (Nat.pos_of_ne_zero later)
      rw [← zero, zero_mul] at below
      exact below.not_ge (Selection.before_within picked.nonneg 1).1
    subst first_place
    rw [List.head?_eq_getElem?, List.getElem?_eq_getElem inside, Option.some.injEq] at head
    simp [← zero, head]
  · -- an interval that a draw lies in is not empty
    obtain ⟨above, upto⟩ := (picked.interval heavy positive place).1 rfl
    have grows := above.trans_le upto
    rw [div_lt_div_iff_of_pos_right heavy,
      Selection.before_succ (by simpa using inside), lt_add_iff_pos_right] at grows
    simpa [positive, weightsOf] using grows

theorem option_of_remaining {κ : Type} [Arithmetic κ] {options : List (Choice Datum)}
    {weighed : List ((Nat × Datum) × κ)} (accepted : normalizeWeights (numbered options) = .ok weighed)
    {filter : Option (Selection.Filter (Nat × Datum))} {candidate : Candidate (Nat × Datum) κ}
    (member : candidate ∈ remaining filter weighed) :
    ∃ option, options[candidate.item.1]? = some option ∧ option.item = candidate.item.2 := by
  refine mem_items_numbered ?_
  rw [← Selection.items_of_normalizeWeights accepted]
  exact List.mem_map_of_mem (Selection.pair_of_remaining candidate member)

section Choosing

variable {options : List (Choice Datum)} {rule : Option UniqueBy} {store : Option Store}
  {weighed : List ((Nat × Datum) × Rat)}

theorem marks_of_remaining (accepted : normalizeWeights (numbered options) = .ok weighed)
    {candidate : Candidate (Nat × Datum) Rat}
    (member : candidate ∈ remaining (filterOf rule store) weighed) :
    (chosenAs candidate).Marks options rule store ((chosenAs candidate).markIn rule store) := by
  obtain ⟨option, found, item⟩ := option_of_remaining accepted member
  cases rule with
  | none => rfl
  | some rule =>
      obtain ⟨-, key, named, carried, unused⟩ := Selection.mem_remaining.1 member
      cases store with
      | none => cases named
      | some given =>
          have named : rule.keyFor candidate.item.2 = .ok key := named
          rw [← item] at named
          refine ⟨given, given.mark rule.collection key, option, key, rfl, ?_, found, named, carried,
            unused, fun collection name => ?_⟩
          · simp [Chosen.markIn, chosenAs, carried]
          · rw [Store.has_mark]
            simp

theorem follow_of_remaining (accepted : normalizeWeights (numbered options) = .ok weighed)
    (identifies : Identifies (filterOf rule store) (weighed.map Prod.fst))
    (filled : remaining (filterOf rule store) weighed ≠ []) {draws : Nat → Rat} {start : Nat}
    (lower : 0 ≤ draws start) (upper : draws start < 1) :
    ∃ place candidate,
      PickedAt (remaining (filterOf rule store) weighed) (draws start) place candidate ∧
      (choose options rule store).follow draws start =
        ((.ok (chosenAs candidate), (chosenAs candidate).markIn rule store), 1) := by
  have nonneg : ∀ weight ∈ weightsOf (remaining (filterOf rule store) weighed), 0 ≤ weight := by
    intro weight member
    obtain ⟨candidate, among, rfl⟩ := List.mem_map.1 member
    exact Selection.nonneg_of_normalizeWeights accepted _
      (Selection.pair_of_remaining candidate among)
  have found := Selection.candidates_eq_ok.2 ⟨weighed, accepted, identifies, filled, rfl⟩
  obtain ⟨place, inside, picked, picks, scanned⟩ := Selection.pick_eq filled lower upper
  refine ⟨place, _, ⟨List.getElem?_eq_getElem inside, nonneg, picks, scanned,
    fun heavy positive => picks.iff_interval nonneg heavy positive, fun heavy other => ?_,
    fun heavy other weight known => ?_⟩, ?_⟩
  · obtain ⟨least, most⟩ := Selection.before_within nonneg other
    exact ⟨div_nonneg least heavy.le, (div_le_one heavy).2 most⟩
  · obtain ⟨inside, rfl⟩ := List.getElem?_eq_some_iff.1 known
    rw [Selection.before_succ inside, ← sub_div, add_sub_cancel_left]
  · rw [follow_choose, found]
    simp only [picked]

/-- A choice fails without a draw and marks nothing, or it takes one draw and picks a candidate. -/
theorem choose_cases (options : List (Choice Datum)) (rule : Option UniqueBy) (store : Option Store)
    {draws : Nat → Rat} {start : Nat} (lower : 0 ≤ draws start) (upper : draws start < 1) :
    (∃ error, (Selection.candidates (numbered options) (filterOf rule store) :
          Except Error (List (Candidate (Nat × Datum) Rat))) = .error error ∧
        (choose options rule store).follow draws start = ((.error error, store), 0)) ∨
      ∃ weighed place candidate, normalizeWeights (numbered options) = .ok weighed ∧
        Identifies (filterOf rule store) (weighed.map Prod.fst) ∧
        remaining (filterOf rule store) weighed ≠ [] ∧
        PickedAt (remaining (filterOf rule store) weighed) (draws start) place candidate ∧
        (choose options rule store).follow draws start =
          ((.ok (chosenAs candidate), (chosenAs candidate).markIn rule store), 1) := by
  cases known : (Selection.candidates (numbered options) (filterOf rule store) :
      Except Error (List (Candidate (Nat × Datum) Rat))) with
  | error error => exact .inl ⟨error, rfl, by rw [follow_choose, known]⟩
  | ok found =>
      obtain ⟨weighed, accepted, identifies, filled, rfl⟩ := Selection.candidates_eq_ok.1 known
      obtain ⟨place, candidate, picked, ran⟩ :=
        follow_of_remaining accepted identifies filled lower upper
      exact .inr ⟨weighed, place, candidate, accepted, identifies, filled, picked, ran⟩

end Choosing

/-- A choice by weights picks the candidate in whose interval the draw lies. Each choice that is made
takes one draw and marks the chosen identifier; one that fails takes none and marks nothing. -/
theorem chooses_by_intervals (options : List (Choice Datum)) (rule : Option UniqueBy)
    (store : Option Store) (draws : Nat → Rat) (start : Nat) (lower : 0 ≤ draws start)
    (upper : draws start < 1) :
    (∀ weighed, normalizeWeights (numbered options) = .ok weighed →
      Identifies (filterOf rule store) (weighed.map Prod.fst) →
      remaining (filterOf rule store) weighed ≠ [] →
      ∃ place candidate after,
        PickedAt (remaining (filterOf rule store) weighed) (draws start) place candidate ∧
        (choose options rule store).follow draws start = ((.ok (chosenAs candidate), after), 1)) ∧
    (∀ chosen after taken,
      (choose options rule store).follow draws start = ((.ok chosen, after), taken) →
        taken = 1 ∧ chosen.Marks options rule store after) ∧
    (∀ error after taken,
      (choose options rule store).follow draws start = ((.error error, after), taken) →
        taken = 0 ∧ after = store) := by
  refine ⟨fun weighed accepted identifies filled => ?_, ?_⟩
  · obtain ⟨place, candidate, picked, ran⟩ :=
      follow_of_remaining accepted identifies filled lower upper
    exact ⟨place, candidate, _, picked, ran⟩
  rcases choose_cases options rule store lower upper with
    ⟨error, -, ran⟩ | ⟨weighed, place, candidate, accepted, -, -, picked, ran⟩
  · rw [ran]
    refine ⟨fun chosen after taken same => (nomatch same), fun error' after taken same => ?_⟩
    cases same
    exact ⟨rfl, rfl⟩
  · rw [ran]
    refine ⟨fun chosen after taken same => ?_, fun error after taken same => (nomatch same)⟩
    cases same
    exact ⟨rfl, marks_of_remaining accepted (List.mem_of_getElem? picked.listed)⟩

/-- A half of the weight is for the first letter, the rest for both others. -/
def letters : List (Choice Datum) :=
  [.weighted (.text "a") (.float 0.5), .plain (.text "b"), .plain (.text "c")]

def letterRule : UniqueBy := ⟨"letters", none⟩

def letterStore : Store := .plain ⟨[("letters", ["str:b"])]⟩

def lettersLeft : List (Candidate (Nat × Datum) Rat) :=
  [⟨(0, .text "a"), 1 / 2, some "str:a"⟩, ⟨(2, .text "c"), 1 / 4, some "str:c"⟩]

theorem normalizeWeights_letters : normalizeWeights (numbered letters) =
    .ok [((0, .text "a"), (1 / 2 : Rat)), ((1, .text "b"), 1 / 4), ((2, .text "c"), 1 / 4)] := by
  have weights : (normalizeWeights (numbered letters)).toOption.map (List.map Prod.snd) =
      some [(1 / 2 : Rat), 1 / 4, 1 / 4] := by decide +kernel
  exact Selection.normalizeWeights_of_weights weights

theorem remaining_letters : remaining (filterOf (some letterRule) (some letterStore))
    [((0, .text "a"), (1 / 2 : Rat)), ((1, .text "b"), 1 / 4), ((2, .text "c"), 1 / 4)] =
      lettersLeft := rfl

theorem identifies_letters : Identifies (filterOf (some letterRule) (some letterStore))
    [(0, .text "a"), (1, .text "b"), (2, .text "c")] := by
  rintro _ ⟨⟩ item member
  simp only [List.mem_cons, List.not_mem_nil, or_false] at member
  rcases member with rfl | rfl | rfl <;> exact ⟨_, rfl⟩

/-- The end of an interval belongs to it: two thirds of the weight that is left are for the first
letter. -/
theorem chooses_by_intervals_letters :
    (0 : Rat) ≤ 2 / 3 ∧ (2 / 3 : Rat) < 1 ∧
      ∃ after, (choose letters (some letterRule) (some letterStore)).follow (fun _ => (2 / 3 : Rat)) 0 =
          ((.ok ⟨0, some "str:a"⟩, after), 1) ∧
        Chosen.Marks ⟨0, some "str:a"⟩ letters (some letterRule) (some letterStore) after := by
  refine ⟨by norm_num, by norm_num, ?_⟩
  obtain ⟨chooses, marks, -⟩ := chooses_by_intervals letters (some letterRule) (some letterStore)
    (fun _ => 2 / 3) 0 (by norm_num) (by norm_num)
  obtain ⟨place, candidate, after, picked, ran⟩ := chooses _ normalizeWeights_letters
    identifies_letters (by rw [remaining_letters]; exact List.cons_ne_nil _ _)
  rw [remaining_letters] at picked
  have sum : (weightsOf lettersLeft).sum = 3 / 4 := by norm_num [weightsOf, lettersLeft]
  have first : place = 0 := by
    refine (picked.interval (by norm_num [sum]) (by norm_num) 0).2 ?_
    norm_num [sum, before, weightsOf, lettersLeft]
  rw [first] at picked
  cases picked.listed
  exact ⟨after, ran, (marks _ after 1 ran).2⟩

/-- While there is any weight, the chosen candidate has some, except that a draw of zero takes the
first candidate whatever its weight is. -/
theorem weight_of_chosen (options : List (Choice Datum)) (rule : Option UniqueBy)
    (store : Option Store) (draws : Nat → Rat) (start : Nat) (lower : 0 ≤ draws start)
    (upper : draws start < 1) {weighed : List ((Nat × Datum) × Rat)}
    (accepted : normalizeWeights (numbered options) = .ok weighed)
    (identifies : Identifies (filterOf rule store) (weighed.map Prod.fst))
    (heavy : 0 < (weightsOf (remaining (filterOf rule store) weighed)).sum) :
    ∃ first candidate after, (remaining (filterOf rule store) weighed).head? = some first ∧
      candidate ∈ remaining (filterOf rule store) weighed ∧
      (choose options rule store).follow draws start = ((.ok (chosenAs candidate), after), 1) ∧
      (0 < candidate.weight ↔ 0 < draws start ∨ 0 < first.weight) := by
  have filled : remaining (filterOf rule store) weighed ≠ [] := by
    intro empty
    rw [empty] at heavy
    exact absurd heavy (lt_irrefl 0)
  obtain ⟨first, rest, listed⟩ := List.exists_cons_of_ne_nil filled
  have head : (remaining (filterOf rule store) weighed).head? = some first := by
    rw [listed]
    rfl
  obtain ⟨place, candidate, picked, ran⟩ := follow_of_remaining accepted identifies filled lower upper
  exact ⟨first, candidate, _, head, List.mem_of_getElem? picked.listed, ran,
    picked.weight_pos_iff heavy lower head⟩

/-- One option has no weight, the other all of it. -/
def neverAlways : List (Choice Datum) :=
  [.weighted (.text "never") (.float 0.0), .weighted (.text "always") (.float 1.0)]

theorem weights_neverAlways :
    (normalizeWeights (numbered neverAlways)).toOption.map (List.map Prod.snd) =
      some [(0 : Rat), 1] := by decide +kernel

theorem weight_of_chosen_neverAlways :
    ∃ weighed, normalizeWeights (numbered neverAlways) = .ok weighed ∧
      Identifies (filterOf none none) (weighed.map Prod.fst) ∧
      0 < (weightsOf (remaining (filterOf none none) weighed)).sum ∧
      ∃ (candidate : Candidate (Nat × Datum) Rat) (after : Option Store),
        (choose neverAlways none none).follow (fun _ => (1 / 2 : Rat)) 0 =
        ((.ok (chosenAs candidate), after), 1) ∧ 0 < candidate.weight := by
  have accepted := Selection.normalizeWeights_of_weights weights_neverAlways
  have identifies : Identifies (filterOf none none) ((((numbered neverAlways).map Choice.item).zip
      [(0 : Rat), 1]).map Prod.fst) := fun _ member => (nomatch member)
  have heavy : 0 < (weightsOf (remaining (filterOf none none)
      (((numbered neverAlways).map Choice.item).zip [(0 : Rat), 1]))).sum := by
    show 0 < [(0 : Rat), 1].sum
    norm_num
  obtain ⟨_, candidate, after, _, _, ran, weight⟩ := weight_of_chosen neverAlways none none
    (fun _ => 1 / 2) 0 (by norm_num) (by norm_num) accepted identifies heavy
  exact ⟨_, accepted, identifies, heavy, candidate, after, ran, weight.2 (.inl (by norm_num))⟩

/-- A draw of zero chooses the option without weight, though the other has all of it. -/
theorem choose_never :
    (normalizeWeights (numbered neverAlways)).toOption.map (List.map Prod.snd) =
        some [(0 : Rat), 1] ∧
      ((choose neverAlways none none).follow (fun _ => (0 : Rat)) 0).1.1.toOption =
        some ⟨0, none⟩ :=
  ⟨weights_neverAlways, by decide +kernel⟩

end Colloquy.Unique
