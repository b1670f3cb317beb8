import Colloquy.Proofs.Selection.Weights
import Colloquy.Selection.Bounds
import Mathlib.Algebra.BigOperators.Ring.List
import Mathlib.Algebra.Order.Floor.Ring
import Mathlib.Data.Rat.Floor
import Mathlib.Order.Interval.Set.Defs
import Mathlib.Tactic.FieldSimp

/-!
# The intervals of a weighted choice

With rational weights and draws a choice cuts the draws into intervals, one for each candidate and as
long as its share of the weight. If no candidate has any weight, each gets an equal part. A range of
integers is cut into parts of equal length: each integer has one, which the draws in it lead to.
-/

set_option autoImplicit false

namespace Colloquy.Selection

/-- The sum of the weights before a place. -/
def before (weights : List Rat) (place : Nat) : Rat := (weights.take place).sum

section Sums

variable {weights : List Rat}

@[simp]
theorem before_zero (weights : List Rat) : before weights 0 = 0 := rfl

theorem before_succ {place : Nat} (inside : place < weights.length) :
    before weights (place + 1) = before weights place + weights[place] :=
  List.sum_take_succ weights place inside

theorem before_cons_succ (weight : Rat) (weights : List Rat) (place : Nat) :
    before (weight :: weights) (place + 1) = weight + before weights place := by
  simp [before]

theorem before_mono (nonneg : ∀ weight ∈ weights, 0 ≤ weight) {earlier later : Nat}
    (le : earlier ≤ later) : before weights earlier ≤ before weights later := by
  have sublist : (weights.take earlier).Sublist (weights.take later) :=
    (List.take_prefix_take_left le).sublist
  exact sublist.sum_le_sum fun weight member => nonneg weight (List.mem_of_mem_take member)

theorem before_within (nonneg : ∀ weight ∈ weights, 0 ≤ weight) (place : Nat) :
    0 ≤ before weights place ∧ before weights place ≤ weights.sum := by
  refine ⟨before_mono nonneg (Nat.zero_le place), ?_⟩
  exact (List.take_sublist place weights).sum_le_sum nonneg

theorem before_map (factor : Rat) (weights : List Rat) (place : Nat) :
    before (weights.map (factor * ·)) place = factor * before weights place := by
  rw [before, before, ← List.map_take, List.sum_map_mul_left, List.map_id']

end Sums

/-- The place that a draw picks by weight: the first whose sum of weights reaches the drawn part of
the total or, if there is no weight, the drawn one of equally many. -/
structure PicksAt (weights : List Rat) (draw : Rat) (place : Nat) : Prop where
  inside : place < weights.length
  reaches : 0 < weights.sum → draw * weights.sum ≤ before weights (place + 1)
  first : 0 < weights.sum → ∀ earlier < place, before weights (earlier + 1) < draw * weights.sum
  even : weights.sum = 0 → (place : Int) = ⌊draw * weights.length⌋

namespace PicksAt

variable {weights : List Rat} {draw : Rat} {place : Nat}

theorem unique (nonneg : ∀ weight ∈ weights, 0 ≤ weight) {other : Nat}
    (picks : PicksAt weights draw place) (picks' : PicksAt weights draw other) : place = other := by
  rcases (List.sum_nonneg nonneg).eq_or_lt with light | heavy
  · exact_mod_cast (picks.even light.symm).trans (picks'.even light.symm).symm
  · rcases lt_trichotomy place other with less | same | more
    · exact absurd (picks'.first heavy place less) (picks.reaches heavy).not_gt
    · exact same
    · exact absurd (picks.first heavy other more) (picks'.reaches heavy).not_gt

/-- Only the shares of the weights count. -/
theorem scale {factor : Rat} (positive : 0 < factor) (picks : PicksAt weights draw place) :
    PicksAt (weights.map (factor * ·)) draw place := by
  have sum : (weights.map (factor * ·)).sum = factor * weights.sum := by
    rw [List.sum_map_mul_left, List.map_id']
  have drawn : draw * (factor * weights.sum) = factor * (draw * weights.sum) := by ring
  refine ⟨by simpa using picks.inside, fun heavy => ?_, fun heavy earlier less => ?_, fun light => ?_⟩
  · rw [sum] at heavy
    rw [sum, before_map, drawn]
    exact mul_le_mul_of_nonneg_left (picks.reaches ((mul_pos_iff_of_pos_left positive).1 heavy))
      positive.le
  · rw [sum] at heavy
    rw [sum, before_map, drawn]
    exact mul_lt_mul_of_pos_left
      (picks.first ((mul_pos_iff_of_pos_left positive).1 heavy) earlier less) positive
  · rw [sum, mul_eq_zero] at light
    rw [List.length_map]
    exact picks.even (light.resolve_left positive.ne')

theorem iff_interval (nonneg : ∀ weight ∈ weights, 0 ≤ weight) (heavy : 0 < weights.sum)
    (positive : 0 < draw) (picks : PicksAt weights draw place) (other : Nat) :
    place = other ↔
      draw ∈ Set.Ioc (before weights other / weights.sum) (before weights (other + 1) / weights.sum) := by
  rw [Set.mem_Ioc, div_lt_iff₀ heavy, le_div_iff₀ heavy]
  constructor
  · rintro rfl
    refine ⟨?_, picks.reaches heavy⟩
    cases place with
    | zero => exact mul_pos positive heavy
    | succ earlier => exact picks.first heavy earlier (Nat.lt_succ_self earlier)
  · rintro ⟨above, below⟩
    rcases lt_trichotomy place other with less | same | more
    · exact absurd ((picks.reaches heavy).trans (before_mono nonneg less)) above.not_ge
    · exact same
    · exact absurd (picks.first heavy other more) below.not_gt

end PicksAt

section Picking

variable {α : Type}

def weightsOf (found : List (Candidate α Rat)) : List Rat := found.map Candidate.weight

@[simp]
theorem length_weightsOf (found : List (Candidate α Rat)) :
    (weightsOf found).length = found.length :=
  List.length_map _

/-- A needle that does not exceed all weights together is reached at some candidate, so that it does
not matter which candidate stands for the end. -/
theorem reach_eq {found : List (Candidate α Rat)} {needle sum : Rat} (filled : found ≠ [])
    (covered : needle ≤ sum + (weightsOf found).sum) :
    ∃ (place : Nat) (inside : place < found.length),
      (∀ last, reach needle sum last found = found[place]) ∧
      needle ≤ sum + before (weightsOf found) (place + 1) ∧
      ∀ earlier < place, sum + before (weightsOf found) (earlier + 1) < needle := by
  -- the sum so far and what is left to scan always cover the needle together
  induction found generalizing sum with
  | nil => exact absurd rfl filled
  | cons candidate rest ih =>
      have scans (last : Candidate α Rat) : reach needle sum last (candidate :: rest) =
          if needle ≤ sum + candidate.weight then candidate
          else reach needle (sum + candidate.weight) candidate rest := by
        simp [reach, Arithmetic.atMost]
      have sums (place : Nat) : sum + before (weightsOf (candidate :: rest)) (place + 1) =
          sum + candidate.weight + before (weightsOf rest) place := by
        rw [weightsOf, List.map_cons, before_cons_succ, add_assoc]
        rfl
      by_cases here : needle ≤ sum + candidate.weight
      · refine ⟨0, Nat.succ_pos _, fun last => by rw [scans, if_pos here]; rfl, ?_, by simp⟩
        rw [sums, before_zero, add_zero]
        exact here
      · have later : rest ≠ [] := by
          rintro rfl
          simp [weightsOf] at covered
          exact here covered
        have rest_covered : needle ≤ sum + candidate.weight + (weightsOf rest).sum := by
          simpa [weightsOf, add_assoc] using covered
        obtain ⟨place, inside, found, reaches, first⟩ := ih later rest_covered
        refine ⟨place + 1, Nat.succ_lt_succ inside, fun last => ?_, ?_, fun earlier less => ?_⟩
        · rw [scans, if_neg here, found]
          rfl
        · rw [sums]
          exact reaches
        · rw [sums]
          cases earlier with
          | zero => simpa using here
          | succ earlier => exact first earlier (Nat.lt_of_succ_lt_succ less)

theorem candidateAt_eq {κ : Type} {found : List (Candidate α κ)} {place : Nat}
    (inside : place < found.length) : candidateAt found place = .ok found[place] := by
  have natural : ¬(place : Int) < 0 := by omega
  simp only [candidateAt, if_neg natural, Int.toNat_natCast, List.getElem?_eq_getElem inside]

theorem truncate?_eq_floor {number : Rat} (nonneg : 0 ≤ number) :
    Arithmetic.truncate? number = some ⌊number⌋ := by
  rw [Rat.floor_def']
  exact congrArg some (Int.tdiv_eq_ediv_of_nonneg (Rat.num_nonneg.2 nonneg))

/-- Without any weight a draw picks one of equally many candidates. -/
theorem pick_weightless {found : List (Candidate α Rat)} {draw : Rat} (nonneg : 0 ≤ draw)
    (weightless : (weightsOf found).sum ≤ 0) :
    pick found draw = candidateAt found (min ⌊draw * found.length⌋ (found.length - 1)) := by
  have sum : total (found.map (·.weight)) = (weightsOf found).sum := total_eq_sum _
  have light : Arithmetic.atMost (weightsOf found).sum Arithmetic.zero = true :=
    decide_eq_true weightless
  have count : (Arithmetic.ofInt? (found.length : Int) : Option Rat) =
      some ((found.length : Int) : Rat) := rfl
  have part : Arithmetic.truncate? (draw * ((found.length : Int) : Rat)) =
      some ⌊draw * found.length⌋ := truncate?_eq_floor (by positivity)
  simp only [pick, sum, light, count, if_true, wholePart, part]
  rfl

theorem pick_weighted {first : Candidate α Rat} {rest : List (Candidate α Rat)} {draw : Rat}
    (heavy : 0 < (weightsOf (first :: rest)).sum) :
    pick (first :: rest) draw =
      .ok (reach (draw * (weightsOf (first :: rest)).sum) 0 first (first :: rest)) := by
  have sum : total ((first :: rest).map (·.weight)) = (weightsOf (first :: rest)).sum := total_eq_sum _
  have weighted : Arithmetic.atMost (weightsOf (first :: rest)).sum Arithmetic.zero = false :=
    decide_eq_false heavy.not_ge
  simp only [pick, sum, weighted]
  rfl

theorem floor_mul_lt {draw : Rat} {size : Nat} (filled : 0 < size) (lower : 0 ≤ draw)
    (upper : draw < 1) : 0 ≤ ⌊draw * size⌋ ∧ ⌊draw * size⌋ < size := by
  have positive : (0 : Rat) < size := by exact_mod_cast filled
  exact ⟨Int.floor_nonneg.2 (by positivity),
    Int.floor_lt.2 (by exact_mod_cast mul_lt_of_lt_one_left positive upper)⟩

/-- Every draw from zero on and below one picks a candidate; the one that stands for the end of the
scan is never what decides. -/
theorem pick_eq {found : List (Candidate α Rat)} {draw : Rat} (filled : found ≠ [])
    (lower : 0 ≤ draw) (upper : draw < 1) :
    ∃ (place : Nat) (inside : place < found.length),
      pick found draw = .ok found[place] ∧ PicksAt (weightsOf found) draw place ∧
      (0 < (weightsOf found).sum →
        ∀ last, reach (draw * (weightsOf found).sum) 0 last found = found[place]) := by
  rcases le_or_gt (weightsOf found).sum 0 with light | heavy
  · -- the part of the count is a place already, so that its bound by the last place does nothing
    obtain ⟨above, below⟩ := floor_mul_lt (List.length_pos_of_ne_nil filled) lower upper
    obtain ⟨place, drawn⟩ := Int.eq_ofNat_of_zero_le above
    have inside : place < found.length := by omega
    refine ⟨place, inside, ?_, ⟨by simpa using inside, fun heavy => absurd heavy light.not_gt,
      fun heavy => absurd heavy light.not_gt, fun _ => by rw [length_weightsOf, drawn]⟩,
      fun heavy => absurd heavy light.not_gt⟩
    have same : min ⌊draw * found.length⌋ ((found.length : Int) - 1) = place := by omega
    rw [pick_weightless lower light, same, candidateAt_eq inside]
  · obtain ⟨first, rest, rfl⟩ := List.exists_cons_of_ne_nil filled
    have covered : draw * (weightsOf (first :: rest)).sum ≤ 0 + (weightsOf (first :: rest)).sum := by
      rw [zero_add]
      exact mul_le_of_le_one_left heavy.le upper.le
    obtain ⟨place, inside, scanned, reaches, earlier⟩ := reach_eq filled covered
    simp only [zero_add] at reaches earlier
    refine ⟨place, inside, ?_, ⟨by simpa using inside, fun _ => reaches, fun _ => earlier,
      fun light => absurd light heavy.ne'⟩, fun _ => scanned⟩
    rw [pick_weighted heavy, scanned]

end Picking

/-! ## The parts of a range -/

section Ranges

theorem wholePart_floor (number : Rat) :
    wholePart (Arithmetic.floor? : Rat → Option Int) number = .ok ⌊number⌋ := rfl

/-- A draw leads to an integer below a width exactly if it lies in the part of that integer. -/
theorem floor_mul_eq_iff {draw width : Rat} (positive : 0 < width) {whole : Int} :
    ⌊draw * width⌋ = whole ↔ draw ∈ Set.Ico (whole / width) ((whole + 1) / width) := by
  rw [Int.floor_eq_iff, Set.mem_Ico, div_le_iff₀ positive, lt_div_iff₀ positive]

theorem placeInRange_eq (minimum maximum : Int) (draw : Rat) :
    placeInRange minimum maximum draw =
      .ok (⌊draw * ((maximum - minimum + 1 : Int) : Rat)⌋ + minimum) := rfl

/-- A draw leads to a place of a range exactly if it lies in the part of that place. -/
theorem placeInRange_eq_ok_iff {minimum maximum : Int} (ordered : minimum ≤ maximum)
    {draw : Rat} {place : Int} :
    placeInRange minimum maximum draw = .ok place ↔
      draw ∈ Set.Ico (((place : Rat) - minimum) / (maximum - minimum + 1))
        ((place - minimum + 1) / (maximum - minimum + 1)) := by
  have positive : (0 : Rat) < (maximum - minimum + 1 : Int) := by
    exact_mod_cast (by omega : 0 < maximum - minimum + 1)
  have part : ⌊draw * ((maximum - minimum + 1 : Int) : Rat)⌋ = place - minimum ↔ _ :=
    floor_mul_eq_iff positive
  push_cast at part
  rw [placeInRange_eq, Except.ok.injEq, ← part]
  push_cast
  omega

/-- The places that the draws lead to are those from the first of the range to the last. -/
theorem bounds_of_placeInRange {minimum maximum : Int} (ordered : minimum ≤ maximum)
    {draw : Rat} (nonneg : 0 ≤ draw) (below : draw < 1) {place : Int}
    (led : placeInRange minimum maximum draw = .ok place) :
    minimum ≤ place ∧ place ≤ maximum := by
  have positive : (0 : Rat) < (maximum - minimum + 1 : Int) := by
    exact_mod_cast (by omega : 0 < maximum - minimum + 1)
  rw [placeInRange_eq, Except.ok.injEq] at led
  have low : 0 ≤ ⌊draw * ((maximum - minimum + 1 : Int) : Rat)⌋ :=
    Int.floor_nonneg.2 (mul_nonneg nonneg positive.le)
  have high : ⌊draw * ((maximum - minimum + 1 : Int) : Rat)⌋ < maximum - minimum + 1 :=
    Int.floor_lt.2 (mul_lt_of_lt_one_left positive below)
  omega

theorem ordered_above_int {left right : Int} (ordered : left ≤ right) :
    Datum.ordered .above (.int left) (.int right) = .ok false := by
  simp only [Datum.ordered, Datum.numbersOrdered, Datum.quantity?]
  unfold Quantity.compare? Quantity.less Quantity.equal
  rcases Int.le_iff_lt_or_eq.1 ordered with less | rfl
  · simp [less, Comparison.holds]
  · simp [Comparison.holds]

/-- Between integers in order there is one draw, and it leads to a place between them. -/
theorem betweenBounds_int {minimum maximum : Int} (ordered : minimum ≤ maximum) :
    betweenBounds (.int minimum) (.int maximum) =
      .draw fun value => .done ((placeInRange minimum maximum value).map Datum.int) := by
  unfold betweenBounds
  rw [ordered_above_int ordered]
  rfl

end Ranges

end Colloquy.Selection
