import Colloquy.Proofs.Selection.Shares

/-!
# What normalizing makes of weights

Options are refused if there are none, if one of them has a weight that is no number from zero to one,
or if their weights exceed the whole by more than the tolerance. Other options keep the weights that
they have, and those without one share evenly what the others leave of the whole.
-/

set_option autoImplicit false

namespace Colloquy

open Number (fraction? rational)

namespace Number

theorem isSome_fraction? (value : Float) :
    (fraction? value).isSome = value.toModel.unpack.isFinite := by
  rw [fraction?, Binary64.ofFloat_eq_ofUnpacked]
  cases value.toModel.unpack <;> rfl

/-- A double is from zero to one exactly if it stands for such a number. -/
theorem bounded_iff_rational (value : Float) :
    value.isNaN = false ∧ ¬value < 0 ∧ ¬1 < value ↔
      value.toModel.unpack.isFinite = true ∧
        0 ≤ rational value.toModel.unpack ∧ rational value.toModel.unpack ≤ 1 := by
  constructor
  · rintro ⟨number, lower, upper⟩
    exact ⟨isFinite_of_bounded number lower upper, rational_bounded number lower upper⟩
  · rintro ⟨finite, lower, upper⟩
    refine ⟨?_, ?_, ?_⟩
    · show value.toModel.unpack.isNaN = false
      cases unpacked : value.toModel.unpack <;> first | rfl | (rw [unpacked] at finite; cases finite)
    · rw [lt_iff_rational finite rfl]
      exact not_lt.2 lower
    · rw [lt_iff_rational rfl finite, rational_one]
      exact not_lt.2 upper

end Number

namespace Selection

/-- The number that a weight is, if it is an integer or a finite double. -/
def numberOf? : Datum → Option Rat
  | .int value => some value
  | .float value => (fraction? value).map fun part => (part.1 : Rat) / part.2
  | _ => none

/-- A weight that an option may have: a number from zero to one. -/
def IsWeight (weight : Datum) : Prop :=
  ∃ number, numberOf? weight = some number ∧ 0 ≤ number ∧ number ≤ 1

/-- The weight is no integer that is too large for a double. -/
def FitsDouble (weight : Datum) : Prop :=
  ∀ value, weight = .int value → (Number.ofInt? value).isSome = true

theorem numberOf?_float {value : Float} {number : Rat} :
    numberOf? (.float value) = some number ↔
      value.toModel.unpack.isFinite = true ∧ number = rational value.toModel.unpack := by
  rw [← Number.isSome_fraction?, ← Number.quotient_fraction?]
  unfold numberOf?
  rcases found : fraction? value with _ | ⟨num, den⟩
  · simp [found]
  · simp [found, eq_comm]

/-- A weight is accepted as the number that it is, or refused as no number from zero to one. -/
theorem readWeight_cases {weight : Datum} (fits : FitsDouble weight) :
    (∃ number, numberOf? weight = some number ∧ 0 ≤ number ∧ number ≤ 1 ∧
        readWeight weight = .ok number) ∨
      ¬IsWeight weight ∧ ∃ fault, (readWeight weight : Except WeightFault Rat) = .error fault ∧
        fault.family = .invalidWeight := by
  cases weight with
  | int value =>
      obtain ⟨double, small⟩ := Option.isSome_iff_exists.1 (fits value rfl)
      have read : (readWeight (.int value) : Except WeightFault Rat) =
          if value < 0 ∨ 1 < value then .error (.outOfRange (.int value)) else .ok (value : Rat) := by
        rw [readWeight, small]
        rfl
      rw [read]
      by_cases outside : value < 0 ∨ 1 < value
      · refine .inr ⟨?_, .outOfRange (.int value), if_pos outside, rfl⟩
        rintro ⟨number, same, lower, upper⟩
        cases same
        rcases outside with below | above
        · exact absurd (by exact_mod_cast lower) below.not_ge
        · exact absurd (by exact_mod_cast upper) above.not_ge
      · have inside : 0 ≤ value ∧ value ≤ 1 := by omega
        exact .inl ⟨value, rfl, by exact_mod_cast inside.1, by exact_mod_cast inside.2, if_neg outside⟩
  | float value =>
      have read : (readWeight (.float value) : Except WeightFault Rat) =
          if value.isNaN || value < 0 || value > 1 then .error (.outOfRange (.float value))
          else .ok (rational value.toModel.unpack) := by
        rw [readWeight, ← Number.quotient_fraction?]
        rfl
      have bounded := Number.bounded_iff_rational value
      rw [read]
      by_cases inside : value.isNaN = false ∧ ¬value < 0 ∧ ¬1 < value
      · obtain ⟨finite, lower, upper⟩ := bounded.1 inside
        refine .inl ⟨_, numberOf?_float.2 ⟨finite, rfl⟩, lower, upper, if_neg ?_⟩
        simpa [not_or, and_assoc] using inside
      · refine .inr ⟨?_, .outOfRange (.float value), if_pos ?_, rfl⟩
        · rintro ⟨number, same, lower, upper⟩
          obtain ⟨finite, rfl⟩ := numberOf?_float.1 same
          exact inside (bounded.2 ⟨finite, lower, upper⟩)
        · by_contra accepted
          exact inside (by simpa [not_or, and_assoc] using accepted)
  | _ => exact .inr ⟨(fun ⟨_, same, _⟩ => nomatch same), _, rfl, rfl⟩

section Options

variable {α : Type} {choices : List (Choice α)}

/-- The number that the weight of an option is, if it has one. -/
def givenWeight (choice : Choice α) : Option Rat := choice.weight?.bind numberOf?

/-- The sum of the weights that options have. -/
def givenTotal (choices : List (Choice α)) : Rat := (choices.filterMap givenWeight).sum

/-- How many options have no weight. -/
def unweighted (choices : List (Choice α)) : Nat :=
  choices.countP fun choice => choice.weight?.isNone

/-- All weights that options have are numbers from zero to one. -/
def HaveWeights (choices : List (Choice α)) : Prop :=
  ∀ choice ∈ choices, ∀ weight, choice.weight? = some weight → IsWeight weight

def FitDoubles (choices : List (Choice α)) : Prop :=
  ∀ choice ∈ choices, ∀ weight, choice.weight? = some weight → FitsDouble weight

theorem isReadable_iff (fits : FitDoubles choices) {choice : Choice α} (member : choice ∈ choices) :
    IsReadable Rat choice ↔ ∀ weight, choice.weight? = some weight → IsWeight weight := by
  refine forall₂_congr fun weight given => ?_
  rcases readWeight_cases (fits choice member weight given) with
    ⟨number, same, lower, upper, read⟩ | ⟨none, fault, refused, -⟩
  · exact iff_of_true ⟨number, read⟩ ⟨number, same, lower, upper⟩
  · refine iff_of_false ?_ none
    rintro ⟨number, read⟩
    cases refused.symm.trans read

theorem readable_iff (fits : FitDoubles choices) :
    (∀ choice ∈ choices, IsReadable Rat choice) ↔ HaveWeights choices :=
  forall₂_congr fun _ member => isReadable_iff fits member

theorem ownWeight_eq (fits : FitDoubles choices) (have_weights : HaveWeights choices)
    {choice : Choice α} (member : choice ∈ choices) :
    ownWeight choice = givenWeight choice := by
  unfold ownWeight givenWeight
  cases given : choice.weight? with
  | none => rfl
  | some weight =>
      rcases readWeight_cases (fits choice member weight given) with
        ⟨number, same, -, -, read⟩ | ⟨none, -⟩
      · simp [read, same, Except.toOption]
      · exact absurd (have_weights choice member weight given) none

theorem ownWeights_eq (fits : FitDoubles choices) (have_weights : HaveWeights choices) :
    ownWeights choices = choices.map givenWeight :=
  List.map_congr_left fun _ member => ownWeight_eq fits have_weights member

theorem raises_readWeights (fits : FitDoubles choices) :
    Raises (fun fault => fault.family = .invalidWeight)
      (readWeights choices : Except WeightFault (List (α × Option Rat))) := by
  induction choices with
  | nil => exact .ok []
  | cons choice choices ih =>
      have rest := ih fun other member => fits other (List.mem_cons_of_mem _ member)
      unfold readWeights
      cases given : choice.weight? with
      | none => exact rest.bind fun _ _ => .ok _
      | some weight =>
          refine Raises.bind ?_ fun _ _ => rest.bind fun _ _ => .ok _
          rcases readWeight_cases (fits choice List.mem_cons_self weight given) with
            ⟨number, -, -, -, read⟩ | ⟨-, fault, refused, family⟩
          · rw [read]
            exact .ok number
          · rw [refused]
            exact .error family

/-- The weights that options have make up their total, and an even share for the others the rest. -/
theorem sum_spread (even : Rat) (own : List (Option Rat)) :
    (spread even own).sum = (own.filterMap id).sum + own.countP Option.isNone * even := by
  induction own with
  | nil => simp [spread]
  | cons given own ih =>
      cases given with
      | none =>
          simp only [spread, List.map_cons, Option.getD_none, List.sum_cons] at ih ⊢
          simp [ih]
          ring
      | some number =>
          simp only [spread, List.map_cons, Option.getD_some, List.sum_cons] at ih ⊢
          simp [ih]
          ring

theorem explicit_ownWeights (fits : FitDoubles choices) (have_weights : HaveWeights choices) :
    explicit (ownWeights choices) = givenTotal choices := by
  rw [ownWeights_eq fits have_weights, explicit_eq_sum, List.filterMap_map]
  rfl

theorem countP_ownWeights (fits : FitDoubles choices) (have_weights : HaveWeights choices) :
    (ownWeights choices : List (Option Rat)).countP Option.isNone = unweighted choices := by
  rw [ownWeights_eq fits have_weights, List.countP_map]
  refine List.countP_congr fun choice member => ?_
  unfold givenWeight Function.comp
  cases given : choice.weight? with
  | none => simp [given]
  | some weight =>
      obtain ⟨number, same, -⟩ := have_weights choice member weight given
      simp [given, same]

/-- The kind of error that the weights of options are refused with, if they are. -/
def refusal? (choices : List (Choice α)) : Option ErrorFamily :=
  match (normalizeWeights choices : Except WeightFault (List (α × Rat))) with
  | .ok _ => none
  | .error fault => some fault.family

theorem refusal?_of_not_haveWeights (fits : FitDoubles choices) (filled : choices ≠ [])
    (none : ¬HaveWeights choices) : refusal? choices = some .invalidWeight := by
  have refused : ∃ fault, (readWeights choices : Except WeightFault (List (α × Option Rat))) =
      .error fault := by
    cases read : (readWeights choices : Except WeightFault (List (α × Option Rat))) with
    | error fault => exact ⟨fault, rfl⟩
    | ok known => exact absurd ((readable_iff fits).1 (readWeights_eq_ok.1 read).1) none
  obtain ⟨fault, refused⟩ := refused
  have family := raises_readWeights fits fault refused
  rw [refusal?, normalizeWeights, if_neg (by simpa using filled), refused]
  exact congrArg some family

theorem refusal?_of_excess (fits : FitDoubles choices) (filled : choices ≠ [])
    (have_weights : HaveWeights choices)
    (excess : 1 + Arithmetic.tolerance < givenTotal choices) :
    refusal? choices = some .invalidWeightTotal := by
  have read := readWeights_eq_ok.2 ⟨(readable_iff fits).2 have_weights, rfl⟩
  have total : total ((choices.map fun choice => (choice.item, (ownWeight choice : Option Rat))).filterMap
      (·.2)) = givenTotal choices := by
    rw [← explicit_ownWeights fits have_weights, explicit, ownWeights, List.filterMap_map,
      List.filterMap_map]
    rfl
  have above : Arithmetic.below (Arithmetic.one + Arithmetic.tolerance) (givenTotal choices) = true :=
    decide_eq_true excess
  rw [refusal?, normalizeWeights, if_neg (by simpa using filled), read]
  simp only [bind, Except.bind, total, above]
  rfl

/-- Options that are not refused have their weights, or an even share of what these leave. -/
theorem normalizeWeights_of_within (fits : FitDoubles choices) (filled : choices ≠ [])
    (have_weights : HaveWeights choices)
    (within : givenTotal choices ≤ 1 + Arithmetic.tolerance) :
    normalizeWeights choices = .ok (choices.map fun choice =>
      (choice.item, (givenWeight choice).getD
        (max 0 (1 - givenTotal choices) / unweighted choices))) := by
  refine normalizeWeights_eq_ok.2 ⟨⟨filled, (readable_iff fits).2 have_weights, ?_⟩, ?_⟩
  · rw [explicit_ownWeights fits have_weights]
    exact decide_eq_false within.not_gt
  · refine List.map_congr_left fun choice member => ?_
    rw [weigh, ownWeight_eq fits have_weights member, evenShare_eq,
      explicit_ownWeights fits have_weights, countP_ownWeights fits have_weights]

theorem givenWeight_bounded (have_weights : HaveWeights choices) {choice : Choice α}
    (member : choice ∈ choices) {number : Rat} (given : givenWeight choice = some number) :
    0 ≤ number ∧ number ≤ 1 := by
  obtain ⟨weight, known, same⟩ := Option.bind_eq_some_iff.1 given
  obtain ⟨other, same', bounds⟩ := have_weights choice member weight known
  cases same.symm.trans same'
  exact bounds

theorem givenTotal_nonneg (have_weights : HaveWeights choices) : 0 ≤ givenTotal choices := by
  refine List.sum_nonneg fun number member => ?_
  obtain ⟨choice, among, given⟩ := List.mem_filterMap.1 member
  exact (givenWeight_bounded have_weights among given).1

theorem share_bounded (have_weights : HaveWeights choices) (count : Nat) :
    0 ≤ max 0 (1 - givenTotal choices) / count ∧ max 0 (1 - givenTotal choices) / count ≤ 1 := by
  have lower := givenTotal_nonneg have_weights
  have left : max 0 (1 - givenTotal choices) ≤ 1 := max_le zero_le_one (by linarith)
  refine ⟨by positivity, ?_⟩
  rcases Nat.eq_zero_or_pos count with rfl | positive
  · simp
  · have many : (1 : Rat) ≤ count := by exact_mod_cast positive
    exact div_le_one_of_le₀ (left.trans many) (by positivity)

/-- The weights make up the whole if an option takes what the others leave, and more only if the
others do. -/
theorem sum_shares (fits : FitDoubles choices) (have_weights : HaveWeights choices) :
    (choices.map fun choice => (givenWeight choice).getD
        (max 0 (1 - givenTotal choices) / unweighted choices)).sum =
      if unweighted choices = 0 then givenTotal choices else max 1 (givenTotal choices) := by
  have sum := sum_spread (max 0 (1 - givenTotal choices) / unweighted choices)
    (choices.map givenWeight)
  have count := countP_ownWeights fits have_weights
  rw [ownWeights_eq fits have_weights] at count
  have whole : ((choices.map givenWeight).filterMap id).sum = givenTotal choices := by
    rw [List.filterMap_map]
    rfl
  rw [spread, List.map_map, count, whole] at sum
  rw [show (choices.map fun choice => (givenWeight choice).getD _).sum = _ from sum]
  split
  next none => simp [none]
  next some_left =>
    have positive : (unweighted choices : Rat) ≠ 0 := by exact_mod_cast some_left
    rw [mul_div_cancel₀ _ positive, ← max_add_add_left, add_zero, add_sub_cancel, max_comm]

end Options

/-- Weights are refused exactly if there are no options, if the weight of one is no number from zero
to one, or if all of them exceed the whole by more than the tolerance. Otherwise each option keeps its
weight, and those without one share evenly what is left. -/
theorem normalizes_or_refuses {α : Type} (choices : List (Choice α)) (fits : FitDoubles choices) :
    (refusal? choices = some .validation ↔ choices = []) ∧
    (refusal? choices = some .invalidWeight ↔
      ∃ choice ∈ choices, ∃ weight, choice.weight? = some weight ∧ ¬IsWeight weight) ∧
    (refusal? choices = some .invalidWeightTotal ↔
      HaveWeights choices ∧ 1 + Arithmetic.tolerance < givenTotal choices) ∧
    (choices ≠ [] → HaveWeights choices → givenTotal choices ≤ 1 + Arithmetic.tolerance →
      ∃ weighed, normalizeWeights choices = .ok weighed ∧
        weighed = (choices.map fun choice => (choice.item, (givenWeight choice).getD
          (max 0 (1 - givenTotal choices) / unweighted choices))) ∧
        (∀ pair ∈ weighed, 0 ≤ pair.2 ∧ pair.2 ≤ 1) ∧
        (weighed.map Prod.snd).sum =
          if unweighted choices = 0 then givenTotal choices else max 1 (givenTotal choices)) := by
  have lacks_iff : (∃ choice ∈ choices, ∃ weight, choice.weight? = some weight ∧ ¬IsWeight weight) ↔
      ¬HaveWeights choices := by
    simp [HaveWeights]
  rw [lacks_iff]
  refine and_assoc.1 (and_assoc.1 ⟨?_, fun filled have_weights within => ?_⟩)
  · rcases eq_or_ne choices [] with rfl | filled
    · have none : HaveWeights ([] : List (Choice α)) := fun _ member => nomatch member
      have nothing : ¬(1 + Arithmetic.tolerance < givenTotal ([] : List (Choice α))) := by
        show ¬((1 : Rat) + 1 / 1000000000 < 0)
        norm_num
      simp [none, nothing, refusal?, normalizeWeights, WeightFault.family]
    · by_cases have_weights : HaveWeights choices
      · rcases le_or_gt (givenTotal choices) (1 + Arithmetic.tolerance) with within | excess
        · have accepted := normalizeWeights_of_within fits filled have_weights within
          simp [filled, have_weights, within.not_gt, refusal?, accepted]
        · simp [filled, have_weights, excess, refusal?_of_excess fits filled have_weights excess]
      · simp [filled, have_weights, refusal?_of_not_haveWeights fits filled have_weights]
  · refine ⟨_, normalizeWeights_of_within fits filled have_weights within, rfl, ?_, ?_⟩
    · intro pair member
      obtain ⟨choice, among, rfl⟩ := List.mem_map.1 member
      dsimp only
      cases given : givenWeight choice with
      | none => exact share_bounded have_weights _
      | some number => exact givenWeight_bounded have_weights among given
    · rw [List.map_map]
      exact sum_shares fits have_weights

/-- A half of the weight is for the first letter, none for the second, the rest for both others. -/
def mixedLetters : List (Choice String) :=
  [.weighted "a" (.float 0.5), .entry "b" (some (.int 0)) true, .weighted "c" .null, .plain "d"]

theorem weights_mixedLetters {choice : Choice String} (member : choice ∈ mixedLetters) {weight : Datum}
    (given : choice.weight? = some weight) : weight = .float 0.5 ∨ weight = .int 0 := by
  simp only [mixedLetters, List.mem_cons, List.not_mem_nil, or_false] at member
  rcases member with rfl | rfl | rfl | rfl
  · exact .inl (Option.some.inj given).symm
  · exact .inr (Option.some.inj given).symm
  · cases given
  · cases given

theorem normalizes_or_refuses_mixedLetters : FitDoubles mixedLetters ∧
    ∃ weighed, normalizeWeights mixedLetters = .ok weighed ∧
      weighed = [("a", (1 / 2 : Rat)), ("b", 0), ("c", 1 / 4), ("d", 1 / 4)] ∧
      (weighed.map Prod.snd).sum = 1 := by
  have fits : FitDoubles mixedLetters := by
    rintro choice member weight given value rfl
    rcases weights_mixedLetters member given with same | same
    · cases same
    · cases same
      decide +kernel
  have have_weights : HaveWeights mixedLetters := by
    intro choice member weight given
    rcases weights_mixedLetters member given with rfl | rfl
    · exact ⟨1 / 2, by decide +kernel, by norm_num⟩
    · exact ⟨0, by decide +kernel, by norm_num⟩
  have total : givenTotal mixedLetters = 1 / 2 := by decide +kernel
  have within : givenTotal mixedLetters ≤ 1 + Arithmetic.tolerance := by
    rw [total]
    decide +kernel
  obtain ⟨-, -, -, accepts⟩ := normalizes_or_refuses mixedLetters fits
  obtain ⟨weighed, accepted, weights, -, sum⟩ :=
    accepts (List.cons_ne_nil _ _) have_weights within
  refine ⟨fits, weighed, accepted, ?_, ?_⟩
  · rw [weights]
    decide +kernel
  · rw [sum, total]
    decide +kernel

end Selection

end Colloquy
