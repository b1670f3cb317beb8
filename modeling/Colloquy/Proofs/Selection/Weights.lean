import Colloquy.Proofs.Number.Doubles
import Colloquy.Proofs.Unique.Choice
import Mathlib.Algebra.BigOperators.Group.List.Basic
import Mathlib.Algebra.Order.BigOperators.Group.List

/-!
# Weights as rational numbers

What it means that the weights of options are accepted, and which weights the options then have.
Read as rational numbers these are none below zero.
-/

set_option autoImplicit false

namespace Colloquy.Selection

@[simp]
theorem Choice.item_map {α β : Type} (change : α → β) (choice : Choice α) :
    (choice.map change).item = change choice.item := by
  cases choice <;> rfl

@[simp]
theorem Choice.weight?_map {α β : Type} (change : α → β) (choice : Choice α) :
    (choice.map change).weight? = choice.weight? := by
  cases choice <;> rfl

section Accepted

variable {α κ : Type} [Arithmetic κ]

/-- The weight that an option has of its own, if any. -/
def ownWeight (choice : Choice α) : Option κ :=
  choice.weight?.bind fun weight => (readWeight weight).toOption

@[simp]
theorem ownWeight_map {β : Type} (change : α → β) (choice : Choice α) :
    (ownWeight (choice.map change) : Option κ) = ownWeight choice := by
  simp [ownWeight]

def ownWeights (choices : List (Choice α)) : List (Option κ) := choices.map ownWeight

theorem ownWeights_congr {β : Type} {choices : List (Choice α)} {others : List (Choice β)}
    (same : choices.map Choice.weight? = others.map Choice.weight?) :
    (ownWeights choices : List (Option κ)) = ownWeights others := by
  have read := congrArg (List.map fun weight => weight.bind fun weight : Datum =>
    (readWeight weight : Except WeightFault κ).toOption) same
  simp only [List.map_map] at read
  exact read

/-- The sum of the weights that options have of their own. -/
def explicit (own : List (Option κ)) : κ := total (own.filterMap id)

/-- What each option without a weight of its own gets. -/
def evenShare (own : List (Option κ)) : κ := share (explicit own) (own.countP Option.isNone)

/-- An option with its own weight or, if it has none, with an even share. -/
def weigh (even : κ) (choice : Choice α) : α × κ := (choice.item, (ownWeight choice).getD even)

variable (κ) in
def IsReadable (choice : Choice α) : Prop :=
  ∀ weight, choice.weight? = some weight → ∃ number : κ, readWeight weight = .ok number

variable (κ) in
/-- The options have weights of their own that do not exceed the whole. -/
structure Weighs (choices : List (Choice α)) : Prop where
  filled : choices ≠ []
  readable : ∀ choice ∈ choices, IsReadable κ choice
  bounded : Arithmetic.below (Arithmetic.one + Arithmetic.tolerance)
    (explicit (ownWeights choices : List (Option κ))) = false

theorem readWeights_eq_ok {choices : List (Choice α)} {read : List (α × Option κ)} :
    readWeights choices = .ok read ↔ (∀ choice ∈ choices, IsReadable κ choice) ∧
      read = choices.map fun choice => (choice.item, ownWeight choice) := by
  induction choices generalizing read with
  | nil => simp [readWeights, eq_comm]
  | cons choice choices ih =>
      simp only [List.forall_mem_cons, List.map_cons]
      cases given : choice.weight? with
      | none =>
          have readable : IsReadable κ choice := fun weight same => by simp [given] at same
          have own : (ownWeight choice : Option κ) = none := by simp [ownWeight, given]
          have step : (readWeights (choice :: choices) : Except WeightFault (List (α × Option κ))) =
              readWeights choices >>= fun rest => .ok ((choice.item, none) :: rest) := by
            rw [readWeights, given]
            rfl
          rw [step, bind_eq_ok, own]
          constructor
          · rintro ⟨rest, known, same⟩
            cases same
            obtain ⟨others, rfl⟩ := ih.1 known
            exact ⟨⟨readable, others⟩, rfl⟩
          · rintro ⟨⟨-, others⟩, rfl⟩
            exact ⟨_, ih.2 ⟨others, rfl⟩, rfl⟩
      | some weight =>
          have step : (readWeights (choice :: choices) : Except WeightFault (List (α × Option κ))) =
              readWeight weight >>= fun number =>
                readWeights choices >>= fun rest => .ok ((choice.item, some number) :: rest) := by
            rw [readWeights, given]
            rfl
          rw [step, bind_eq_ok]
          constructor
          · rintro ⟨number, valid, more⟩
            obtain ⟨rest, known, same⟩ := bind_eq_ok.1 more
            cases same
            obtain ⟨others, rfl⟩ := ih.1 known
            refine ⟨⟨fun other same => ⟨number, ?_⟩, others⟩, ?_⟩
            · cases given.symm.trans same
              exact valid
            · simp [ownWeight, given, valid, Except.toOption]
          · rintro ⟨⟨readable, others⟩, rfl⟩
            obtain ⟨number, valid⟩ := readable weight given
            have own : ownWeight choice = some number := by
              simp [ownWeight, given, valid, Except.toOption]
            exact ⟨number, valid, bind_eq_ok.2 ⟨_, ih.2 ⟨others, rfl⟩, by rw [own]⟩⟩

/-- Weights are accepted if they can be read and do not exceed the whole. -/
theorem normalizeWeights_eq_ok {choices : List (Choice α)} {weighed : List (α × κ)} :
    normalizeWeights choices = .ok weighed ↔ Weighs κ choices ∧
      weighed = choices.map (weigh (evenShare (ownWeights choices))) := by
  have own : (choices.map fun choice => (choice.item, (ownWeight choice : Option κ))).filterMap (·.2) =
      (ownWeights choices).filterMap id := by
    simp only [ownWeights, List.filterMap_map]
    rfl
  have missing : ((choices.map fun choice => (choice.item, (ownWeight choice : Option κ))).countP
      fun pair => pair.2.isNone) = (ownWeights choices : List (Option κ)).countP Option.isNone := by
    simp only [ownWeights, List.countP_map]
    rfl
  constructor
  · intro accepted
    have filled : choices ≠ [] := by
      rintro rfl
      cases accepted
    rw [normalizeWeights, if_neg (by simpa using filled)] at accepted
    obtain ⟨read, known, accepted⟩ := bind_eq_ok.1 accepted
    obtain ⟨readable, rfl⟩ := readWeights_eq_ok.1 known
    simp only [own, missing] at accepted
    split at accepted
    · cases accepted
    next bounded =>
      cases accepted
      refine ⟨⟨filled, readable, by simpa [explicit] using bounded⟩, ?_⟩
      rw [List.map_map]
      rfl
  · rintro ⟨weighs, rfl⟩
    rw [normalizeWeights, if_neg (by simpa using weighs.filled)]
    refine bind_eq_ok.2 ⟨_, readWeights_eq_ok.2 ⟨weighs.readable, rfl⟩, ?_⟩
    have bounded := weighs.bounded
    unfold explicit at bounded
    simp only [own, missing, bounded]
    simp [List.map_map, Function.comp_def, weigh, evenShare, explicit, pure, Except.pure]

theorem normalizeWeights_of_weights {choices : List (Choice α)} {weights : List κ}
    (known : (normalizeWeights choices).toOption.map (List.map Prod.snd) = some weights) :
    normalizeWeights choices = .ok ((choices.map Choice.item).zip weights) := by
  cases accepted : (normalizeWeights choices : Except WeightFault (List (α × κ))) with
  | error fault =>
      rw [accepted] at known
      cases known
  | ok weighed =>
      rw [accepted] at known
      cases known
      rw [← items_of_normalizeWeights accepted, ← List.unzip_fst, ← List.unzip_snd, List.zip_unzip]

end Accepted

section Rational

theorem total_eq_sum (numbers : List Rat) : total numbers = numbers.sum :=
  List.sum_eq_foldl.symm

theorem readWeight_bounded {weight : Datum} {number : Rat} (read : readWeight weight = .ok number) :
    0 ≤ number ∧ number ≤ 1 := by
  unfold readWeight at read
  split at read
  next value =>
    have whole : (Arithmetic.ofInt? value : Option Rat) = some (value : Rat) := rfl
    rw [whole] at read
    split at read
    next same =>
      cases same
      split at read
      · cases read
      next bounded =>
        cases read
        have bounds : 0 ≤ value ∧ value ≤ 1 := by omega
        exact ⟨by exact_mod_cast bounds.1, by exact_mod_cast bounds.2⟩
    · cases read
  next value =>
    split at read
    · cases read
    next bounded =>
      cases read
      simp only [Bool.or_eq_true, decide_eq_true_eq, not_or, Bool.not_eq_true] at bounded
      rw [show Arithmetic.ofFloat value = _ from Number.quotient_fraction? value]
      exact Number.rational_bounded bounded.1.1 bounded.1.2 bounded.2
  · cases read

variable {α : Type} {choices : List (Choice α)} {own : List (Option Rat)}

theorem ownWeight_nonneg {choice : Choice α} {number : Rat} (own : ownWeight choice = some number) :
    0 ≤ number := by
  obtain ⟨weight, -, read⟩ := Option.bind_eq_some_iff.1 own
  cases known : (readWeight weight : Except WeightFault Rat) with
  | error fault =>
      rw [known] at read
      cases read
  | ok value =>
      rw [known] at read
      cases read
      exact (readWeight_bounded known).1

theorem ownWeights_nonneg {number : Rat} (member : some number ∈ ownWeights choices) : 0 ≤ number := by
  obtain ⟨choice, -, own⟩ := List.mem_map.1 member
  exact ownWeight_nonneg own

theorem explicit_eq_sum (own : List (Option Rat)) : explicit own = (own.filterMap id).sum :=
  total_eq_sum _

/-- An option without a weight of its own gets an even share of what is left of one. -/
theorem evenShare_eq (own : List (Option Rat)) :
    evenShare own = max 0 (1 - explicit own) / own.countP Option.isNone := by
  have count : (Arithmetic.ofInt? (own.countP Option.isNone : Int) : Option Rat) =
    some ((own.countP Option.isNone : Int) : Rat) := rfl
  have remaining : (if Arithmetic.below Arithmetic.zero (Arithmetic.one - explicit own) then
      Arithmetic.one - explicit own else Arithmetic.zero) = max 0 (1 - explicit own) := by
    show (if decide ((0 : Rat) < 1 - explicit own) = true then 1 - explicit own else 0) = _
    rw [max_def_lt]
    simp
  unfold evenShare share
  simp only [count]
  rw [remaining]
  split
  next none_missing =>
    rw [none_missing, Nat.cast_zero, div_zero]
    rfl
  · simp

theorem evenShare_nonneg (own : List (Option Rat)) : 0 ≤ evenShare own := by
  rw [evenShare_eq]
  positivity

theorem nonneg_of_normalizeWeights {weighed : List (α × Rat)}
    (accepted : normalizeWeights choices = .ok weighed) : ∀ pair ∈ weighed, 0 ≤ pair.2 := by
  obtain ⟨-, rfl⟩ := normalizeWeights_eq_ok.1 accepted
  intro pair member
  obtain ⟨choice, -, rfl⟩ := List.mem_map.1 member
  unfold weigh
  cases own : (ownWeight choice : Option Rat) with
  | none => exact evenShare_nonneg _
  | some number => exact ownWeight_nonneg own

/-- The weights of some options are accepted if those of all options are. -/
theorem Weighs.filter (weighs : Weighs Rat choices) {leaves : Choice α → Bool}
    (filled : choices.filter leaves ≠ []) : Weighs Rat (choices.filter leaves) where
  filled := filled
  readable choice member := weighs.readable choice (List.mem_of_mem_filter member)
  bounded := by
    have nonneg : ∀ number ∈ (ownWeights choices : List (Option Rat)).filterMap id, 0 ≤ number := by
      intro number member
      exact ownWeights_nonneg (by simpa using member)
    have sublist : (ownWeights (choices.filter leaves) : List (Option Rat)).Sublist
        (ownWeights choices) := List.filter_sublist.map _
    have less : explicit (ownWeights (choices.filter leaves) : List (Option Rat)) ≤
        explicit (ownWeights choices) := by
      rw [explicit_eq_sum, explicit_eq_sum]
      exact (sublist.filterMap id).sum_le_sum nonneg
    have all := weighs.bounded
    simp only [Arithmetic.below, decide_eq_false_iff_not, not_lt] at all ⊢
    exact less.trans all

end Rational

end Colloquy.Selection
