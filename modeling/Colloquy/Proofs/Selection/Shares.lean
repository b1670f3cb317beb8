import Colloquy.Proofs.Selection.Intervals

/-!
# Weights that pick alike

Two lists of weights pick the same places only if each place has the same share of both, apart from
lists without any weight. So options with weights of their own and others with an even share are
picked by another even share as before only if nothing of it can be seen.
-/

set_option autoImplicit false

namespace Colloquy.Selection

variable {weights others : List Rat}

theorem PicksAt.exists {draw : Rat} (filled : weights ≠ []) (lower : 0 ≤ draw) (upper : draw < 1) :
    ∃ place, PicksAt weights draw place := by
  let found : List (Candidate Unit Rat) := weights.map fun weight => ⟨(), weight, none⟩
  have same : weightsOf found = weights := by simp [found, weightsOf, Function.comp_def]
  have listed : found ≠ [] := by simpa [found] using filled
  obtain ⟨place, -, -, picks, -⟩ := pick_eq listed lower upper
  exact ⟨place, same ▸ picks⟩

/-- Each draw picks the same place by both lists of weights. -/
def PickAlike (weights others : List Rat) : Prop :=
  ∀ draw, 0 ≤ draw → draw < 1 → ∃ place, PicksAt weights draw place ∧ PicksAt others draw place

namespace PickAlike

theorem symm (alike : PickAlike weights others) : PickAlike others weights := by
  intro draw lower upper
  obtain ⟨place, picks, picks'⟩ := alike draw lower upper
  exact ⟨place, picks', picks⟩

theorem refl (filled : weights ≠ []) : PickAlike weights weights := by
  intro draw lower upper
  obtain ⟨place, picks⟩ := PicksAt.exists filled lower upper
  exact ⟨place, picks, picks⟩

theorem scale {factor : Rat} (positive : 0 < factor) (filled : weights ≠ []) :
    PickAlike weights (weights.map (factor * ·)) := by
  intro draw lower upper
  obtain ⟨place, picks⟩ := PicksAt.exists filled lower upper
  exact ⟨place, picks, picks.scale positive⟩

theorem of_single {weight other : Rat} : PickAlike [weight] [other] := by
  intro draw lower upper
  obtain ⟨place, picks⟩ := PicksAt.exists (List.cons_ne_nil weight []) lower upper
  obtain ⟨place', picks'⟩ := PicksAt.exists (List.cons_ne_nil other []) lower upper
  have first : place = 0 := Nat.lt_one_iff.1 picks.inside
  have first' : place' = 0 := Nat.lt_one_iff.1 picks'.inside
  subst first first'
  exact ⟨0, picks, picks'⟩

/-- No interval ends later: a draw between the two ends would pick different places. -/
theorem end_le (alike : PickAlike weights others) (nonneg : ∀ weight ∈ weights, 0 ≤ weight)
    (nonneg' : ∀ weight ∈ others, 0 ≤ weight) (heavy : 0 < weights.sum) (heavy' : 0 < others.sum)
    (place : Nat) : before weights place / weights.sum ≤ before others place / others.sum := by
  by_contra later
  obtain ⟨draw, above, below⟩ := exists_between (not_le.1 later)
  have upto : before weights place / weights.sum ≤ 1 :=
    (div_le_one heavy).2 (before_within nonneg place).2
  have from_zero : 0 ≤ before others place / others.sum :=
    div_nonneg (before_within nonneg' place).1 heavy'.le
  obtain ⟨picked, picks, picks'⟩ := alike draw (from_zero.trans above.le) (below.trans_le upto)
  rw [lt_div_iff₀ heavy] at below
  rw [div_lt_iff₀ heavy'] at above
  -- by the first weights the draw is in front of the end, by the other ones behind it
  have front : picked + 1 ≤ place := by
    by_contra behind
    cases place with
    | zero =>
        rw [before_zero] at below
        exact below.not_ge (mul_nonneg (from_zero.trans (by
          rw [div_le_iff₀ heavy']
          exact above.le)) heavy.le)
    | succ earlier => exact below.not_gt (picks.first heavy earlier (by omega))
  exact above.not_ge ((picks'.reaches heavy').trans (before_mono nonneg' front))

theorem share_eq (alike : PickAlike weights others) (nonneg : ∀ weight ∈ weights, 0 ≤ weight)
    (nonneg' : ∀ weight ∈ others, 0 ≤ weight) (heavy : 0 < weights.sum) (heavy' : 0 < others.sum)
    {place : Nat} {weight other : Rat} (listed : weights[place]? = some weight)
    (listed' : others[place]? = some other) : weight / weights.sum = other / others.sum := by
  have ends (place : Nat) : before weights place / weights.sum = before others place / others.sum :=
    le_antisymm (alike.end_le nonneg nonneg' heavy heavy' place)
      (alike.symm.end_le nonneg' nonneg heavy' heavy place)
  obtain ⟨inside, rfl⟩ := List.getElem?_eq_some_iff.1 listed
  obtain ⟨inside', rfl⟩ := List.getElem?_eq_some_iff.1 listed'
  have next := ends (place + 1)
  rw [before_succ inside, before_succ inside', add_div, add_div, ends place] at next
  exact add_left_cancel next

/-- If all places are as likely by the first weights, which are none, the first place has some of the
other weights, but less than an average one. -/
theorem first_of_weightless (alike : PickAlike weights others) (several : 1 < weights.length)
    (light : weights.sum = 0) (heavy : 0 < others.sum) :
    0 < before others 1 ∧ before others 1 < others.sum / weights.length := by
  have count : (1 : Rat) < weights.length := by exact_mod_cast several
  have positive : (0 : Rat) < weights.length := by linarith
  constructor
  · obtain ⟨place, picks, picks'⟩ := alike (1 / (2 * weights.length)) (by positivity)
      ((div_lt_one (by positivity)).2 (by linarith))
    have first : (place : Int) = 0 := by
      rw [picks.even light, Int.floor_eq_zero_iff, div_mul_eq_mul_div, one_mul,
        div_mul_cancel_right₀ positive.ne']
      norm_num
    obtain rfl : place = 0 := by exact_mod_cast first
    exact (mul_pos (by positivity) heavy).trans_le (picks'.reaches heavy)
  · obtain ⟨place, picks, picks'⟩ := alike (1 / weights.length) (by positivity)
      ((div_lt_one positive).2 count)
    have second : (place : Int) = 1 := by
      rw [picks.even light, one_div_mul_cancel positive.ne', Int.floor_one]
    obtain rfl : place = 1 := by exact_mod_cast second
    rw [div_eq_inv_mul, ← one_div]
    exact picks'.first heavy 0 Nat.one_pos

end PickAlike

/-- The weights of options that get an even share if they have none of their own. -/
def spread (even : Rat) (own : List (Option Rat)) : List Rat := own.map fun weight => weight.getD even

section Spread

variable {even : Rat} {own : List (Option Rat)}

theorem spread_nonneg (nonneg : ∀ number, some number ∈ own → 0 ≤ number) (lower : 0 ≤ even) :
    ∀ weight ∈ spread even own, 0 ≤ weight := by
  intro weight member
  obtain ⟨given, among, rfl⟩ := List.mem_map.1 member
  cases given with
  | none => exact lower
  | some number => exact nonneg number among

@[simp]
theorem length_spread (even : Rat) (own : List (Option Rat)) : (spread even own).length = own.length :=
  List.length_map _

theorem spread_listed {place : Nat} {given : Option Rat} (listed : own[place]? = some given) :
    (spread even own)[place]? = some (given.getD even) := by
  simp [spread, listed]

theorem evenShare_pos (missing : none ∈ own) (idle : ∀ number, some number ∈ own → number = 0) :
    0 < evenShare own := by
  have none_explicit : explicit own = 0 := by
    rw [explicit_eq_sum]
    exact List.sum_eq_zero fun number member => idle number (by simpa using member)
  have counted : 0 < own.countP Option.isNone :=
    List.countP_pos_iff.2 ⟨none, missing, rfl⟩
  rw [evenShare_eq, none_explicit, sub_zero, max_eq_right zero_le_one]
  exact one_div_pos.2 (by exact_mod_cast counted)

/-- Options keep their shares of the weight with the even share among them alone: there is one option,
all of them have weights of their own, the even share stays the same, or only the options with an even
share have any weight. -/
def KeepsShares (even : Rat) (own : List (Option Rat)) : Prop :=
  own.length = 1 ∨ none ∉ own ∨ evenShare own = even ∨
    0 < even ∧ ∀ number, some number ∈ own → number = 0

theorem pickAlike_of_keepsShares (filled : own ≠ []) (keeps : KeepsShares even own) :
    PickAlike (spread even own) (spread (evenShare own) own) := by
  have same_of_all (all : none ∉ own) : spread (evenShare own) own = spread even own := by
    refine List.map_congr_left fun given member => ?_
    cases given with
    | none => exact absurd member all
    | some number => rfl
  have listed : spread even own ≠ [] := by simpa [spread] using filled
  rcases keeps with single | all | same | ⟨positive, idle⟩
  · obtain ⟨given, rfl⟩ := List.length_eq_one_iff.1 single
    exact .of_single
  · rw [same_of_all all]
    exact .refl listed
  · rw [same]
    exact .refl listed
  · by_cases missing : none ∈ own
    · have scaled : spread (evenShare own) own =
          (spread even own).map (evenShare own / even * ·) := by
        simp only [spread, List.map_map]
        refine List.map_congr_left fun given member => ?_
        cases given with
        | none => exact (div_mul_cancel₀ _ positive.ne').symm
        | some number => simp [idle number member]
      rw [scaled]
      exact .scale (div_pos (evenShare_pos missing idle) positive) listed
    · rw [same_of_all missing]
      exact .refl listed

/-- Without any weight all options are as likely, and this is seen as soon as there are several. -/
theorem heavy_of_pickAlike (several : 1 < own.length) (missing : none ∈ own)
    (nonneg : ∀ number, some number ∈ own → 0 ≤ number) (lower : 0 ≤ even)
    (alike : PickAlike (spread even own) (spread (evenShare own) own)) :
    0 < (spread even own).sum := by
  have weight_nonneg := spread_nonneg nonneg lower
  refine (List.sum_nonneg weight_nonneg).lt_of_ne fun light => ?_
  have idle : ∀ number, some number ∈ own → number = 0 := by
    intro number member
    exact List.all_zero_of_le_zero_le_of_sum_eq_zero weight_nonneg light.symm
      (List.mem_map.2 ⟨some number, member, rfl⟩)
  have positive := evenShare_pos missing idle
  have either : ∀ weight ∈ spread (evenShare own) own, weight = 0 ∨ weight = evenShare own := by
    intro weight member
    obtain ⟨given, among, rfl⟩ := List.mem_map.1 member
    cases given with
    | none => exact .inr rfl
    | some number => exact .inl (idle number among)
  have at_most : ∀ weight ∈ spread (evenShare own) own, weight ≤ evenShare own :=
    fun weight member => (either weight member).elim (fun zero => zero ▸ positive.le) le_of_eq
  have heavy : 0 < (spread (evenShare own) own).sum :=
    positive.trans_le (List.single_le_sum (spread_nonneg nonneg positive.le) _
      (List.mem_map.2 ⟨none, missing, rfl⟩))
  obtain ⟨some_weight, less⟩ := alike.first_of_weightless (by simpa using several) light.symm heavy
  have inside : 0 < (spread (evenShare own) own).length := by simp; omega
  rw [before_succ inside, before_zero, zero_add] at some_weight less
  -- the first place has an even share, and no average of even shares and nothing exceeds that
  have first := (either _ (List.getElem_mem inside)).resolve_left some_weight.ne'
  have average := List.sum_le_card_nsmul _ _ at_most
  have count : (0 : Rat) < own.length := by exact_mod_cast (by omega : 0 < own.length)
  rw [first, length_spread, lt_div_iff₀ count, mul_comm, ← nsmul_eq_mul] at less
  rw [length_spread] at average
  exact average.not_gt less

theorem keepsShares_of_pickAlike (filled : own ≠ [])
    (nonneg : ∀ number, some number ∈ own → 0 ≤ number) (lower : 0 ≤ even)
    (alike : PickAlike (spread even own) (spread (evenShare own) own)) : KeepsShares even own := by
  have counted := List.length_pos_of_ne_nil filled
  rcases Nat.lt_or_ge 1 own.length with several | single
  swap
  · exact .inl (by omega)
  by_cases missing : none ∈ own
  swap
  · exact .inr (.inl missing)
  refine .inr (.inr ?_)
  have heavy := heavy_of_pickAlike several missing nonneg lower alike
  by_cases idle : ∀ number, some number ∈ own → number = 0
  · refine .inr ⟨lower.lt_of_ne fun zero => heavy.ne' ?_, idle⟩
    refine List.sum_eq_zero fun weight member => ?_
    obtain ⟨given, among, rfl⟩ := List.mem_map.1 member
    cases given with
    | none => exact zero.symm
    | some number => exact idle number among
  · push Not at idle
    obtain ⟨number, owned, nonzero⟩ := idle
    have positive := (nonneg number owned).lt_of_ne nonzero.symm
    have weight_nonneg := spread_nonneg nonneg lower
    have weight_nonneg' := spread_nonneg nonneg (evenShare_nonneg own)
    have heavy' : 0 < (spread (evenShare own) own).sum :=
      positive.trans_le (List.single_le_sum weight_nonneg' _
        (List.mem_map.2 ⟨some number, owned, rfl⟩))
    have shares {place : Nat} {given : Option Rat} (listed : own[place]? = some given) :=
      alike.share_eq weight_nonneg weight_nonneg' heavy heavy' (spread_listed listed)
        (spread_listed listed)
    -- a weight of its own has the same share of both, so that all weights together are the same
    obtain ⟨other, listed⟩ := List.mem_iff_getElem?.1 owned
    have own_share := shares listed
    rw [Option.getD_some, Option.getD_some, div_eq_div_iff heavy.ne' heavy'.ne',
      mul_right_inj' positive.ne'] at own_share
    obtain ⟨place, listed⟩ := List.mem_iff_getElem?.1 missing
    have even_share := shares listed
    rw [own_share, Option.getD_none, Option.getD_none, div_left_inj' heavy.ne'] at even_share
    exact .inl even_share.symm

end Spread

end Colloquy.Selection
