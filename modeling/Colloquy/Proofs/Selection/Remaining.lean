import Colloquy.Proofs.Unique.Choice

/-!
# What a filter leaves

The candidates of a choice are the options that its filter leaves, with the weights that they have
among all options.
-/

set_option autoImplicit false

namespace Colloquy.Selection

variable {α κ : Type}

/-- An option with a weight as a candidate, if its identifier is known and unused. -/
def Filter.candidate? (filter : Filter α) (pair : α × κ) : Option (Candidate α κ) :=
  match filter.key pair.1 with
  | .ok key => if filter.used key then none else some ⟨pair.1, pair.2, some key⟩
  | .error _ => none

/-- The candidates among options with weights. -/
def remaining (filter : Option (Filter α)) (weighed : List (α × κ)) : List (Candidate α κ) :=
  match filter with
  | none => weighed.map fun pair => ⟨pair.1, pair.2, none⟩
  | some filter => weighed.filterMap filter.candidate?

/-- Each item has an identifier, if they are filtered at all. -/
def Identifies (filter : Option (Filter α)) (items : List α) : Prop :=
  ∀ given ∈ filter, ∀ item ∈ items, ∃ key, given.key item = .ok key

theorem identify_eq {filter : Filter α} {weighed : List (α × κ)}
    (identifies : ∀ pair ∈ weighed, ∃ key, filter.key pair.1 = .ok key) :
    ∃ keyed, identify filter.key weighed = .ok keyed ∧
      (keyed.filter fun candidate => !(candidate.key.any filter.used)) =
        weighed.filterMap filter.candidate? := by
  induction weighed with
  | nil => exact ⟨[], rfl, rfl⟩
  | cons pair rest ih =>
      obtain ⟨item, weight⟩ := pair
      obtain ⟨key, named⟩ := identifies (item, weight) List.mem_cons_self
      obtain ⟨keyed, identified, same⟩ :=
        ih fun pair member => identifies pair (List.mem_cons_of_mem _ member)
      refine ⟨⟨item, weight, some key⟩ :: keyed, ?_, ?_⟩
      · dsimp only at named
        simp only [identify, named, identified, bind, Except.bind, pure, Except.pure]
      · dsimp only at named
        by_cases used : filter.used key = true
        · simp [Filter.candidate?, named, used, same]
        · simp [Filter.candidate?, named, used, same]

theorem known_of_identify {key : α → Except Error String} {weighed : List (α × κ)}
    {keyed : List (Candidate α κ)} (identified : identify key weighed = .ok keyed) :
    ∀ pair ∈ weighed, ∃ name, key pair.1 = .ok name := by
  induction weighed generalizing keyed with
  | nil => simp
  | cons pair rest ih =>
      obtain ⟨name, named, identified⟩ := bind_eq_ok.1 identified
      obtain ⟨others, known, -⟩ := bind_eq_ok.1 identified
      intro other member
      rcases List.mem_cons.1 member with rfl | later
      · exact ⟨name, named⟩
      · exact ih known other later

theorem Filter.candidate?_eq_some {filter : Filter α} {pair : α × κ} {candidate : Candidate α κ} :
    filter.candidate? pair = some candidate ↔
      pair = (candidate.item, candidate.weight) ∧
        ∃ key, filter.key candidate.item = .ok key ∧ candidate.key = some key ∧
          filter.used key = false := by
  obtain ⟨item, weight⟩ := pair
  constructor
  · intro left
    simp only [candidate?] at left
    split at left
    next key named =>
      split at left
      · cases left
      next unused =>
        cases left
        exact ⟨rfl, key, named, rfl, by simpa using unused⟩
    · cases left
  · obtain ⟨item', weight', key'⟩ := candidate
    rintro ⟨same, key, named, rfl, unused⟩
    cases same
    dsimp only at named
    simp [candidate?, named, unused]

/-- A candidate that a filter leaves carries its identifier, which is unused. -/
theorem mem_remaining {filter : Filter α} {weighed : List (α × κ)} {candidate : Candidate α κ} :
    candidate ∈ remaining (some filter) weighed ↔
      (candidate.item, candidate.weight) ∈ weighed ∧
        ∃ key, filter.key candidate.item = .ok key ∧ candidate.key = some key ∧
          filter.used key = false := by
  simp only [remaining, List.mem_filterMap, Filter.candidate?_eq_some]
  constructor
  · rintro ⟨pair, member, rfl, known⟩
    exact ⟨member, known⟩
  · rintro ⟨member, known⟩
    exact ⟨_, member, rfl, known⟩

theorem pair_of_remaining {filter : Option (Filter α)} {weighed : List (α × κ)} :
    ∀ candidate ∈ remaining filter weighed, (candidate.item, candidate.weight) ∈ weighed := by
  intro candidate member
  cases filter with
  | none =>
      obtain ⟨pair, among, rfl⟩ := List.mem_map.1 member
      exact among
  | some filter => exact (mem_remaining.1 member).1

section Candidates

variable [Arithmetic κ] {choices : List (Choice α)} {weighed : List (α × κ)}

/-- Options with valid weights and known identifiers are candidates unless the filter leaves none. -/
theorem candidates_filtered {filter : Filter α} (accepted : normalizeWeights choices = .ok weighed)
    (identifies : ∀ pair ∈ weighed, ∃ key, filter.key pair.1 = .ok key) :
    candidates choices (some filter) =
      if (remaining (some filter) weighed).isEmpty then .error (.exhausted filter.collection)
      else .ok (remaining (some filter) weighed) := by
  obtain ⟨keyed, identified, same⟩ := identify_eq identifies
  rw [candidates, mapError_eq_ok.2 accepted]
  simp only [identified, same, bind, Except.bind]
  rfl

theorem candidates_eq_ok {filter : Option (Filter α)} {found : List (Candidate α κ)} :
    candidates choices filter = .ok found ↔
      ∃ weighed : List (α × κ), normalizeWeights choices = .ok weighed ∧
        Identifies filter (weighed.map Prod.fst) ∧ remaining filter weighed ≠ [] ∧
        found = remaining filter weighed := by
  constructor
  · intro accepted
    obtain ⟨weighed, valid, accepted'⟩ := bind_eq_ok.1 accepted
    have valid := mapError_eq_ok.1 valid
    refine ⟨weighed, valid, ?_⟩
    cases filter with
    | none =>
        cases accepted'
        refine ⟨fun _ member => (nomatch member), ?_, rfl⟩
        rintro empty
        have none_weighed : weighed = [] := List.map_eq_nil_iff.1 empty
        rw [none_weighed] at valid
        have items := items_of_normalizeWeights valid
        rw [List.map_eq_nil_iff.1 items.symm] at valid
        cases valid
    | some filter =>
        obtain ⟨keyed, identified, -⟩ := bind_eq_ok.1 accepted'
        have known := known_of_identify identified
        rw [candidates_filtered valid known] at accepted
        split at accepted
        · cases accepted
        next filled =>
          cases accepted
          refine ⟨?_, by simpa using filled, rfl⟩
          rintro given same item member
          cases same
          obtain ⟨pair, among, rfl⟩ := List.mem_map.1 member
          exact known pair among
  · rintro ⟨weighed, valid, identifies, filled, rfl⟩
    cases filter with
    | none =>
        rw [candidates, mapError_eq_ok.2 valid]
        rfl
    | some filter =>
        rw [candidates_filtered valid fun pair member =>
          identifies filter rfl pair.1 (List.mem_map_of_mem member), if_neg (by simpa using filled)]

end Candidates

end Colloquy.Selection
