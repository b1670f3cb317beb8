import Colloquy.Proofs.Number.Parts
import Colloquy.Proofs.Selection.Intervals

/-!
# Draws that always pick

Each draw from zero on and below one picks a candidate, whatever the weights are. This holds for
rational numbers and, as long as the candidates can be counted in a machine word, for doubles.
-/

set_option autoImplicit false

namespace Colloquy.Selection

/-- A number that a draw can be: from zero on and below one. -/
def IsDraw {κ : Type} [Arithmetic κ] (draw : κ) : Prop :=
  Arithmetic.below draw Arithmetic.zero = false ∧ Arithmetic.below draw Arithmetic.one = true

/-- With numbers of this type each draw picks a candidate, if there are some and no more than a number
of them. -/
def Picks (κ : Type) [Arithmetic κ] (most : Nat) : Prop :=
  ∀ {α : Type} {found : List (Candidate α κ)} {draw : κ}, found ≠ [] → found.length ≤ most →
    IsDraw draw → ∃ candidate ∈ found, pick found draw = .ok candidate

theorem picks_rational (most : Nat) : Picks Rat most := by
  intro α found draw filled _ ⟨lower, upper⟩
  obtain ⟨place, inside, picked, -⟩ := pick_eq filled (not_lt.1 (of_decide_eq_false lower))
    (of_decide_eq_true upper)
  exact ⟨_, List.getElem_mem inside, picked⟩

theorem picks_double {most : Nat} (small : most < 2 ^ 63) : Picks Float most := by
  intro α found draw filled counted ⟨lower, upper⟩
  have counted : found.length < 2 ^ 63 := counted.trans_lt small
  have picked : ∃ candidate, pick found draw = .ok candidate := by
    cases weight : Arithmetic.atMost (total (found.map (·.weight))) Arithmetic.zero with
    | true =>
        have count : (Arithmetic.ofInt? (found.length : Int) : Option Float) =
            some (Number.ofInt found.length) := Number.ofInt?_eq counted
        obtain ⟨place, part⟩ := Number.truncate?_part (of_decide_eq_false lower)
          (of_decide_eq_true upper) counted
        have part : Arithmetic.truncate? (draw * Number.ofInt found.length) = some (place : Int) := part
        have inside : min place (found.length - 1) < found.length := by
          have some_found := List.length_pos_of_ne_nil filled
          omega
        have same : min (place : Int) ((found.length : Int) - 1) =
            (min place (found.length - 1) : Nat) := by omega
        refine ⟨found[min place (found.length - 1)], ?_⟩
        simp only [pick, weight, if_true, count, wholePart, part]
        show candidateAt found (min (place : Int) ((found.length : Int) - 1)) = _
        rw [same, candidateAt_eq inside]
    | false =>
        obtain ⟨first, rest, rfl⟩ := List.exists_cons_of_ne_nil filled
        refine ⟨reach (draw * total ((first :: rest).map (·.weight))) Arithmetic.zero first
          (first :: rest), ?_⟩
        simp only [pick, weight, Bool.false_eq_true, if_false]
  obtain ⟨candidate, picked⟩ := picked
  exact ⟨candidate, mem_of_pick picked, picked⟩

end Colloquy.Selection
