import Colloquy.Datum.Order
import Colloquy.Selection.Choose

/-!
# Ranges, chances and samples

An integer between two bounds and a yes or no take one draw each; a sample takes one draw for each
item it picks.
-/

set_option autoImplicit false

namespace Colloquy.Selection

def placeInRange {κ : Type} [Arithmetic κ] (minimum maximum : Int) (draw : κ) :
    Except Error Int :=
  match (Arithmetic.ofInt? (maximum - minimum + 1) : Option κ) with
  | some width => do return (← wholePart Arithmetic.floor? (draw * width)) + minimum
  | none => .error (.unsupported .overflow "int too large to convert to float")

def between {κ : Type} [Arithmetic κ] (minimum maximum : Int) : Drawing κ (Except Error Int) :=
  if minimum > maximum then .done (.error (.emptyRange (.int minimum) (.int maximum)))
  else .draw fun value => .done (placeInRange minimum maximum value)

def chance (probability : Datum) : Drawing Float (Except Error Bool) :=
  .draw fun value => .done (Datum.ordered .below (.float value) probability)

def exchange {α : Type} (pool : List α) (left right : Nat) : List α :=
  match pool[left]?, pool[right]? with
  | some first, some second => (pool.set left second).set right first
  | _, _ => pool

def samplePosition (size start : Nat) (offset : Int) : Except Error Nat :=
  let position := (start : Int) + offset
  let position := if position < 0 then position + size else position
  if 0 ≤ position ∧ position < size then .ok position.toNat
  else .error (.unsupported .index "list index out of range")

/-- Exchanges each of `count` positions from `start` on with a drawn one that is not before it. -/
def shuffle {α κ : Type} [Arithmetic κ] (pool : List α) (start : Nat) :
    Nat → Drawing κ (Except Error (List α))
  | 0 => .done (.ok pool)
  | count + 1 =>
      .draw fun value =>
        match (Arithmetic.ofInt? (pool.length - start : Int) : Option κ) with
        | none => .done (.error (.unsupported .overflow "int too large to convert to float"))
        | some width =>
            match (do
              let offset ← wholePart Arithmetic.floor? (value * width)
              samplePosition pool.length start offset) with
            | .ok position => shuffle (exchange pool start position) (start + 1) count
            | .error error => .done (.error error)

/-- At most `count` items of a list, in an order fixed by the draws. -/
def sample {α κ : Type} [Arithmetic κ] (count : Int) (items : List α) :
    Drawing κ (Except Error (List α)) :=
  let count := min count.toNat items.length
  (shuffle items 0 count).bind fun shuffled => .done (shuffled.map (·.take count))

end Colloquy.Selection
