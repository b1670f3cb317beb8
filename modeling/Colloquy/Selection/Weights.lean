import Colloquy.Datum.Equality
import Colloquy.Error.Basic
import Colloquy.Selection.Arithmetic

/-!
# Weights

Options may carry weights, which are probabilities. Options without a weight share evenly what the
others leave of the whole.
-/

set_option autoImplicit false

namespace Colloquy.Selection

inductive Choice (α : Type) where
  | plain (item : α)
  /-- An item wrapped with a weight, which may be null. -/
  | weighted (item : α) (weight : Datum)
  /-- A mapping of an item and perhaps a weight; the weight may stand first. -/
  | entry (item : α) (weight : Option Datum) (weightFirst : Bool)

def Choice.item {α : Type} : Choice α → α
  | plain item => item
  | weighted item _ => item
  | entry item _ _ => item

/-- The explicit weight of an option; null is none. -/
def Choice.weight? {α : Type} : Choice α → Option Datum
  | plain _ => none
  | weighted _ weight => if weight.isNull then none else some weight
  | entry _ weight _ => weight.filter fun weight => !weight.isNull

def Choice.map {α β : Type} (f : α → β) : Choice α → Choice β
  | plain item => .plain (f item)
  | weighted item weight => .weighted (f item) weight
  | entry item weight weightFirst => .entry (f item) weight weightFirst

/-- An explicit weight as a number: an integer or a double, but no truth value, in `[0, 1]`. -/
def readWeight {κ : Type} [Arithmetic κ] (weight : Datum) : Except WeightFault κ :=
  match weight with
  | .int value =>
      match (Number.ofInt? value), (Arithmetic.ofInt? value : Option κ) with
      | some _, some number =>
          if value < 0 ∨ 1 < value then .error (.outOfRange weight) else .ok number
      | _, _ => .error .tooLarge
  | .float value =>
      if value.isNaN || value < 0 || value > 1 then .error (.outOfRange weight)
      else .ok (Arithmetic.ofFloat value)
  | _ => .error (.notNumber weight)

def total {κ : Type} [Arithmetic κ] (numbers : List κ) : κ :=
  numbers.foldl (· + ·) Arithmetic.zero

/-- The explicit weights of options, in order, with none for those that have no weight. -/
def readWeights {α κ : Type} [Arithmetic κ] :
    List (Choice α) → Except WeightFault (List (α × Option κ))
  | [] => .ok []
  | choice :: choices =>
      match choice.weight? with
      | none => do return (choice.item, none) :: (← readWeights choices)
      | some weight => do
          let number ← readWeight weight
          return (choice.item, some number) :: (← readWeights choices)

/-- What each option without a weight gets: an even share of what explicit weights leave of one. -/
def share {κ : Type} [Arithmetic κ] (explicit : κ) (missing : Nat) : κ :=
  let left : κ := Arithmetic.one - explicit
  let remaining := if Arithmetic.below Arithmetic.zero left then left else Arithmetic.zero
  match (Arithmetic.ofInt? missing : Option κ) with
  | some count => if missing = 0 then Arithmetic.zero else remaining / count
  | none => Arithmetic.zero

def normalizeWeights {α κ : Type} [Arithmetic κ] (choices : List (Choice α)) :
    Except WeightFault (List (α × κ)) :=
  if choices.isEmpty then .error .noOptions
  else do
    let read : List (α × Option κ) ← readWeights choices
    let explicit := total (read.filterMap (·.2))
    if Arithmetic.below (Arithmetic.one + Arithmetic.tolerance) explicit then
      .error (.excessiveTotal (Arithmetic.toFloat explicit))
    else
      let shared := share explicit (read.countP fun pair => pair.2.isNone)
      return read.map fun pair => (pair.1, pair.2.getD shared)

end Colloquy.Selection
