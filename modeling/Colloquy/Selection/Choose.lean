import Colloquy.Selection.Drawing
import Colloquy.Selection.Weights

/-!
# Weighted choice

A choice takes one draw. With a uniqueness filter, items whose identifier is already used are left
out before the weights are looked at; a choice that cannot be made takes no draw.
-/

set_option autoImplicit false

namespace Colloquy.Selection

/-- An item that may be chosen. Its identifier is known where choices are filtered by it. -/
structure Candidate (α κ : Type) where
  item : α
  weight : κ
  key : Option String

/-- The filter of a choice without repetition: how items are identified, and which are used. -/
structure Filter (α : Type) where
  collection : String
  key : α → Except Error String
  used : String → Bool

def identify {α κ : Type} (key : α → Except Error String) :
    List (α × κ) → Except Error (List (Candidate α κ))
  | [] => .ok []
  | (item, weight) :: rest => do
      let name ← key item
      return ⟨item, weight, some name⟩ :: (← identify key rest)

/-- The candidates among options: all of them, or those that a filter leaves. -/
def candidates {α κ : Type} [Arithmetic κ] (choices : List (Choice α))
    (filter : Option (Filter α)) : Except Error (List (Candidate α κ)) := do
  let normalized : List (α × κ) ← (normalizeWeights choices).mapError .weights
  match filter with
  | none => return normalized.map fun pair => ⟨pair.1, pair.2, none⟩
  | some filter =>
      let keyed ← identify filter.key normalized
      let unused := keyed.filter fun candidate => !(candidate.key.any filter.used)
      if unused.isEmpty then .error (.exhausted filter.collection) else return unused

/-- The first candidate at which the running sum of weights reaches the needle; the last if none
does. -/
def reach {α κ : Type} [Arithmetic κ] (needle : κ) :
    κ → Candidate α κ → List (Candidate α κ) → Candidate α κ
  | _, last, [] => last
  | sum, _, candidate :: rest =>
      let sum := sum + candidate.weight
      if Arithmetic.atMost needle sum then candidate else reach needle sum candidate rest

/-- The candidate at a position; positions below zero count from the back. -/
def candidateAt {α κ : Type} (candidates : List (Candidate α κ)) (position : Int) :
    Except Error (Candidate α κ) :=
  let place := if position < 0 then position + candidates.length else position
  match (if place < 0 then none else candidates[place.toNat]?) with
  | some candidate => .ok candidate
  | none => .error (.unsupported .index "list index out of range")

def wholePart {κ : Type} [Arithmetic κ] (round : κ → Option Int) (number : κ) :
    Except Error Int :=
  match round number with
  | some whole => .ok whole
  | none =>
      if (Arithmetic.toFloat number).isNaN then
        .error (.unsupported .value "cannot convert float NaN to integer")
      else .error (.unsupported .overflow "cannot convert float infinity to integer")

/-- The candidate that a draw picks. If all weights are zero each position is as likely. -/
def pick {α κ : Type} [Arithmetic κ] (candidates : List (Candidate α κ)) (draw : κ) :
    Except Error (Candidate α κ) :=
  let sum := total (candidates.map (·.weight))
  if Arithmetic.atMost sum Arithmetic.zero then
    match (Arithmetic.ofInt? candidates.length : Option κ) with
    | some count => do
        let place ← wholePart Arithmetic.truncate? (draw * count)
        candidateAt candidates (min place (candidates.length - 1))
    | none => .error (.unsupported .overflow "int too large to convert to float")
  else
    match candidates with
    | [] => .error (.unsupported .index "list index out of range")
    | first :: rest => .ok (reach (draw * sum) Arithmetic.zero first (first :: rest))

/-- A weighted choice: the chosen candidate after one draw, or an error before it. -/
def choose {α κ : Type} [Arithmetic κ] (choices : List (Choice α)) (filter : Option (Filter α)) :
    Drawing κ (Except Error (Candidate α κ)) :=
  match (candidates choices filter : Except Error (List (Candidate α κ))) with
  | .error error => .done (.error error)
  | .ok found => .draw fun value => .done (pick found value)

end Colloquy.Selection
