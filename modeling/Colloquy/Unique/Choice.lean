import Colloquy.Selection.Choose
import Colloquy.Unique.Identifier
import Colloquy.Unique.Store

/-!
# Choices without repetition

A weighted choice that leaves out what a store has, and marks what it chooses.
-/

set_option autoImplicit false

namespace Colloquy.Unique

open Selection (Choice Drawing Arithmetic)

/-- The position of a chosen option, and its identifier where choices are made unique. -/
structure Chosen where
  place : Nat
  key : Option String
  deriving Repr, DecidableEq

def numbered (options : List (Choice Datum)) : List (Choice (Nat × Datum)) :=
  options.mapIdx fun place option => option.map fun value => (place, value)

/-- The filter of a uniqueness rule by what a store has; without a store nothing can be told. -/
def UniqueBy.filter (rule : UniqueBy) (store : Option Store) : Selection.Filter (Nat × Datum) :=
  match store with
  | some store => ⟨rule.collection, fun item => rule.keyFor item.2, store.has rule.collection⟩
  | none => ⟨rule.collection, fun _ => .error (.unique .noStore), fun _ => false⟩

def Chosen.markIn (chosen : Chosen) (rule : Option UniqueBy) (store : Option Store) :
    Option Store :=
  match rule, chosen.key with
  | some rule, some key => store.map fun store => store.mark rule.collection key
  | _, _ => store

/-- Chooses an option by one draw: the chosen option and the store that knows of it, or an error
and the store as it was. -/
def choose {κ : Type} [Arithmetic κ] (options : List (Choice Datum)) (rule : Option UniqueBy)
    (store : Option Store) : Drawing κ (Except Error Chosen × Option Store) :=
  (Selection.choose (numbered options) (rule.map fun rule => rule.filter store)).bind fun
    | .error error => .done (.error error, store)
    | .ok candidate =>
        let chosen : Chosen := ⟨candidate.item.1, candidate.key⟩
        .done (.ok chosen, chosen.markIn rule store)

end Colloquy.Unique
