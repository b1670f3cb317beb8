import Colloquy.Random.Stream

/-!
# Drawings

A drawing is a result that depends on a number of draws. Its tree of draws shows how many it takes
and which result each sequence of draws leads to.
-/

set_option autoImplicit false

namespace Colloquy.Selection

inductive Drawing (κ : Type) (α : Type) where
  | done (result : α)
  | draw (next : κ → Drawing κ α)

namespace Drawing

def bind {κ α β : Type} (drawing : Drawing κ α) (next : α → Drawing κ β) : Drawing κ β :=
  match drawing with
  | done result => next result
  | draw rest => draw fun value => (rest value).bind next

instance {κ : Type} : Monad (Drawing κ) where
  pure := done
  bind := bind

/-- The result of a drawing from a stream, and the stream behind it. -/
def run {α : Type} (drawing : Drawing Float α) (stream : Random.Stream) : α × Random.Stream :=
  match drawing with
  | done result => (result, stream)
  | draw rest => (rest stream.next.1).run stream.next.2

/-- The result of a drawing from a sequence of draws starting at some position, and the number of
draws it took. -/
def follow {κ α : Type} (drawing : Drawing κ α) (draws : Nat → κ) (start : Nat) : α × Nat :=
  match drawing with
  | done result => (result, 0)
  | draw rest =>
      let (result, taken) := (rest (draws start)).follow draws (start + 1)
      (result, taken + 1)

end Drawing

end Colloquy.Selection
