import Colloquy.Unique.Store

/-!
# Shelves of stores

Stores that are laid over each other share what lies below: a mark in one is seen in all stores
above it. A shelf keeps each layer once; every layer lies over an earlier one, or over none.
-/

set_option autoImplicit false

namespace Colloquy.Unique

/-- A layer of a store, and the position of the layer below it. -/
inductive Layer where
  | plain (own : Collections)
  | overlay (own : Collections) (base : Nat)
  | tracking (marked : List (String × String)) (target : Nat)
  deriving Repr, DecidableEq

abbrev Shelf := List Layer

namespace Shelf

def store (shelf : Shelf) (position : Nat) : Store :=
  match shelf[position]? with
  | none => .fresh
  | some (.plain own) => .plain own
  | some (.overlay own base) =>
      if base < position then .overlay own (store shelf base) else .overlay own .fresh
  | some (.tracking marked target) =>
      if target < position then .tracking marked (store shelf target) else .tracking marked .fresh
termination_by position

def write (shelf : Shelf) (position : Nat) (store : Store) : Shelf :=
  match shelf[position]?, store with
  | some (.plain _), .plain own => shelf.set position (.plain own)
  | some (.overlay _ base), .overlay own below =>
      write (shelf.set position (.overlay own base)) base below
  | some (.tracking _ target), .tracking marked below =>
      write (shelf.set position (.tracking marked target)) target below
  | _, _ => shelf

end Shelf

end Colloquy.Unique
