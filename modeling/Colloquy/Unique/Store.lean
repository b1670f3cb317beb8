import Colloquy.Datum.Shown
import Colloquy.Unique.Collections

/-!
# Stores of used identifiers

A plain store holds identifiers of its own. An overlay keeps its marks to itself and sees those of
the store below. A tracking view writes its marks through to the store below and remembers them, so
that they can be taken back.
-/

set_option autoImplicit false

namespace Colloquy.Unique

inductive Store where
  | plain (own : Collections)
  | overlay (own : Collections) (base : Store)
  | tracking (marked : List (String × String)) (target : Store)
  deriving Repr, DecidableEq

namespace Store

def fresh : Store := plain .empty

def above (base : Store) : Store := overlay .empty base

def track (target : Store) : Store := tracking [] target

def has : Store → String → String → Bool
  | plain own, collection, key => own.has collection key
  | overlay own base, collection, key => own.has collection key || base.has collection key
  | tracking _ target, collection, key => target.has collection key

def union (known more : List String) : List String :=
  known ++ more.filter fun key => !known.contains key

def used : Store → String → List String
  | plain own, collection => own.used collection
  | overlay own base, collection => union (own.used collection) (base.used collection)
  | tracking _ target, collection => target.used collection

/-- Marks an identifier: an overlay in itself, a tracking view in the store below. -/
def mark : Store → String → String → Store
  | plain own, collection, key => plain (own.mark collection key)
  | overlay own base, collection, key => overlay (own.mark collection key) base
  | tracking marked target, collection, key =>
      tracking (marked ++ [(collection, key)]) (target.mark collection key)

/-- Releases an identifier among the store's own; a tracking view has none. -/
def release : Store → String → String → Store
  | plain own, collection, key => plain (own.release collection key)
  | overlay own base, collection, key => overlay (own.release collection key) base
  | tracking marked target, _, _ => tracking marked target

def releaseAll (store : Store) (keys : List (String × String)) : Store :=
  keys.foldl (fun store key => store.release key.1 key.2) store

def clear : Store → Store
  | plain _ => plain .empty
  | overlay _ base => overlay .empty base
  | tracking marked target => tracking marked target

/-- What a tracking view has marked, in order; other stores keep no such list. -/
def marked? : Store → Option (List (String × String))
  | tracking marked _ => some marked
  | _ => none

/-- Takes the marks of a tracking view back; other stores have none to take back. -/
def rollback? : Store → Option Store
  | tracking marked target => some (tracking [] (target.releaseAll marked))
  | _ => none

def own : Store → Collections
  | plain own => own
  | overlay own _ => own
  | tracking _ _ => .empty

/-- How a store is shown: the number of identifiers in each of its own collections. -/
def shown (store : Store) : String :=
  let name := match store with
    | tracking _ _ => "TrackingSelectionStore"
    | _ => "UniqueSelectionStore"
  let sizes := store.own.entries.map fun entry =>
    (Datum.text entry.1, Datum.int entry.2.length)
  name ++ "(" ++ (Datum.mapping sizes).shown ++ ")"

def base? : Store → Option Store
  | plain _ => none
  | overlay _ base => some base
  | tracking _ target => some target

def chain : Store → List Store
  | plain own => [plain own]
  | overlay own base => overlay own base :: base.chain
  | tracking marked target => tracking marked target :: target.chain

@[simp]
theorem used_tracking (marked : List (String × String)) (target : Store) (collection : String) :
    (tracking marked target).used collection = target.used collection := rfl

@[simp]
theorem has_tracking (marked : List (String × String)) (target : Store)
    (collection key : String) :
    (tracking marked target).has collection key = target.has collection key := rfl

theorem contains_used (store : Store) (collection key : String) :
    (store.used collection).contains key = store.has collection key := by
  induction store with
  | plain own => rfl
  | overlay own base ih =>
      by_cases known : key ∈ own.used collection
      · simp [used, has, union, Collections.has, known]
      · simp [used, has, union, Collections.has, known, ← ih]
  | tracking marked target ih => exact ih

end Store

end Colloquy.Unique
