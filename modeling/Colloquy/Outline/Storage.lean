import Colloquy.Outline.Field
import Colloquy.Unique.Shelf

/-!
# Outlines of stores

A store is outlined by the identifiers used in each collection. A step on named stores says under
`do` what it does, and under `on` to which store.
-/

set_option autoImplicit false

namespace Colloquy

def Datum.ofTexts (texts : List String) : Datum := .list (texts.map .text)

def inOrder (texts : List String) : List String :=
  texts.mergeSort fun left right => left ≤ right

namespace Unique.Store

/-- The names of all collections that a store or a store below it knows. -/
def names (store : Store) : List String :=
  (store.chain.flatMap fun layer => layer.own.names).eraseDups

def usedDatum (store : Store) (collection : String) : Datum :=
  .ofTexts (inOrder (store.used collection))

def usedIn (store : Store) (collections : List String) : Datum :=
  Fields.toDatum (collections.map fun collection => (collection, store.usedDatum collection))

def listing (store : Store) : Datum := store.usedIn store.names

end Unique.Store

namespace Outline

open Colloquy.Unique (Store Layer Shelf Collections)

def store (outline : Datum) : Store :=
  .plain ((entriesOf outline).foldl (fun collections entry =>
    (itemsOf entry.2).foldl (fun collections key =>
      collections.mark entry.1 (key.text?.getD "")) collections) .empty)

/-- Stores with names, and the collections that were named. A name stands for the position of a
layer on the shelf; a layer stays there when its name is given to another one. -/
structure NamedStores where
  names : List (String × Nat)
  shelf : Shelf
  collections : List String

namespace NamedStores

def empty : NamedStores := ⟨[], [], []⟩

def mention (stores : NamedStores) (collection : Option String) : NamedStores :=
  match collection with
  | none => stores
  | some name =>
      if stores.collections.contains name then stores
      else { stores with collections := stores.collections ++ [name] }

def add (stores : NamedStores) (name : String) (layer : Layer) : NamedStores :=
  { stores with
    names := stores.names.filter (fun known => known.1 ≠ name) ++ [(name, stores.shelf.length)]
    shelf := stores.shelf ++ [layer] }

def listing (stores : NamedStores) : Datum :=
  Fields.toDatum (stores.names.map fun (name, place) =>
    (name, (stores.shelf.store place).usedIn stores.collections))

end NamedStores

def noOperation (typeName name : String) : Error :=
  .unsupported .attribute ("'" ++ typeName ++ "' object has no attribute '" ++ name ++ "'")

def markedDatum (store : Store) : Except Error Datum :=
  match store.marked? with
  | some marked => .ok (.list (marked.map fun mark => .ofTexts [mark.1, mark.2]))
  | none => .error (noOperation "UniqueSelectionStore" "marked")

def storeStepAt (step : Datum) (position : Nat) (stores : NamedStores) :
    Except Error Datum × NamedStores :=
  let store := stores.shelf.store position
  let collection := fieldText step "collection"
  let key := fieldText step "key"
  let added (layer : Layer) : Except Error Datum × NamedStores :=
    (.ok .null, stores.add (fieldText step "as") layer)
  let changed (store : Store) : Except Error Datum × NamedStores :=
    (.ok .null, { stores with shelf := stores.shelf.write position store })
  match fieldText step "do" with
  | "overlay" => added (.overlay .empty position)
  | "tracking" => added (.tracking [] position)
  | "mark" => changed (store.mark collection key)
  | "release" => changed (store.release collection key)
  | "clear" => changed store.clear
  | "rollback" =>
      match store.rollback? with
      | some store => changed store
      | none => (.error (noOperation "UniqueSelectionStore" "rollback"), stores)
  | "has" => (.ok (.bool (store.has collection key)), stores)
  | "used" => (.ok (store.usedDatum collection), stores)
  | "repr" => (.ok (.text store.shown), stores)
  | "marked" => (markedDatum store, stores)
  | _ => (senseless "step", stores)

/-- Takes a step on stores. A name that no store has stands for null. -/
def storeStep (step : Datum) (stores : NamedStores) : Except Error Datum × NamedStores :=
  let stores := stores.mention (field step "collection").text?
  let operation := fieldText step "do"
  if operation = "new" then (.ok .null, stores.add (fieldText step "as") (.plain .empty))
  else
    match stores.names.lookup (fieldText step "on") with
    | some position => storeStepAt step position stores
    | none =>
        (if operation = "repr" then .ok (.text Datum.null.shown)
          else .error (noOperation Datum.null.typeName operation), stores)

end Outline

end Colloquy
