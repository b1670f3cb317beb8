/-!
# Used identifiers

For each collection the identifiers that are used. A collection is known from its first mark on,
also when all of its identifiers have been released.
-/

set_option autoImplicit false

namespace Colloquy.Unique

/-- The identifiers used in each known collection, in the order in which they were marked. -/
structure Collections where
  entries : List (String × List String)
  deriving Repr, DecidableEq

namespace Collections

def empty : Collections := ⟨[]⟩

def used (collections : Collections) (collection : String) : List String :=
  (collections.entries.lookup collection).getD []

def has (collections : Collections) (collection key : String) : Bool :=
  (collections.used collection).contains key

/-- Replaces the identifiers of a collection, which becomes known. -/
def put : List (String × List String) → String → (List String → List String) →
    List (String × List String)
  | [], collection, change => [(collection, change [])]
  | (name, keys) :: rest, collection, change =>
      if name = collection then (name, change keys) :: rest
      else (name, keys) :: put rest collection change

def mark (collections : Collections) (collection key : String) : Collections :=
  ⟨put collections.entries collection fun keys =>
    if keys.contains key then keys else keys ++ [key]⟩

def release (collections : Collections) (collection key : String) : Collections :=
  ⟨collections.entries.map fun entry =>
    if entry.1 = collection then (entry.1, entry.2.filter (· ≠ key)) else entry⟩

def names (collections : Collections) : List String :=
  collections.entries.map (·.1)

theorem lookup_put (entries : List (String × List String)) (collection other : String)
    (change : List String → List String) :
    ((put entries collection change).lookup other).getD [] =
      if other = collection then change ((entries.lookup collection).getD [])
      else (entries.lookup other).getD [] := by
  induction entries with
  | nil =>
      by_cases same : other = collection
      · simp [put, same]
      · have differs : (other == collection) = false := by simpa using same
        simp [put, List.lookup_cons, differs, same]
  | cons entry rest ih =>
      obtain ⟨name, keys⟩ := entry
      by_cases here : name = collection
      · subst here
        by_cases same : other = name
        · simp [put, same]
        · have differs : (other == name) = false := by simpa using same
          simp [put, List.lookup_cons, differs, same]
      · have missed : (collection == name) = false := by simpa using Ne.symm here
        by_cases found : other = name
        · simp [put, here, found]
        · have differs : (other == name) = false := by simpa using found
          simp [put, List.lookup_cons, here, differs, missed, ih]

/-- After a mark exactly one more identifier may be used, in that collection only. -/
theorem used_mark (collections : Collections) (collection other key : String) :
    (collections.mark collection key).used other =
      if other = collection then
        if (collections.used collection).contains key then collections.used collection
        else collections.used collection ++ [key]
      else collections.used other := by
  simp only [used, mark, lookup_put]
  rfl

end Collections

end Colloquy.Unique
