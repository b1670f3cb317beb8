import Colloquy.Unique.Store

/-!
# Releasing identifiers

Identifiers that are released are unused again, and no others.
-/

set_option autoImplicit false

namespace Colloquy.Unique

theorem Collections.lookup_release (entries : List (String × List String))
    (collection key other : String) :
    ((Collections.mk entries).release collection key).entries.lookup other =
      (entries.lookup other).map fun keys =>
        if other = collection then keys.filter (· ≠ key) else keys := by
  induction entries with
  | nil => rfl
  | cons entry rest ih =>
      obtain ⟨name, keys⟩ := entry
      simp only [release] at ih
      by_cases here : other = name
      · subst here
        by_cases same : other = collection <;> simp [release, same]
      · have missed : (other == name) = false := by simpa using here
        by_cases same : name = collection
        · rw [same] at missed
          simp only [release, List.map_cons, same, if_true, List.lookup_cons, missed]
          exact ih
        · simp only [release, List.map_cons, same, if_false, List.lookup_cons, missed]
          exact ih

theorem Collections.mem_used_release (collections : Collections)
    (collection key other name : String) :
    name ∈ (collections.release collection key).used other ↔
      name ∈ collections.used other ∧ (other, name) ≠ (collection, key) := by
  obtain ⟨entries⟩ := collections
  simp only [used, lookup_release]
  cases entries.lookup other with
  | none => simp
  | some keys =>
      by_cases same : other = collection <;> simp [same]

def Collections.releaseAll (collections : Collections) (keys : List (String × String)) :
    Collections :=
  keys.foldl (fun left key => left.release key.1 key.2) collections

/-- Exactly the released identifiers are unused behind a release. -/
theorem Collections.mem_used_releaseAll (collections : Collections)
    (keys : List (String × String)) (collection name : String) :
    name ∈ (collections.releaseAll keys).used collection ↔
      name ∈ collections.used collection ∧ (collection, name) ∉ keys := by
  induction keys generalizing collections with
  | nil => simp [releaseAll]
  | cons key rest ih =>
      show name ∈ ((collections.release key.1 key.2).releaseAll rest).used collection ↔ _
      rw [ih, mem_used_release, List.mem_cons, not_or, and_assoc]

namespace Store

/-- The store keeps its marks itself. -/
def IsOwn : Store → Prop
  | plain _ => True
  | overlay _ _ => True
  | tracking _ _ => False

/-- The store with other identifiers of its own. -/
def withOwn (store : Store) (own : Collections) : Store :=
  match store with
  | plain _ => plain own
  | overlay _ base => overlay own base
  | tracking marked target => tracking marked target

variable {store : Store} {own left : Collections}

theorem withOwn_own (store : Store) : store.withOwn store.own = store := by
  cases store <;> rfl

theorem mark_withOwn (isOwn : store.IsOwn) (collection key : String) :
    (store.withOwn own).mark collection key = store.withOwn (own.mark collection key) := by
  cases store with
  | plain _ => rfl
  | overlay _ base => rfl
  | tracking marked target => exact isOwn.elim

theorem releaseAll_withOwn (isOwn : store.IsOwn) (keys : List (String × String)) :
    (store.withOwn own).releaseAll keys = store.withOwn (own.releaseAll keys) := by
  induction keys generalizing own with
  | nil => rfl
  | cons key rest ih =>
      rw [Collections.releaseAll, List.foldl_cons, ← Collections.releaseAll, ← ih]
      cases store with
      | plain _ => rfl
      | overlay _ base => rfl
      | tracking marked target => exact isOwn.elim

/-- A view does not pass on what is given back to it. -/
theorem releaseAll_of_view (view : ¬store.IsOwn) (keys : List (String × String)) :
    store.releaseAll keys = store := by
  cases store with
  | plain _ => exact absurd trivial view
  | overlay _ _ => exact absurd trivial view
  | tracking marked target =>
      induction keys with
      | nil => rfl
      | cons key rest ih => exact ih

theorem notMem_of_has_withOwn (isOwn : store.IsOwn) {collection key : String}
    (unused : (store.withOwn own).has collection key = false) : key ∉ own.used collection := by
  cases store with
  | plain _ => simpa [withOwn, has, Collections.has] using unused
  | overlay _ base =>
      simp only [withOwn, has, Bool.or_eq_false_iff] at unused
      simpa [Collections.has] using unused.1
  | tracking marked target => exact isOwn.elim

theorem mem_used_withOwn (store : Store)
    (same : ∀ collection key, key ∈ own.used collection ↔ key ∈ left.used collection)
    (collection key : String) :
    key ∈ (store.withOwn own).used collection ↔ key ∈ (store.withOwn left).used collection := by
  cases store with
  | plain _ => exact same collection key
  | overlay _ base =>
      simp [withOwn, used, union, same]
  | tracking marked target => rfl

/-- A plain store stays one, and exactly the released identifiers are unused behind it. -/
theorem mem_used_releaseAll (own : Collections) (keys : List (String × String)) :
    ∃ left, (Store.plain own).releaseAll keys = .plain left ∧
      ∀ collection name, name ∈ left.used collection ↔
        name ∈ own.used collection ∧ (collection, name) ∉ keys :=
  have plain : (plain own).IsOwn := trivial
  ⟨own.releaseAll keys, releaseAll_withOwn plain keys, own.mem_used_releaseAll keys⟩

end Store

end Colloquy.Unique
