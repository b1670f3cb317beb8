import Colloquy.Proofs.Unique.Choice
import Colloquy.Proofs.Unique.Release
import Mathlib.Data.List.Forall2

/-!
# Rolling views back

A view that is rolled back releases its marks in the store below it. If that store keeps its marks
itself, it then tells the same of every identifier as before, and so do all stores under it. If it is a
view too, the marks have gone further down, and stay.
-/

set_option autoImplicit false

namespace Colloquy.Unique

namespace Collections

def markAll (collections : Collections) (keys : List (String × String)) : Collections :=
  keys.foldl (fun marked key => marked.mark key.1 key.2) collections

/-- Marks add identifiers behind those that were used, and only such as are marked. -/
theorem used_markAll (collections : Collections) (keys : List (String × String))
    (collection : String) :
    ∃ more, (collections.markAll keys).used collection = collections.used collection ++ more ∧
      ∀ name ∈ more, (collection, name) ∈ keys := by
  induction keys generalizing collections with
  | nil => exact ⟨[], (List.append_nil _).symm, nofun⟩
  | cons key rest ih =>
      obtain ⟨more, used, each⟩ := ih (collections.mark key.1 key.2)
      have first : ∃ one, (collections.mark key.1 key.2).used collection =
          collections.used collection ++ one ∧ ∀ name ∈ one, (collection, name) = key := by
        rw [used_mark]
        split
        next same =>
          subst same
          split
          · exact ⟨[], (List.append_nil _).symm, nofun⟩
          · exact ⟨[key.2], rfl, fun name member => by rw [List.mem_singleton.1 member]⟩
        · exact ⟨[], (List.append_nil _).symm, nofun⟩
      obtain ⟨one, marked, named⟩ := first
      refine ⟨one ++ more, ?_, fun name member => ?_⟩
      · rw [← List.append_assoc, ← marked]
        exact used
      · rcases List.mem_append.1 member with here | later
        · exact List.mem_cons.2 (.inl (named name here))
        · exact List.mem_cons_of_mem _ (each name later)

theorem used_release (collections : Collections) (collection key other : String) :
    (collections.release collection key).used other =
      (collections.used other).filter fun name => (other, name) ≠ (collection, key) := by
  obtain ⟨entries⟩ := collections
  simp only [used, lookup_release]
  cases entries.lookup other with
  | none => rfl
  | some keys => by_cases same : other = collection <;> simp [same]

theorem used_releaseAll (collections : Collections) (keys : List (String × String))
    (other : String) :
    (collections.releaseAll keys).used other =
      (collections.used other).filter fun name => (other, name) ∉ keys := by
  induction keys generalizing collections with
  | nil => simp [releaseAll]
  | cons key rest ih =>
      show ((collections.release key.1 key.2).releaseAll rest).used other = _
      rw [ih, used_release, List.filter_filter]
      refine List.filter_congr fun name _ => ?_
      rw [Bool.eq_iff_iff]
      simp only [List.mem_cons, not_or, Bool.and_eq_true, decide_eq_true_eq]
      exact and_comm

/-- Releasing what was marked leaves what was used before, if none of it was. -/
theorem used_releaseAll_markAll (collections : Collections) {keys : List (String × String)}
    (unused : ∀ key ∈ keys, key.2 ∉ collections.used key.1) :
    ((collections.markAll keys).releaseAll keys).used = collections.used := by
  funext collection
  obtain ⟨more, used, each⟩ := collections.used_markAll keys collection
  rw [used_releaseAll, used, List.filter_append, List.filter_eq_self.2, List.filter_eq_nil_iff.2,
    List.append_nil]
  · intro name member
    simp [each name member]
  · intro name member
    exact decide_eq_true fun marked => unused _ marked member

end Collections

namespace Store

def markAll (store : Store) (keys : List (String × String)) : Store :=
  keys.foldl (fun marked key => marked.mark key.1 key.2) store

/-- Two stores tell the same of every identifier and of every collection. -/
def Reports (left right : Store) : Prop :=
  left.has = right.has ∧ left.used = right.used

theorem Reports.refl (store : Store) : store.Reports store := ⟨rfl, rfl⟩

variable {store : Store} {own left : Collections}

theorem markAll_withOwn (isOwn : store.IsOwn) (keys : List (String × String)) :
    (store.withOwn own).markAll keys = store.withOwn (own.markAll keys) := by
  induction keys generalizing own with
  | nil => rfl
  | cons key rest ih =>
      show ((store.withOwn own).mark key.1 key.2).markAll rest = _
      rw [mark_withOwn isOwn, ih]
      rfl

/-- A view remembers what is marked through it, and marks it in the store below. -/
theorem markAll_tracking (marked : List (String × String)) (target : Store)
    (keys : List (String × String)) :
    (tracking marked target).markAll keys = tracking (marked ++ keys) (target.markAll keys) := by
  induction keys generalizing marked target with
  | nil => rw [List.append_nil]; rfl
  | cons key rest ih =>
      show (tracking (marked ++ [key]) (target.mark key.1 key.2)).markAll rest = _
      rw [ih, List.append_assoc]
      rfl

/-- Exactly what was used or is marked is used behind the marks, whatever the stores below. -/
theorem has_markAll (store : Store) (keys : List (String × String)) (collection name : String) :
    (store.markAll keys).has collection name =
      (store.has collection name || decide ((collection, name) ∈ keys)) := by
  induction keys generalizing store with
  | nil => simp [markAll]
  | cons key rest ih =>
      show ((store.mark key.1 key.2).markAll rest).has collection name = _
      rw [ih, has_mark, Bool.or_assoc, ← Bool.decide_and, ← Bool.decide_or]
      congr 2
      rw [List.mem_cons, Prod.ext_iff]

theorem reports_chain (isOwn : store.IsOwn) (same : own.used = left.used) :
    List.Forall₂ Reports (store.withOwn own).chain (store.withOwn left).chain := by
  have has : own.has = left.has := by
    funext collection key
    rw [Collections.has, Collections.has, same]
  cases store with
  | plain _ => exact .cons ⟨has, same⟩ .nil
  | overlay _ base =>
      refine .cons ⟨?_, ?_⟩ (List.forall₂_same.2 fun below _ => .refl below)
      · funext collection key
        simp only [Store.has, has]
      · funext collection
        simp only [used, same]
  | tracking marked target => exact isOwn.elim

/-- Rolling a view back restores a store that keeps its marks itself, with all that lies below it. -/
theorem reports_releaseAll_markAll (isOwn : store.IsOwn) {keys : List (String × String)}
    (unused : ∀ key ∈ keys, store.has key.1 key.2 = false) :
    List.Forall₂ Reports store.chain ((store.markAll keys).releaseAll keys).chain := by
  have absent : ∀ key ∈ keys, key.2 ∉ store.own.used key.1 := fun key member => by
    refine notMem_of_has_withOwn isOwn ?_
    rw [withOwn_own]
    exact unused key member
  have marked : (store.withOwn store.own).markAll keys = store.withOwn (store.own.markAll keys) :=
    markAll_withOwn isOwn keys
  rw [withOwn_own] at marked
  rw [marked, releaseAll_withOwn isOwn]
  nth_rewrite 1 [← store.withOwn_own]
  exact reports_chain isOwn (Collections.used_releaseAll_markAll _ absent).symm

/-- Nothing is given back to a view. -/
theorem releaseAll_markAll_of_view (view : ¬store.IsOwn) (keys : List (String × String)) :
    (store.markAll keys).releaseAll keys = store.markAll keys := by
  refine releaseAll_of_view ?_ keys
  cases store with
  | plain _ => exact absurd trivial view
  | overlay _ _ => exact absurd trivial view
  | tracking marked target =>
      rw [markAll_tracking]
      exact id

theorem reports_of_chain {left right : Store}
    (alike : List.Forall₂ Reports left.chain right.chain) : left.Reports right := by
  cases left <;> cases right <;> exact (List.forall₂_cons.1 alike).1

/-- What rolling a view back restores. However the store under the view is built, and whatever is used in
it: if identifiers that are unused in it are marked through a view of it, and the view is rolled back,
then the view has no marks left, and the store and all stores that it is built from tell the same as
before, exactly if the store is not a view itself or nothing was marked. If it is a view, then nothing
is given back to it. -/
theorem restores_iff (store : Store) {keys : List (String × String)}
    (unused : ∀ key ∈ keys, store.has key.1 key.2 = false) :
    ∃ left, (store.track.markAll keys).rollback? = some (tracking [] left) ∧
      (tracking [] left).marked? = some [] ∧
      (List.Forall₂ Reports store.chain left.chain ↔ store.IsOwn ∨ keys = []) ∧
      (¬store.IsOwn → left = store.markAll keys) := by
  have rolled : (store.track.markAll keys).rollback? =
      some (tracking [] ((store.markAll keys).releaseAll keys)) := by
    rw [track, markAll_tracking]
    rfl
  refine ⟨_, rolled, rfl, ⟨fun restored => ?_, ?_⟩, fun view => releaseAll_markAll_of_view view keys⟩
  · by_contra neither
    obtain ⟨view, some_marked⟩ := not_or.1 neither
    obtain ⟨key, member⟩ := List.exists_mem_of_ne_nil keys some_marked
    have has := congrFun (congrFun (reports_of_chain restored).1 key.1) key.2
    rw [releaseAll_markAll_of_view view, has_markAll, unused key member] at has
    simp [member] at has
  · rintro (isOwn | rfl)
    · exact reports_releaseAll_markAll isOwn unused
    · exact List.forall₂_same.2 fun below _ => .refl below

/-- A store that lies over a view, in which something is used at each level. -/
def laidOverView : Store :=
  (((fresh.mark "turns" "str:a").track.mark "turns" "str:b").above).mark "moods" "str:a"

/-- A key that is used in another collection, and one in a collection not known before. -/
theorem restores_iff_laidOverView :
    (∀ key ∈ [("turns", "str:c"), ("moods", "str:b"), ("tones", "str:a")],
      laidOverView.has key.1 key.2 = false) ∧
    ∃ left, (laidOverView.track.markAll
        [("turns", "str:c"), ("moods", "str:b"), ("tones", "str:a")]).rollback? =
          some (tracking [] left) ∧
      List.Forall₂ Reports laidOverView.chain left.chain := by
  have unused : ∀ key ∈ [("turns", "str:c"), ("moods", "str:b"), ("tones", "str:a")],
      laidOverView.has key.1 key.2 = false := by decide
  obtain ⟨left, rolled, _, restored, _⟩ := restores_iff laidOverView unused
  exact ⟨unused, left, rolled, restored.2 (.inl trivial)⟩

/-- What is marked through a view of a view stays marked when that view is rolled back. -/
theorem rollback_of_view :
    fresh.track.has "turns" "str:a" = false ∧
    ∃ left, (fresh.track.track.markAll [("turns", "str:a")]).rollback? = some (tracking [] left) ∧
      left.has "turns" "str:a" = true ∧ ¬fresh.track.Reports left := by
  refine ⟨by decide, _, rfl, by decide, fun same => ?_⟩
  exact absurd (congrFun (congrFun same.1 "turns") "str:a") (by decide)

end Store

end Colloquy.Unique
