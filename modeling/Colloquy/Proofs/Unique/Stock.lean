import Colloquy.Proofs.Unique.Choice
import Mathlib.Data.List.Dedup
import Mathlib.Data.List.Sublists

/-!
# Stocks to choose from

Options from which a uniqueness rule chooses are a stock: each of them has an identifier. A choice takes
an identifier of the stock that was unused, and there is none to take once all of them are used.
-/

set_option autoImplicit false

namespace Colloquy

open Selection (Choice Candidate Arithmetic)

theorem Selection.keys_of_identify {α κ : Type} {key : α → Except Error String}
    {pairs : List (α × κ)} {keys : List String}
    (known : (pairs.map Prod.fst).mapM key = .ok keys) :
    ∃ keyed, identify key pairs = .ok keyed ∧ keyed.map Candidate.key = keys.map some ∧
      keyed.map Candidate.weight = pairs.map Prod.snd := by
  induction pairs generalizing keys with
  | nil =>
      cases known
      exact ⟨[], rfl, rfl, rfl⟩
  | cons pair rest ih =>
      obtain ⟨item, weight⟩ := pair
      rw [List.map_cons, List.mapM_cons] at known
      obtain ⟨name, named, known⟩ := bind_eq_ok.1 known
      obtain ⟨names, others, known⟩ := bind_eq_ok.1 known
      cases known
      obtain ⟨keyed, identified, same, weights⟩ := ih others
      refine ⟨⟨item, weight, some name⟩ :: keyed, ?_, by simp [same], by simp [weights]⟩
      show (key item).bind _ = _
      simp only at named
      rw [named]
      show (identify key rest).bind _ = _
      rw [identified]
      rfl

namespace Unique

/-- Options to choose from by a uniqueness rule, with their identifiers. -/
structure Stock where
  options : List (Choice Datum)
  rule : UniqueBy
  keys : List String
  identified : options.mapM (fun option => rule.keyFor option.item) = .ok keys

theorem items_numbered (options : List (Choice Datum)) :
    ((numbered options).map Choice.item).map Prod.snd = options.map Choice.item := by
  refine List.ext_getElem? fun place => ?_
  simp only [numbered, List.getElem?_map, List.getElem?_mapIdx, Option.map_map]
  cases options[place]? with
  | none => rfl
  | some option => cases option <;> rfl

namespace Stock

variable (stock : Stock)

def collection : String := stock.rule.collection

/-- The number of distinct identifiers in the stock. -/
def size : Nat := stock.keys.dedup.length

def uses (store : Store) (key : String) : Bool := store.has stock.collection key

/-- All identifiers of the stock are used. -/
def Spent (store : Store) : Prop := ∀ key ∈ stock.keys, stock.uses store key = true

/-- What is used of the stock stays used. -/
def Dwindles (before after : Store) : Prop :=
  ∀ key ∈ stock.keys, stock.uses before key = true → stock.uses after key = true

/-- The candidates that are left by what a store has. -/
def left (keyed : List (Candidate (Nat × Datum) Float)) (store : Store) :
    List (Candidate (Nat × Datum) Float) :=
  keyed.filter fun candidate => !(candidate.key.any (stock.uses store))

/-- The weights of the options, if they are valid. -/
def weights : Except WeightFault (List Float) :=
  (Selection.normalizeWeights (numbered stock.options)).map fun normalized =>
    normalized.map Prod.snd

/-- The options have no valid weights, whatever is used. Or each of them is a candidate with its
identifier and its weight, and the candidates for a choice are those that are left. -/
theorem candidatesIn_stock :
    (∃ fault, stock.weights = .error fault ∧
        ∀ store, candidatesIn stock.options (some stock.rule) store = .error (.weights fault)) ∨
      ∃ keyed : List (Candidate (Nat × Datum) Float),
        stock.weights = .ok (keyed.map Candidate.weight) ∧
        keyed.map Candidate.key = stock.keys.map some ∧
        ∀ store, candidatesIn stock.options (some stock.rule) store =
          if (stock.left keyed store).isEmpty then .error (.exhausted stock.collection)
          else .ok (stock.left keyed store) := by
  cases weighed : (Selection.normalizeWeights (numbered stock.options) :
      Except WeightFault (List ((Nat × Datum) × Float))) with
  | error fault =>
      refine .inl ⟨fault, by rw [weights, weighed]; rfl, fun store => ?_⟩
      simp [candidatesIn, Selection.candidates, weighed, bind, Except.bind, Except.mapError]
  | ok normalized =>
      have named : (normalized.map Prod.fst).mapM (fun item => stock.rule.keyFor item.2) =
          .ok stock.keys := by
        have items := congrArg (List.mapM stock.rule.keyFor) (items_numbered stock.options)
        simp only [List.mapM_map] at items
        rw [Selection.items_of_normalizeWeights weighed, List.mapM_map]
        exact items.trans stock.identified
      obtain ⟨keyed, identified, keys, known⟩ := Selection.keys_of_identify named
      refine .inr ⟨keyed, by rw [weights, weighed, known]; rfl, keys, fun store => ?_⟩
      simp only [candidatesIn, Selection.candidates, weighed, Option.map_some]
      show (Selection.identify (fun item => stock.rule.keyFor item.2) normalized).bind _ = _
      rw [identified]
      rfl

variable {stock}

theorem Dwindles.of_eq {before after : Store} (same : after = before) :
    stock.Dwindles before after := by
  subst same
  exact fun _ _ => id

theorem Dwindles.refl (store : Store) : stock.Dwindles store store := .of_eq rfl

theorem Dwindles.trans {before between after : Store} (first : stock.Dwindles before between)
    (second : stock.Dwindles between after) : stock.Dwindles before after :=
  fun key member used => second key member (first key member used)

theorem Dwindles.spent {before after : Store} (dwindles : stock.Dwindles before after)
    (spent : stock.Spent before) : stock.Spent after :=
  fun key member => dwindles key member (spent key member)

theorem dwindles_mark (store : Store) (collection key : String) :
    stock.Dwindles store (store.mark collection key) := by
  intro name _ used
  have known : store.has stock.collection name = true := used
  simp [uses, Store.has_mark, known]

/-- No choice can be made from a stock that is spent: the options have no valid weights, whatever is
used, or the choice is exhausted. -/
theorem candidatesIn_of_spent {store : Store} (spent : stock.Spent store) :
    (∃ error, ∀ other, candidatesIn stock.options (some stock.rule) other = .error error) ∨
      candidatesIn stock.options (some stock.rule) store = .error (.exhausted stock.collection) := by
  rcases stock.candidatesIn_stock with ⟨fault, _, failed⟩ | ⟨keyed, _, keys, candidates⟩
  · exact .inl ⟨.weights fault, failed⟩
  refine .inr ?_
  have empty : stock.left keyed store = [] := by
    refine List.filter_eq_nil_iff.2 fun candidate member => ?_
    have listed : candidate.key ∈ stock.keys.map some := keys ▸ List.mem_map_of_mem member
    obtain ⟨key, known, same⟩ := List.mem_map.1 listed
    simp [← same, spent key known]
  rw [candidates, empty]
  rfl

/-- A choice from the stock takes one of its identifiers, which was unused. -/
theorem takes_of_run_choose {store : Store} {after : Option Store} {chosen : Chosen}
    {stream last : Random.Stream}
    (ran : (choose stock.options (some stock.rule) (some store)).run stream =
      ((.ok chosen, after), last)) :
    ∃ key ∈ stock.keys, stock.uses store key = false ∧
      after = some (store.mark stock.collection key) := by
  rw [run_choose] at ran
  rcases stock.candidatesIn_stock with ⟨fault, _, failed⟩ | ⟨keyed, _, keys, candidates⟩
  · simp [failed] at ran
  · rw [candidates] at ran
    split at ran
    · simp at ran
    next found accepted =>
      cases picked : Selection.pick found stream.next.1 with
      | error error => simp [picked] at ran
      | ok candidate =>
          simp only [picked, Prod.mk.injEq, Except.ok.injEq] at ran
          obtain ⟨⟨rfl, rfl⟩, rfl⟩ := ran
          have member := Selection.mem_of_pick picked
          split at accepted
          · cases accepted
          · cases accepted
            obtain ⟨member, unused⟩ := List.mem_filter.1 member
            have listed : candidate.key ∈ stock.keys.map some := keys ▸ List.mem_map_of_mem member
            obtain ⟨key, known, same⟩ := List.mem_map.1 listed
            refine ⟨key, known, by simpa [← same] using unused, ?_⟩
            simp [Chosen.markIn, ← same, collection]

variable (stock) in
/-- A choice from the stock is made by any draw, as long as the stock is not spent. -/
def Deals : Prop :=
  ∀ store, ¬stock.Spent store →
    ∃ found, candidatesIn stock.options (some stock.rule) store = .ok found ∧
      ∀ draw, ∃ candidate, Selection.pick found draw = .ok candidate

/-- A choice can be made from what is left if it has any weight, whichever options these are. -/
theorem deals_of_weights {weights : List Float} (weighed : stock.weights = .ok weights)
    (heavy : ∀ left ∈ weights.sublists, left ≠ [] →
      Arithmetic.atMost (Selection.total left) Arithmetic.zero = false) : stock.Deals := by
  intro store unspent
  rcases stock.candidatesIn_stock with ⟨fault, failed, _⟩ | ⟨keyed, known, keys, candidates⟩
  · rw [failed] at weighed
    cases weighed
  obtain rfl : keyed.map Candidate.weight = weights := Except.ok.inj (known.symm.trans weighed)
  have some_left : stock.left keyed store ≠ [] := by
    intro empty
    refine unspent fun key member => ?_
    have listed : some key ∈ keyed.map Candidate.key := keys ▸ List.mem_map_of_mem member
    obtain ⟨candidate, among, same⟩ := List.mem_map.1 listed
    simpa [same] using List.filter_eq_nil_iff.1 empty candidate among
  refine ⟨stock.left keyed store, by simp [candidates, some_left], fun draw => ?_⟩
  have sublist : (stock.left keyed store).map Candidate.weight ∈
      (keyed.map Candidate.weight).sublists :=
    List.mem_sublists.2 ((List.filter_sublist).map _)
  have weight := heavy _ sublist (by simpa using some_left)
  unfold Selection.pick
  simp only [weight]
  cases found : stock.left keyed store with
  | nil => exact absurd found some_left
  | cons first rest => exact ⟨_, rfl⟩

end Stock

end Unique

end Colloquy
