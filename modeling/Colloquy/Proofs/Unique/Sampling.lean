import Colloquy.Proofs.Selection.Picks
import Colloquy.Proofs.Unique.Unused

/-!
# Sampling a stock

Choices from a stock, one after another, take each of its identifiers once, whatever happens elsewhere
between them. Every further choice fails and leaves all as it was.
-/

set_option autoImplicit false

namespace Colloquy.Unique

open Selection (Choice Candidate Arithmetic IsDraw Picks remaining normalizeWeights)

theorem Chosen.markIn_some (chosen : Chosen) (rule : Option UniqueBy) (store : Store) :
    ∃ after, chosen.markIn rule (some store) = some after := by
  unfold Chosen.markIn
  split <;> exact ⟨_, rfl⟩

/-- Where a series of choices is: what is used by then, and how many values are drawn. -/
structure Sampler where
  store : Store
  drawn : Nat

namespace Stock

section Steps

variable {κ : Type} [Arithmetic κ]

def take (stock : Stock) (draws : Nat → κ) (sampler : Sampler) : Except Error Chosen × Sampler :=
  let ((outcome, after), taken) :=
    (choose stock.options (some stock.rule) (some sampler.store)).follow draws sampler.drawn
  (outcome, ⟨after.getD sampler.store, sampler.drawn + taken⟩)

/-- What is there before a choice, when something is done before each of them. -/
def sampler (stock : Stock) (draws : Nat → κ) (between : Nat → Sampler → Sampler) (first : Sampler) :
    Nat → Sampler
  | 0 => between 0 first
  | count + 1 => between (count + 1) (stock.take draws (stock.sampler draws between first count)).2

/-- What is done before choices leaves the collection of the stock as it is. -/
def Spares (stock : Stock) (between : Nat → Sampler → Sampler) : Prop :=
  ∀ count sampler key, stock.uses (between count sampler).store key = stock.uses sampler.store key

/-- The choices take these identifiers in turn and mark them by one draw each. Then no choice can be
made any more, and nothing changes. -/
structure Samples (stock : Stock) (draws : Nat → κ) (between : Nat → Sampler → Sampler)
    (first : Sampler) (names : List String) : Prop where
  takes : ∀ count key, names[count]? = some key → ∃ chosen option,
    stock.take draws (stock.sampler draws between first count) =
      (.ok chosen, ⟨(stock.sampler draws between first count).store.mark stock.collection key,
        (stock.sampler draws between first count).drawn + 1⟩) ∧
    stock.options[chosen.place]? = some option ∧ stock.rule.keyFor option.item = .ok key
  exhausted : ∀ count, names.length ≤ count →
    stock.take draws (stock.sampler draws between first count) =
      (.error (.exhausted stock.collection), stock.sampler draws between first count)

variable {stock : Stock} {draws : Nat → κ} {between : Nat → Sampler → Sampler} {first : Sampler}
  {places : List ((Nat × Datum) × κ)}

theorem sampler_succ (count : Nat) : stock.sampler draws between first (count + 1) =
    stock.sampler draws (fun count => between (count + 1)) (stock.take draws (between 0 first)).2
      count := by
  induction count with
  | zero => rfl
  | succ count ih =>
      show between (count + 2) _ = between (count + 2) _
      rw [ih]

theorem take_of_spent (accepted : normalizeWeights (numbered stock.options) = .ok places)
    (draws : Nat → κ) {sampler : Sampler} (spent : stock.Spent sampler.store) :
    stock.take draws sampler = (.error (.exhausted stock.collection), sampler) := by
  rw [take, follow_of_spent accepted spent]
  rfl

theorem take_of_not_spent (accepted : normalizeWeights (numbered stock.options) = .ok places)
    (picks : Picks κ stock.options.length) {sampler : Sampler} (drawn : IsDraw (draws sampler.drawn))
    (unspent : ¬stock.Spent sampler.store) :
    ∃ chosen option key, key ∈ stock.keys ∧ stock.uses sampler.store key = false ∧
      stock.take draws sampler =
        (.ok chosen, ⟨sampler.store.mark stock.collection key, sampler.drawn + 1⟩) ∧
      stock.options[chosen.place]? = some option ∧ stock.rule.keyFor option.item = .ok key := by
  have filled : remaining (filterOf (some stock.rule) (some sampler.store)) places ≠ [] :=
    fun empty => unspent ((remaining_eq_nil accepted).1 empty)
  have counted : (remaining (filterOf (some stock.rule) (some sampler.store)) places).length ≤
      stock.options.length := by
    have pairs := congrArg List.length (pairs_remaining stock sampler.store places)
    have all := congrArg List.length (items_places accepted)
    rw [List.length_map] at pairs
    rw [List.length_map, List.length_map] at all
    rw [pairs, ← all]
    exact List.length_filter_le _ _
  have found : (Selection.candidates (numbered stock.options)
      (filterOf (some stock.rule) (some sampler.store)) : Except Error (List (Candidate _ κ))) =
        .ok (remaining (filterOf (some stock.rule) (some sampler.store)) places) :=
    Selection.candidates_eq_ok.2 ⟨places, accepted, identifies accepted, filled, rfl⟩
  obtain ⟨candidate, member, picked⟩ := picks filled counted drawn
  obtain ⟨option, listed, item⟩ := option_of_remaining accepted member
  obtain ⟨-, key, named, carried, unused⟩ := Selection.mem_remaining.1 member
  have named : stock.rule.keyFor option.item = .ok key := item ▸ named
  obtain ⟨name, known, same⟩ := key_of_option (List.mem_of_getElem? listed)
  cases named.symm.trans same
  refine ⟨chosenAs candidate, option, key, known, unused, ?_, listed, named⟩
  rw [take, follow_choose, found]
  simp only [picked, chosenAs, carried, Chosen.markIn, Option.map_some, Option.getD_some]
  rfl

end Steps

/-- With the draws of a stream these are the choices that are made from it. -/
theorem take_of_stream (stock : Stock) (stream : Random.Stream) (sampler : Sampler) :
    let (outcome, later) := stock.take (fun position => (stream.behind position).next.1) sampler
    (choose stock.options (some stock.rule) (some sampler.store)).run (stream.behind sampler.drawn) =
      ((outcome, some later.store), stream.behind later.drawn) := by
  rw [Selection.Drawing.run_eq_follow]
  have kept : ∃ outcome after taken,
      (choose stock.options (some stock.rule) (some sampler.store)).follow
        (fun position => (stream.behind position).next.1) sampler.drawn = ((outcome, some after), taken) := by
    rw [follow_choose]
    split
    · exact ⟨_, _, _, rfl⟩
    · split
      · exact ⟨_, _, _, rfl⟩
      next candidate _ =>
        obtain ⟨after, marked⟩ :=
          Chosen.markIn_some (chosenAs candidate) (some stock.rule) sampler.store
        exact ⟨_, after, _, by rw [marked]⟩
  obtain ⟨outcome, after, taken, ran⟩ := kept
  simp only [take, ran, Option.getD_some]

section Runs

variable (stock : Stock)

def unusedKeys (store : Store) : List String :=
  stock.keys.dedup.filter fun key => !stock.uses store key

variable {stock}

theorem mem_unusedKeys {store : Store} {key : String} :
    key ∈ stock.unusedKeys store ↔ key ∈ stock.keys ∧ stock.uses store key = false := by
  simp [unusedKeys]

theorem unusedKeys_eq_nil {store : Store} : stock.unusedKeys store = [] ↔ stock.Spent store := by
  simp [unusedKeys, Spent]

theorem unusedKeys_congr {store other : Store}
    (same : ∀ key, stock.uses store key = stock.uses other key) :
    stock.unusedKeys store = stock.unusedKeys other := by
  simp [unusedKeys, same]

theorem unusedKeys_mark (store : Store) (key : String) :
    stock.unusedKeys (store.mark stock.collection key) = (stock.unusedKeys store).erase key := by
  have distinct : (stock.unusedKeys store).Nodup := (List.nodup_dedup _).filter _
  rw [distinct.erase_eq_filter, unusedKeys, unusedKeys, List.filter_filter]
  refine List.filter_congr fun name _ => ?_
  have marked := store.has_mark stock.collection key stock.collection name
  simp [uses, marked, bne, beq_eq_decide, Bool.and_comm]

variable {κ : Type} [Arithmetic κ] {places : List ((Nat × Datum) × κ)}

theorem spent_sampler (accepted : normalizeWeights (numbered stock.options) = .ok places)
    (draws : Nat → κ) {between : Nat → Sampler → Sampler} {first : Sampler}
    (spares : stock.Spares between) (spent : stock.Spent first.store) (count : Nat) :
    stock.Spent (stock.sampler draws between first count).store := by
  have keeps {sampler : Sampler} (spent : stock.Spent sampler.store) (count : Nat) :
      stock.Spent (between count sampler).store :=
    fun key member => (spares count sampler key).trans (spent key member)
  induction count with
  | zero => exact keeps spent 0
  | succ count ih =>
      refine keeps ?_ (count + 1)
      rw [take_of_spent accepted draws ih]
      exact ih

theorem exists_samples (accepted : normalizeWeights (numbered stock.options) = .ok places)
    (picks : Picks κ stock.options.length) {draws : Nat → κ}
    (drawn : ∀ position, IsDraw (draws position)) (between : Nat → Sampler → Sampler)
    (spares : stock.Spares between) (first : Sampler) :
    ∃ names, names.Perm (stock.unusedKeys first.store) ∧ stock.Samples draws between first names := by
  -- by induction on how much is unused, from any start: after its first choice a series is one from
  -- the store with one identifier more, and what happens elsewhere comes one place earlier
  generalize size : (stock.unusedKeys first.store).length = left
  induction left generalizing first between with
  | zero =>
      have empty := List.length_eq_zero_iff.1 size
      have spent := spent_sampler accepted draws spares (unusedKeys_eq_nil.1 empty)
      exact ⟨[], by rw [empty], ⟨fun count key listed => by simp at listed,
        fun count _ => take_of_spent accepted draws (spent count)⟩⟩
  | succ left ih =>
      have same := unusedKeys_congr fun key => spares 0 first key
      have unspent : ¬stock.Spent (between 0 first).store := by
        rw [← unusedKeys_eq_nil, same]
        intro empty
        simp [empty] at size
      obtain ⟨chosen, option, key, known, unused, taken, listed, named⟩ :=
        take_of_not_spent accepted picks (drawn _) unspent
      have member : key ∈ stock.unusedKeys first.store := same ▸ mem_unusedKeys.2 ⟨known, unused⟩
      have rest : stock.unusedKeys (stock.take draws (between 0 first)).2.store =
          (stock.unusedKeys first.store).erase key := by
        rw [taken, unusedKeys_mark, same]
      obtain ⟨names, perm, samples⟩ := ih (fun count => between (count + 1))
        (fun count => spares (count + 1)) (stock.take draws (between 0 first)).2
        (by rw [rest, List.length_erase_of_mem member, size]; rfl)
      rw [rest] at perm
      refine ⟨key :: names, (perm.cons key).trans (List.perm_cons_erase member).symm, ?_, ?_⟩
      · intro count name found
        cases count with
        | zero =>
            cases found
            exact ⟨chosen, option, taken, listed, named⟩
        | succ count =>
            rw [sampler_succ]
            exact samples.takes count name found
      · intro count behind
        cases count with
        | zero => simp at behind
        | succ count =>
            rw [sampler_succ]
            exact samples.exhausted count (Nat.le_of_succ_le_succ behind)

end Runs

/-- With numbers of this type, every series of choices from the stock takes each of its identifiers
once. -/
def SampledOnce (κ : Type) [Arithmetic κ] (stock : Stock) (first : Sampler) : Prop :=
  ∀ weighed : List (Datum × κ), normalizeWeights stock.options = .ok weighed →
    ∀ draws : Nat → κ, (∀ position, IsDraw (draws position)) →
      ∀ between, stock.Spares between →
        ∃ names, names.Perm stock.keys.dedup ∧ stock.Samples draws between first names

theorem sampledOnce_of_picks {κ : Type} [Arithmetic κ] {stock : Stock} {first : Sampler}
    (picks : Picks κ stock.options.length)
    (fresh : ∀ key ∈ stock.keys, stock.uses first.store key = false) : stock.SampledOnce κ first := by
  intro weighed accepted draws drawn between spares
  obtain ⟨places, numbered_accepted, -⟩ := normalizeWeights_numbered accepted
  have all : stock.unusedKeys first.store = stock.keys.dedup :=
    List.filter_eq_self.2 fun key member => by simp [fresh key (List.mem_dedup.1 member)]
  rw [← all]
  exact exists_samples numbered_accepted picks drawn between spares first

/-- As many choices as a fresh stock has distinct identifiers take each of them once, and all further
choices are exhausted, draw nothing and change nothing. The numbers are rational, or doubles that count
the options. -/
theorem samples_each_once (stock : Stock) (first : Sampler)
    (fresh : ∀ key ∈ stock.keys, stock.uses first.store key = false) :
    stock.SampledOnce Rat first ∧ (stock.options.length < 2 ^ 63 → stock.SampledOnce Float first) :=
  ⟨sampledOnce_of_picks (Selection.picks_rational _) fresh,
    fun small => sampledOnce_of_picks (Selection.picks_double small) fresh⟩

end Stock

/-- Two options are the same letter, and only the other letter has any weight. -/
def repeatedLetters : Stock where
  options := [.weighted (.text "a") (.float 0.0), .weighted (.text "b") (.float 1.0), .plain (.text "a")]
  rule := letterRule
  keys := ["str:a", "str:b", "str:a"]
  identified := rfl

/-- The same letter is marked in another collection, and one value is drawn. -/
def markWord (sampler : Sampler) : Sampler := ⟨sampler.store.mark "words" "str:a", sampler.drawn + 1⟩

theorem samples_each_once_repeatedLetters :
    (∀ key ∈ repeatedLetters.keys, repeatedLetters.uses .fresh key = false) ∧ IsDraw (0.5 : Float) ∧
      ∃ names, names.Perm ["str:b", "str:a"] ∧
        repeatedLetters.Samples (fun _ => (0.5 : Float)) (fun _ => markWord) ⟨.fresh, 0⟩ names := by
  have fresh : ∀ key ∈ repeatedLetters.keys, repeatedLetters.uses .fresh key = false := by decide
  have half : IsDraw (0.5 : Float) := ⟨by decide +kernel, by decide +kernel⟩
  have weights : (normalizeWeights repeatedLetters.options).toOption.map (List.map Prod.snd) =
      some [(0.0 : Float), 1.0, 0.0] := by decide +kernel
  have distinct : repeatedLetters.keys.dedup = ["str:b", "str:a"] := by decide
  have spares : repeatedLetters.Spares fun _ => markWord := by
    intro count sampler key
    show (sampler.store.mark "words" "str:a").has "letters" key = sampler.store.has "letters" key
    rw [Store.has_mark]
    simp
  obtain ⟨-, double⟩ := Stock.samples_each_once repeatedLetters ⟨.fresh, 0⟩ fresh
  obtain ⟨names, perm, samples⟩ := double (by decide) _ (Selection.normalizeWeights_of_weights weights)
    (fun _ => 0.5) (fun _ => half) (fun _ => markWord) spares
  exact ⟨fresh, half, names, distinct ▸ perm, samples⟩

end Colloquy.Unique
