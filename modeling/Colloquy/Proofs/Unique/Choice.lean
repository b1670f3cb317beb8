import Colloquy.Proofs.Results
import Colloquy.Unique.Choice

/-!
# Choices and the identifiers they mark

A choice looks at a store only through the identifiers that are used in it. If it is made under a
uniqueness rule, it marks one identifier that was not used before.
-/

set_option autoImplicit false

namespace Colloquy

open Selection (Choice Candidate Drawing Filter Arithmetic)

theorem Selection.Drawing.run_bind {α β : Type} (drawing : Drawing Float α)
    (next : α → Drawing Float β) (stream : Random.Stream) :
    (drawing.bind next).run stream = (next (drawing.run stream).1).run (drawing.run stream).2 := by
  induction drawing generalizing stream with
  | done result => rfl
  | draw rest ih => exact ih _ _

/-- The stream behind a number of draws. -/
def Random.Stream.behind (stream : Random.Stream) : Nat → Random.Stream
  | 0 => stream
  | count + 1 => (stream.behind count).next.2

/-- A drawing from a stream follows the sequence of its draws. -/
theorem Selection.Drawing.run_eq_follow {α : Type} (drawing : Drawing Float α)
    (stream : Random.Stream) (start : Nat) :
    drawing.run (stream.behind start) =
      ((drawing.follow (fun position => (stream.behind position).next.1) start).1,
        stream.behind
          (start + (drawing.follow (fun position => (stream.behind position).next.1) start).2)) := by
  induction drawing generalizing start with
  | done result => rfl
  | draw rest ih =>
      have later := ih (stream.behind start).next.1 (start + 1)
      rw [Nat.add_assoc, Nat.add_comm 1] at later
      exact later

namespace Unique

theorem Collections.mem_used_mark (collections : Collections) (collection key other name : String) :
    name ∈ (collections.mark collection key).used other ↔
      name ∈ collections.used other ∨ other = collection ∧ name = key := by
  rw [used_mark]
  by_cases here : other = collection
  · subst here
    by_cases known : key ∈ collections.used other
    · simp only [if_true, List.contains_iff_mem, known, true_and]
      exact ⟨.inl, fun either => either.elim id fun same => same ▸ known⟩
    · simp [known]
  · simp [here]

theorem Collections.has_mark (collections : Collections) (collection key other name : String) :
    (collections.mark collection key).has other name =
      (collections.has other name || (decide (other = collection) && decide (name = key))) := by
  rw [Bool.eq_iff_iff]
  simpa [has] using collections.mem_used_mark collection key other name

namespace Store

/-- Two stores in which the same identifiers are used. -/
def Same (left right : Store) : Prop :=
  ∀ collection key, left.has collection key = right.has collection key

theorem has_mark (store : Store) (collection key other name : String) :
    (store.mark collection key).has other name =
      (store.has other name || (decide (other = collection) && decide (name = key))) := by
  induction store with
  | plain own => exact own.has_mark collection key other name
  | overlay own base ih => simp [mark, has, Collections.has_mark, Bool.or_right_comm]
  | tracking marked target ih => exact ih

theorem Same.mark {left right : Store} (same : left.Same right) (collection key : String) :
    (left.mark collection key).Same (right.mark collection key) := by
  intro other name
  rw [has_mark, has_mark, same]

end Store

/-- A uniqueness rule filters alike by stores in which the same identifiers are used. -/
theorem UniqueBy.filter_congr (rule : UniqueBy) {left right : Store} (same : left.Same right) :
    rule.filter (some left) = rule.filter (some right) := by
  have used : left.has rule.collection = right.has rule.collection :=
    funext fun key => same rule.collection key
  simp [filter, used]

def candidatesIn (options : List (Choice Datum)) (rule : Option UniqueBy) (store : Store) :
    Except Error (List (Candidate (Nat × Datum) Float)) :=
  Selection.candidates (numbered options) (rule.map fun rule => rule.filter (some store))

theorem candidatesIn_congr (options : List (Choice Datum)) (rule : Option UniqueBy)
    {left right : Store} (same : left.Same right) :
    candidatesIn options rule left = candidatesIn options rule right := by
  cases rule with
  | none => rfl
  | some rule => simp [candidatesIn, rule.filter_congr same]

theorem run_choose (options : List (Choice Datum)) (rule : Option UniqueBy) (store : Store)
    (stream : Random.Stream) :
    (choose options rule (some store)).run stream =
      match candidatesIn options rule store with
      | .error error => ((.error error, some store), stream)
      | .ok found =>
          match Selection.pick found stream.next.1 with
          | .error error => ((.error error, some store), stream.next.2)
          | .ok candidate =>
              ((.ok ⟨candidate.item.1, candidate.key⟩,
                Chosen.markIn ⟨candidate.item.1, candidate.key⟩ rule (some store)),
                stream.next.2) := by
  simp only [choose, Drawing.run_bind, Selection.choose, candidatesIn]
  cases (Selection.candidates (numbered options)
      (rule.map fun rule => rule.filter (some store)) :
        Except Error (List (Candidate (Nat × Datum) Float))) with
  | error error => rfl
  | ok found =>
      simp only [Drawing.run]
      cases Selection.pick found stream.next.1 with
      | error error => rfl
      | ok candidate => rfl

/-- What a choice comes to does not depend on how the used identifiers are stored. -/
theorem run_choose_congr (options : List (Choice Datum)) (rule : Option UniqueBy)
    {left right : Store} (same : left.Same right) (stream : Random.Stream) :
    ((choose options rule (some left)).run stream).1.1 =
        ((choose options rule (some right)).run stream).1.1 ∧
      ((choose options rule (some left)).run stream).2 =
        ((choose options rule (some right)).run stream).2 ∧
      (((choose options rule (some left)).run stream).1.2.getD left).Same
        (((choose options rule (some right)).run stream).1.2.getD right) := by
  rw [run_choose, run_choose, candidatesIn_congr options rule same]
  cases candidatesIn options rule right with
  | error error => exact ⟨rfl, rfl, same⟩
  | ok found =>
      dsimp only
      cases Selection.pick found stream.next.1 with
      | error error => exact ⟨rfl, rfl, same⟩
      | ok candidate =>
          refine ⟨rfl, rfl, ?_⟩
          cases rule with
          | none => exact same
          | some rule =>
              cases key : candidate.key with
              | none => simpa [Chosen.markIn, key] using same
              | some name => simpa [Chosen.markIn, key] using same.mark rule.collection name

end Unique

namespace Selection

theorem mem_of_reach {α κ : Type} [Arithmetic κ] (needle : κ) (candidates : List (Candidate α κ))
    (sum : κ) (last : Candidate α κ) :
    reach needle sum last candidates = last ∨ reach needle sum last candidates ∈ candidates := by
  induction candidates generalizing sum last with
  | nil => exact .inl rfl
  | cons candidate rest ih =>
      unfold reach
      dsimp only
      split
      · exact .inr List.mem_cons_self
      · rcases ih (sum + candidate.weight) candidate with same | later
        · rw [same]
          exact .inr List.mem_cons_self
        · exact .inr (List.mem_cons_of_mem _ later)

theorem mem_of_candidateAt {α κ : Type} {candidates : List (Candidate α κ)} {position : Int}
    {candidate : Candidate α κ} (found : candidateAt candidates position = .ok candidate) :
    candidate ∈ candidates := by
  simp only [candidateAt] at found
  split at found
  next candidate here =>
    cases found
    exact List.mem_of_getElem? (Option.ite_none_left_eq_some.1 here).2
  · cases found

theorem mem_of_pick {α κ : Type} [Arithmetic κ] {candidates : List (Candidate α κ)} {draw : κ}
    {candidate : Candidate α κ} (picked : pick candidates draw = .ok candidate) :
    candidate ∈ candidates := by
  simp only [pick] at picked
  split at picked
  · split at picked
    · obtain ⟨place, _, found⟩ := bind_eq_ok.1 picked
      exact mem_of_candidateAt found
    · cases picked
  · cases candidates with
    | nil => cases picked
    | cons first rest =>
        cases picked
        rcases mem_of_reach _ (first :: rest) Arithmetic.zero first with same | later
        · rw [same]
          exact List.mem_cons_self
        · exact later

theorem key_of_identify {α κ : Type} {key : α → Except Error String} {pairs : List (α × κ)}
    {keyed : List (Candidate α κ)} (identified : identify key pairs = .ok keyed) :
    ∀ candidate ∈ keyed, candidate.key.isSome := by
  induction pairs generalizing keyed with
  | nil =>
      cases identified
      simp
  | cons pair rest ih =>
      obtain ⟨item, weight⟩ := pair
      obtain ⟨name, named, identified⟩ := bind_eq_ok.1 identified
      obtain ⟨found, others, identified⟩ := bind_eq_ok.1 identified
      cases identified
      intro candidate member
      rcases List.mem_cons.1 member with same | later
      · simp [same]
      · exact ih others candidate later

theorem unused_of_candidates {α κ : Type} [Arithmetic κ] {choices : List (Choice α)}
    {filter : Filter α} {found : List (Candidate α κ)}
    (accepted : candidates choices (some filter) = .ok found) :
    ∀ candidate ∈ found, ∃ key, candidate.key = some key ∧ filter.used key = false := by
  obtain ⟨normalized, _, accepted⟩ := bind_eq_ok.1 accepted
  obtain ⟨keyed, identified, accepted⟩ := bind_eq_ok.1 accepted
  dsimp only at accepted
  split at accepted
  · cases accepted
  · cases accepted
    intro candidate member
    obtain ⟨known, unused⟩ := List.mem_filter.1 member
    obtain ⟨key, named⟩ := Option.isSome_iff_exists.1 (key_of_identify identified _ known)
    exact ⟨key, named, by simpa [named] using unused⟩

theorem items_of_readWeights {α κ : Type} [Arithmetic κ] {choices : List (Choice α)}
    {read : List (α × Option κ)} (accepted : readWeights choices = .ok read) :
    read.map Prod.fst = choices.map Choice.item := by
  induction choices generalizing read with
  | nil =>
      cases accepted
      rfl
  | cons choice choices ih =>
      unfold readWeights at accepted
      split at accepted
      · obtain ⟨others, known, accepted⟩ := bind_eq_ok.1 accepted
        cases accepted
        simp [ih known]
      · obtain ⟨number, _, accepted⟩ := bind_eq_ok.1 accepted
        obtain ⟨others, known, accepted⟩ := bind_eq_ok.1 accepted
        cases accepted
        simp [ih known]

theorem items_of_normalizeWeights {α κ : Type} [Arithmetic κ] {choices : List (Choice α)}
    {normalized : List (α × κ)} (accepted : normalizeWeights choices = .ok normalized) :
    normalized.map Prod.fst = choices.map Choice.item := by
  unfold normalizeWeights at accepted
  split at accepted
  · cases accepted
  · obtain ⟨read, known, accepted⟩ := bind_eq_ok.1 accepted
    dsimp only at accepted
    split at accepted
    · cases accepted
    · cases accepted
      simpa [Function.comp_def] using items_of_readWeights known

theorem items_of_identify {α κ : Type} {key : α → Except Error String} {pairs : List (α × κ)}
    {keyed : List (Candidate α κ)} (identified : identify key pairs = .ok keyed) :
    keyed.map Candidate.item = pairs.map Prod.fst := by
  induction pairs generalizing keyed with
  | nil =>
      cases identified
      rfl
  | cons pair rest ih =>
      obtain ⟨name, _, identified⟩ := bind_eq_ok.1 identified
      obtain ⟨found, others, identified⟩ := bind_eq_ok.1 identified
      cases identified
      simp [ih others]

/-- Each candidate is one of the options. -/
theorem item_of_candidates {α κ : Type} [Arithmetic κ] {choices : List (Choice α)}
    {filter : Option (Filter α)} {found : List (Candidate α κ)}
    (accepted : candidates choices filter = .ok found) :
    ∀ candidate ∈ found, candidate.item ∈ choices.map Choice.item := by
  obtain ⟨normalized, weighed, accepted⟩ := bind_eq_ok.1 accepted
  rw [← items_of_normalizeWeights (mapError_eq_ok.1 weighed)]
  intro candidate member
  cases filter with
  | none =>
      cases accepted
      obtain ⟨pair, known, rfl⟩ := List.mem_map.1 member
      exact List.mem_map.2 ⟨pair, known, rfl⟩
  | some filter =>
      obtain ⟨keyed, identified, accepted⟩ := bind_eq_ok.1 accepted
      dsimp only at accepted
      split at accepted
      · cases accepted
      · cases accepted
        rw [← items_of_identify identified]
        exact List.mem_map_of_mem (List.mem_filter.1 member).1

end Selection

namespace Unique

/-- What is chosen is the position of an option. -/
theorem place_lt_of_run_choose {options : List (Choice Datum)} {rule : Option UniqueBy}
    {store : Store} {after : Option Store} {chosen : Chosen} {stream last : Random.Stream}
    (ran : (choose options rule (some store)).run stream = ((.ok chosen, after), last)) :
    chosen.place < options.length := by
  rw [run_choose] at ran
  cases found : candidatesIn options rule store with
  | error error => simp [found] at ran
  | ok accepted =>
      cases picked : Selection.pick accepted stream.next.1 with
      | error error => simp [found, picked] at ran
      | ok candidate =>
          simp only [found, picked, Prod.mk.injEq, Except.ok.injEq] at ran
          obtain ⟨⟨rfl, _⟩, _⟩ := ran
          have item := Selection.item_of_candidates found candidate (Selection.mem_of_pick picked)
          obtain ⟨option, member, same⟩ := List.mem_map.1 item
          obtain ⟨place, inside, rfl⟩ := List.mem_mapIdx.1 member
          have here : (options[place].map fun value => (place, value)).item.1 = place := by
            cases options[place] <;> rfl
          rw [← same, here]
          exact inside

/-- A successful choice either marks nothing or one identifier that was not used, and it takes one
draw. -/
theorem marks_of_run_choose {options : List (Choice Datum)} {rule : Option UniqueBy}
    {store : Store} {after : Option Store} {chosen : Chosen} {stream last : Random.Stream}
    (ran : (choose options rule (some store)).run stream = ((.ok chosen, after), last)) :
    last = stream.next.2 ∧
      ((rule = none ∧ after = some store) ∨
        ∃ given key, rule = some given ∧ store.has given.collection key = false ∧
          after = some (store.mark given.collection key)) := by
  rw [run_choose] at ran
  cases found : candidatesIn options rule store with
  | error error => simp [found] at ran
  | ok accepted =>
      cases picked : Selection.pick accepted stream.next.1 with
      | error error => simp [found, picked] at ran
      | ok candidate =>
          simp only [found, picked, Prod.mk.injEq, Except.ok.injEq] at ran
          obtain ⟨⟨rfl, rfl⟩, rfl⟩ := ran
          refine ⟨rfl, ?_⟩
          cases rule with
          | none => exact .inl ⟨rfl, rfl⟩
          | some rule =>
              obtain ⟨key, named, unused⟩ :=
                Selection.unused_of_candidates found candidate (Selection.mem_of_pick picked)
              exact .inr ⟨rule, key, rfl, unused, by simp [Chosen.markIn, named]⟩

end Unique

end Colloquy
