import Colloquy.Proofs.Resolution.Reference
import Colloquy.Proofs.Resolution.References
import Mathlib.Data.List.Induction

/-!
# The plan of a tree

The plan that a check phase returns is told by the course of the tree: the entries of its leaves,
the tools that it lists and the updates that it makes. If nothing else goes wrong, then the phase
fails exactly if a leaf refers to a call that no leaf before it makes.
-/

set_option autoImplicit false

namespace Colloquy

namespace ToolSpec

theorem joined_append (known specs more : List ToolSpec) :
    joined known (specs ++ more) = joined (joined known specs) more := by
  induction specs generalizing known with
  | nil => rw [List.nil_append, joined_nil]
  | cons spec specs ih => rw [List.cons_append, joined_cons, joined_cons, ih]

theorem firsts_append (specs more : List ToolSpec) :
    firsts (specs ++ more) = joined (firsts specs) more := by
  rw [← nil_joined, joined_append, nil_joined]

end ToolSpec

/-- Metadata under distinct texts is taken as it is. -/
theorem planMetadata_toEntries {fields : Fields} (distinct : (fields.map Prod.fst).Nodup) :
    planMetadata fields.toEntries = .ok fields.toEntries :=
  congrArg (fun fitted : Fitted Fields =>
      ((fitted.under (.key "metadata")).map Fields.toEntries).mapError
        (Error.ofFaults "StructuralPlan"))
    (Fit.dictionary_toDatum distinct)

/-- The leaf is a call under the id, or under the one that this id is deferred from. -/
def Leaf.IsCallUnder (wanted : String) (leaf : Leaf) : Prop :=
  ∃ use id, leaf = .call use ∧ Fit.text use.callId = .ok id ∧
    (id = wanted ∨ id ++ finalSuffix = wanted)

/-- A leaf refers to a call, and no leaf that is visited before is that call. -/
def Misses (visits : List Visit) (wanted : String) : Prop :=
  ∃ before visit after, visits = before ++ visit :: after ∧
    visit.leaf.reference? = some (.text wanted) ∧
    ∀ earlier ∈ before, ¬earlier.leaf.IsCallUnder wanted

theorem not_misses_nil (wanted : String) : ¬Misses [] wanted := by
  rintro ⟨before, visit, after, same, _⟩
  exact absurd same.symm (List.append_ne_nil_of_right_ne_nil before (List.cons_ne_nil visit after))

theorem Misses.append {visits : List Visit} {wanted : String} (misses : Misses visits wanted)
    (more : List Visit) : Misses (visits ++ more) wanted := by
  obtain ⟨before, visit, after, rfl, refers, none⟩ := misses
  exact ⟨before, visit, after ++ more, List.append_assoc _ _ _, refers, none⟩

theorem misses_concat {visits : List Visit} {visit : Visit} {wanted : String} :
    Misses (visits ++ [visit]) wanted ↔ Misses visits wanted ∨
      visit.leaf.reference? = some (.text wanted) ∧
        ∀ earlier ∈ visits, ¬earlier.leaf.IsCallUnder wanted := by
  constructor
  · rintro ⟨before, found, after, same, refers, none⟩
    rcases List.eq_nil_or_concat after with rfl | ⟨front, last, rfl⟩
    · obtain ⟨rfl, last⟩ := List.append_inj' same rfl
      obtain rfl : visit = found := (List.cons.inj last).1
      exact .inr ⟨refers, none⟩
    · rw [List.concat_eq_append, ← List.cons_append, ← List.append_assoc] at same
      obtain ⟨rfl, _⟩ := List.append_inj' same rfl
      exact .inl ⟨before, found, front, rfl, refers, none⟩
  · rintro (misses | ⟨refers, none⟩)
    · exact misses.append [visit]
    · exact ⟨visits, visit, [], rfl, refers, none⟩

theorem Visit.isCallOf_entry {visit : Visit} {entry : PlanEntry}
    (planned : visit.entry = .ok entry) (wanted : String) :
    entry.isCallOf wanted = true ↔ visit.leaf.IsCallUnder wanted := by
  obtain ⟨draft, drafted, fitted⟩ := bind_eq_ok.1 planned
  obtain ⟨arguments, _, rfl⟩ := map_eq_ok.1 drafted
  obtain ⟨_, named, same⟩ := EntryDraft.fit_eq_ok fitted
  have kind : entry.kind = visit.leaf.kind := by rw [same]
  rw [PlanEntry.isCallOf_iff, kind]
  simp only [mem_lookupIds_iff]
  unfold Leaf.IsCallUnder
  cases leaf : visit.leaf with
  | call use =>
      rw [leaf] at named
      have named : Fit.nullable Fit.text use.callId = .ok entry.toolCallId := named
      constructor
      · rintro ⟨_, id, under, found⟩
        refine ⟨use, id, rfl, ?_, under⟩
        rw [found] at named
        unfold Fit.nullable at named
        split at named
        · cases named
        · obtain ⟨_, read, same⟩ := Fitted.map_eq_ok.1 named
          cases same
          exact read
      · rintro ⟨other, id, same, read, under⟩
        cases same
        exact ⟨rfl, id, under, Fit.nullable_text_of_text read named⟩
  | fixed role content => exact ⟨nofun, nofun⟩
  | written role prompt => exact ⟨nofun, nofun⟩
  | result answer => exact ⟨nofun, nofun⟩

theorem any_isCallOf {visits : List Visit} {entries : List PlanEntry}
    (planned : List.Forall₂ (fun visit entry => Visit.entry visit = .ok entry) visits entries)
    (wanted : String) : entries.any (PlanEntry.isCallOf wanted) = true ↔
      ∃ visit ∈ visits, visit.leaf.IsCallUnder wanted := by
  induction planned with
  | nil => simp
  | cons planned _ ih =>
      rw [List.any_cons, Bool.or_eq_true, ih, Visit.isCallOf_entry planned]
      simp only [List.mem_cons, exists_eq_or_imp]

/-- The plan has what happens: an entry for each leaf that is visited, the tools that are listed,
each name once, and the metadata that comes of the updates. -/
structure Plan.Records (events : List Event) (initial : Entries) (plan : Plan) : Prop where
  entries : List.Forall₂ (fun visit entry => Visit.entry visit = .ok entry)
    (events.filterMap Event.visit?) plan.entries
  tools : plan.tools = ToolSpec.firsts (events.filterMap Event.tool?)
  metadata : (events.filterMap Event.update?).foldlM MetadataUpdate.apply initial =
    .ok plan.metadata

namespace Plan.Records

variable {events : List Event} {initial : Entries} {plan : Plan}

theorem nothing (initial : Entries) : Plan.Records [] initial ⟨[], [], initial⟩ :=
  ⟨.nil, rfl, rfl⟩

theorem require_text (records : plan.Records events initial) (wanted : String) :
    (∃ visit ∈ events.filterMap Event.visit?, visit.leaf.IsCallUnder wanted) ∧
        plan.require (some (.text wanted)) = .ok () ∨
      (∀ visit ∈ events.filterMap Event.visit?, ¬visit.leaf.IsCallUnder wanted) ∧
        plan.require (some (.text wanted)) =
          .error (.toolCallNotFound wanted (normalizeCallId wanted)) := by
  have found : (Context.lookupIds wanted).any plan.hasToolCall =
      plan.entries.any (PlanEntry.isCallOf wanted) := by
    rw [Bool.eq_iff_iff]
    simp only [List.any_eq_true, PlanEntry.isCallOf_iff, Plan.hasToolCall, Bool.and_eq_true,
      decide_eq_true_eq]
    constructor
    · rintro ⟨id, listed, entry, member, calls, named⟩
      exact ⟨entry, member, calls, id, listed, named⟩
    · rintro ⟨entry, member, calls, id, listed, named⟩
      exact ⟨id, listed, entry, member, calls, named⟩
  have required : plan.require (some (.text wanted)) =
      if plan.entries.any (PlanEntry.isCallOf wanted) then .ok ()
      else .error (.toolCallNotFound wanted (normalizeCallId wanted)) := by
    rw [← found]
    rfl
  by_cases met : plan.entries.any (PlanEntry.isCallOf wanted) = true
  · exact .inl ⟨(any_isCallOf records.entries wanted).1 met, by rw [required, if_pos met]⟩
  · refine .inr ⟨fun visit member calls => met ?_, by rw [required, if_neg met]⟩
    exact (any_isCallOf records.entries wanted).2 ⟨visit, member, calls⟩

theorem play (records : plan.Records events initial) {event : Event} {later : Plan}
    (played : event.play plan = .ok later) : later.Records (events ++ [event]) initial := by
  obtain ⟨entries, tools, metadata⟩ := records
  cases event with
  | entry visit =>
      obtain ⟨_, _, played⟩ := bind_eq_ok.1 played
      obtain ⟨entry, planned, played⟩ := bind_eq_ok.1 played
      cases played
      constructor
      · rw [List.filterMap_append]
        exact List.rel_append entries (.cons planned .nil)
      · simpa [List.filterMap_cons, Event.tool?] using tools
      · simpa [List.filterMap_cons, Event.update?] using metadata
  | list tool =>
      cases played
      constructor
      · simpa [List.filterMap_cons, Event.visit?] using entries
      · rw [List.filterMap_append, ToolSpec.firsts_append, ← tools]
        rfl
      · simpa [List.filterMap_cons, Event.update?] using metadata
  | update change =>
      obtain ⟨updated, applied, played⟩ := bind_eq_ok.1 played
      cases played
      constructor
      · simpa [List.filterMap_cons, Event.visit?] using entries
      · simpa [List.filterMap_cons, Event.tool?] using tools
      · rw [List.filterMap_append, List.foldlM_append, metadata]
        exact congrArg (· >>= pure) applied

end Plan.Records

/-- The leaf is planned, or the call that it refers to is missing; the update can be made. -/
def Event.IsSound (plan : Plan) : Event → Prop
  | entry visit => (∃ entry, visit.entry = .ok entry) ∧
      ∀ reference ∈ visit.leaf.reference?, ∃ wanted, reference = .text wanted
  | list _ => True
  | update change => ∃ metadata, change.apply plan.metadata = .ok metadata

namespace Event

variable {events : List Event} {initial : Entries} {plan : Plan}

theorem IsSound.play (records : plan.Records events initial) {event : Event}
    (sound : event.IsSound plan) :
    (∃ later, event.play plan = .ok later) ∨
      ∃ wanted, event.play plan = .error (.toolCallNotFound wanted (normalizeCallId wanted)) ∧
        Misses ((events ++ [event]).filterMap Event.visit?) wanted := by
  cases event with
  | list tool => exact .inl ⟨_, rfl⟩
  | update change =>
      obtain ⟨metadata, applied⟩ := sound
      exact .inl ⟨_, congrArg (· >>= _) applied⟩
  | entry visit =>
      obtain ⟨⟨entry, planned⟩, texts⟩ := sound
      unfold Event.play
      dsimp only
      rw [planned]
      cases refers : visit.leaf.reference? with
      | none => exact .inl ⟨_, rfl⟩
      | some reference =>
          obtain ⟨wanted, rfl⟩ := texts reference refers
          rcases records.require_text wanted with ⟨_, required⟩ | ⟨none, required⟩
          · rw [required]
            exact .inl ⟨_, rfl⟩
          · rw [required, List.filterMap_append]
            exact .inr ⟨wanted, rfl, misses_concat.2 (.inr ⟨refers, none⟩)⟩

theorem misses_of_play (records : plan.Records events initial) {event : Event} {later : Plan}
    (played : event.play plan = .ok later) {wanted : String}
    (misses : Misses ((events ++ [event]).filterMap Event.visit?) wanted) :
    Misses (events.filterMap Event.visit?) wanted := by
  cases event with
  | list tool => simpa [List.filterMap_cons, Event.visit?] using misses
  | update change => simpa [List.filterMap_cons, Event.visit?] using misses
  | entry visit =>
      rw [List.filterMap_append] at misses
      rcases misses_concat.1 misses with before | ⟨refers, none⟩
      · exact before
      · obtain ⟨_, required, _⟩ := bind_eq_ok.1 played
        rw [refers] at required
        -- The event has found the call in the plan, so that the call has been visited.
        rcases records.require_text wanted with ⟨⟨earlier, member, calls⟩, _⟩ | ⟨_, failed⟩
        · exact absurd calls (none earlier member)
        · exact nomatch failed.symm.trans required

end Event

theorem Event.foldlM_play_concat (events : List Event) (event : Event) (plan : Plan) :
    (events ++ [event]).foldlM Event.play plan =
      events.foldlM Event.play plan >>= fun later => event.play later := by
  simp

/-- A plan that events play to has all of them, and none refers to a call that is missing. -/
theorem Plan.records_of_foldlM {events : List Event} {initial : Entries} {plan : Plan}
    (played : events.foldlM Event.play ⟨[], [], initial⟩ = .ok plan) :
    plan.Records events initial ∧
      ∀ wanted, ¬Misses (events.filterMap Event.visit?) wanted := by
  -- What an event refers to is looked up among the events before it: the induction adds the last.
  induction events using List.reverseRecOn generalizing plan with
  | nil =>
      cases played
      exact ⟨.nothing initial, not_misses_nil⟩
  | append_singleton events event ih =>
      rw [Event.foldlM_play_concat] at played
      obtain ⟨before, earlier, played⟩ := bind_eq_ok.1 played
      obtain ⟨records, met⟩ := ih earlier
      exact ⟨records.play played, fun wanted misses =>
        met wanted (Event.misses_of_play records played misses)⟩

/-- Events of which each is sound when it is come to play to a plan, or come to a leaf that refers
to a call that is missing. -/
theorem Event.foldlM_play {events : List Event} {initial : Entries}
    (sound : ∀ before event after, events = before ++ event :: after →
      ∀ plan, before.foldlM Event.play ⟨[], [], initial⟩ = .ok plan → event.IsSound plan) :
    (∃ plan, events.foldlM Event.play ⟨[], [], initial⟩ = .ok plan) ∨
      ∃ wanted, events.foldlM Event.play ⟨[], [], initial⟩ =
          .error (.toolCallNotFound wanted (normalizeCallId wanted)) ∧
        Misses (events.filterMap Event.visit?) wanted := by
  induction events using List.reverseRecOn with
  | nil => exact .inl ⟨_, rfl⟩
  | append_singleton events event ih =>
      have earlier := ih fun before event' after same plan played =>
        sound before event' (after ++ [event]) (by rw [same]; simp) plan played
      rw [Event.foldlM_play_concat]
      rcases earlier with ⟨plan, played⟩ | ⟨wanted, failed, misses⟩
      · rw [played]
        exact (sound events event [] rfl plan played).play (Plan.records_of_foldlM played).1
      · refine .inr ⟨wanted, by rw [failed]; rfl, ?_⟩
        rw [List.filterMap_append]
        exact misses.append _

/-- Nothing that a course comes to goes wrong, but that a call may be missing. -/
structure Course.IsSound (course : Course) (initial : Entries) : Prop where
  events : ∀ before event after, course.events = before ++ event :: after →
    ∀ plan, before.foldlM Event.play ⟨[], [], initial⟩ = .ok plan → event.IsSound plan
  outcome : ∀ plan, course.events.foldlM Event.play ⟨[], [], initial⟩ = .ok plan →
    ∃ reached, course.outcome = .ok reached

/-- The counts of the draws go up along the course of a tree, from where it starts. -/
theorem Item.advances_course {root : Item} (static : root.IsStatic) (stream : Random.Stream)
    (reached : Reached) : (root.course stream.values reached).Advances reached.taken :=
  have follows : Script.Follows .quiet stream.reset (.startCheck none none stream [])
      (⟨.fresh, #[]⟩, ()) (root.script .done) .done (root.course stream.values) :=
    Item.follows_script rfl rfl .done static
  follows.advances reached

theorem Plan.Records.drawCounts {events : List Event} {initial : Entries} {plan : Plan}
    (records : plan.Records events initial) :
    plan.entries.map PlanEntry.drawCount =
      (events.filterMap Event.visit?).map fun visit => (visit.draws : Int) := by
  obtain ⟨entries, _, _⟩ := records
  generalize events.filterMap Event.visit? = visits at entries ⊢
  generalize plan.entries = planned at entries ⊢
  induction entries with
  | nil => rfl
  | cons planned _ ih =>
      obtain ⟨draft, _, fitted⟩ := bind_eq_ok.1 planned
      rw [List.map_cons, List.map_cons, ih, (EntryDraft.fit_eq_ok fitted).2.2]

section

variable {μ : Type} (environment : Environment Shared μ ModelCall (Except Error Reply))
variable (both : Shared × μ) {root : Item} (static : root.IsStatic) (seed rowIndex : Option Int)
variable (stream : Random.Stream) (metadata : Entries)

include static in
/-- The check phase ends as the course of the tree plays. -/
theorem run_check {initial : Entries} (taken : planMetadata metadata = .ok initial) :
    match (root.course stream.values ⟨0, .above both.1.pool⟩).play ⟨[], [], initial⟩ with
    | .ok (plan, reached) => ∃ walk, walk.context.draws = reached.taken ∧
        ((check root seed rowIndex stream metadata).run environment both).1 = .ok (plan, walk)
    | .error error => ∃ walk,
        ((check root seed rowIndex stream metadata).run environment both).1 =
          .error ⟨error, walk⟩ := by
  have follows : Script.Follows environment stream.reset (.startCheck seed rowIndex stream initial)
      both (root.script .done) .done (root.course stream.values) :=
    Item.follows_script rfl rfl .done static
  have plays := follows.plays ⟨[], [], initial⟩ ⟨0, .above both.1.pool⟩ rfl
  have start : Walk.stood stream.reset (.startCheck seed rowIndex stream initial)
      ⟨[], [], initial⟩ ⟨0, .above both.1.pool⟩ = .startCheck seed rowIndex stream initial := rfl
  rw [start] at plays
  unfold check
  rw [taken]
  dsimp only
  rw [Process.run_bind]
  cases played : (root.course stream.values ⟨0, .above both.1.pool⟩).play ⟨[], [], initial⟩ with
  | error error =>
      rw [played] at plays
      obtain ⟨last, failed⟩ := plays
      rw [failed]
      exact ⟨last, rfl⟩
  | ok come =>
      obtain ⟨plan, reached⟩ := come
      rw [played] at plays
      obtain ⟨_, followed⟩ := plays
      rw [followed]
      refine ⟨_, ?_, rfl⟩
      change (stream.reset.after reached.taken).draws = reached.taken
      rw [Random.Stream.draws_after]
      exact Nat.zero_add _

include static in
theorem played_of_check {plan : Plan} {walk : Walk}
    (returned : ((check root seed rowIndex stream metadata).run environment both).1 =
      .ok (plan, walk)) :
    ∃ initial reached, planMetadata metadata = .ok initial ∧
      walk.context.draws = reached.taken ∧
      (root.course stream.values ⟨0, .above both.1.pool⟩).events.foldlM Event.play
        ⟨[], [], initial⟩ = .ok plan ∧
      (root.course stream.values ⟨0, .above both.1.pool⟩).outcome = .ok reached := by
  cases taken : planMetadata metadata with
  | error error =>
      unfold check at returned
      rw [taken] at returned
      cases returned
  | ok initial =>
      have ends := run_check environment both static seed rowIndex stream metadata taken
      cases played : (root.course stream.values ⟨0, .above both.1.pool⟩).play ⟨[], [], initial⟩ with
      | error error =>
          rw [played] at ends
          obtain ⟨_, failed⟩ := ends
          exact nomatch failed.symm.trans returned
      | ok come =>
          rw [played] at ends
          obtain ⟨last, draws, ends⟩ := ends
          cases ends.symm.trans returned
          obtain ⟨plan, all, rest⟩ := bind_eq_ok.1 played
          obtain ⟨reached, outcome, same⟩ := bind_eq_ok.1 rest
          cases same
          exact ⟨initial, reached, rfl, draws, all, outcome⟩

include static in
/-- If nothing else goes wrong, then the check phase returns a plan, or a call is missing. -/
theorem check_of_sound {initial : Entries} (taken : planMetadata metadata = .ok initial)
    (sound : (root.course stream.values ⟨0, .above both.1.pool⟩).IsSound initial) :
    (∃ plan walk, ((check root seed rowIndex stream metadata).run environment both).1 =
        .ok (plan, walk)) ∨
      ∃ wanted walk, Misses (root.course stream.values ⟨0, .above both.1.pool⟩).visits wanted ∧
        ((check root seed rowIndex stream metadata).run environment both).1 =
          .error ⟨.toolCallNotFound wanted (normalizeCallId wanted), walk⟩ := by
  have ends := run_check environment both static seed rowIndex stream metadata taken
  unfold Course.play at ends
  rcases Event.foldlM_play sound.events with ⟨plan, played⟩ | ⟨wanted, failed, misses⟩
  · obtain ⟨reached, outcome⟩ := sound.outcome plan played
    rw [played, outcome] at ends
    obtain ⟨walk, _, returned⟩ := ends
    exact .inl ⟨plan, walk, returned⟩
  · rw [failed] at ends
    obtain ⟨walk, raised⟩ := ends
    exact .inr ⟨wanted, walk, misses, raised⟩

include static in
/-- What the check phase returns is what the course of the tree records, and it is drawn for as the
course is. If nothing else goes wrong, then it fails exactly if a call is missing. -/
theorem check_computes_course :
    let course := root.course stream.values ⟨0, .above both.1.pool⟩
    let checked := ((check root seed rowIndex stream metadata).run environment both).1
    (∀ plan walk, checked = .ok (plan, walk) → ∃ initial,
      planMetadata metadata = .ok initial ∧
        (∀ fields : Fields, (fields.map Prod.fst).Nodup → metadata = fields.toEntries →
          initial = metadata) ∧
        plan.Records course.events initial ∧
        (∃ used, course.outcome = .ok ⟨walk.context.draws, used⟩) ∧
        plan.entries.map PlanEntry.drawCount =
          course.visits.map (fun visit => (visit.draws : Int)) ∧
        (plan.entries.map PlanEntry.drawCount).Pairwise (· ≤ ·) ∧
        ∀ draws ∈ plan.entries.map PlanEntry.drawCount, draws ≤ walk.context.draws) ∧
    ∀ initial, planMetadata metadata = .ok initial → course.IsSound initial →
      ((∃ wanted normalized walk, checked = .error ⟨.toolCallNotFound wanted normalized, walk⟩) ↔
        ∃ wanted, Misses course.visits wanted) ∧
      ((∃ plan walk, checked = .ok (plan, walk)) ↔ ∀ wanted, ¬Misses course.visits wanted) := by
  intro course checked
  have met (plan : Plan) (walk : Walk) (returned : checked = .ok (plan, walk)) (wanted : String) :
      ¬Misses course.visits wanted := by
    obtain ⟨_, _, _, _, played, _⟩ :=
      played_of_check environment both static seed rowIndex stream metadata returned
    exact (Plan.records_of_foldlM played).2 wanted
  refine ⟨fun plan walk returned => ?_, fun initial taken sound => ?_⟩
  · obtain ⟨initial, reached, taken, total, played, outcome⟩ :=
      played_of_check environment both static seed rowIndex stream metadata returned
    have records := (Plan.records_of_foldlM played).1
    have advances := Item.advances_course static stream ⟨0, .above both.1.pool⟩
    refine ⟨initial, taken, ?_, records, ⟨reached.used, total ▸ outcome⟩, records.drawCounts,
      ?_, ?_⟩
    · rintro fields distinct rfl
      exact Except.ok.inj (taken.symm.trans (planMetadata_toEntries distinct))
    · rw [records.drawCounts, List.pairwise_map]
      exact advances.sorted.imp fun less => Int.ofNat_le.2 less
    · rw [records.drawCounts, total]
      rintro draws member
      obtain ⟨visit, visited, rfl⟩ := List.mem_map.1 member
      exact Int.ofNat_le.2 ((advances.upper reached outcome).2 visit visited)
  · have ends := check_of_sound environment both static seed rowIndex stream metadata taken sound
    constructor
    · constructor
      · rintro ⟨_, _, _, raised⟩
        rcases ends with ⟨_, _, returned⟩ | ⟨wanted, _, misses, _⟩
        · exact nomatch returned.symm.trans raised
        · exact ⟨wanted, misses⟩
      · rintro ⟨wanted, misses⟩
        rcases ends with ⟨plan, walk, returned⟩ | ⟨wanted, walk, _, raised⟩
        · exact absurd misses (met plan walk returned wanted)
        · exact ⟨wanted, _, walk, raised⟩
    · constructor
      · rintro ⟨plan, walk, returned⟩
        exact met plan walk returned
      · intro none
        rcases ends with returned | ⟨wanted, _, misses, _⟩
        · exact returned
        · exact absurd misses (none wanted)

end

/-- Two leaves behind a toss that decides about nothing. -/
def tossed (first second : Leaf) : Item :=
  .list [.node (.optional .null (.int 1)), .node (.leaf first), .node (.leaf second)]

theorem ordered_below_one (draw : Float) :
    ∃ included, Datum.ordered .below (.float draw) (.int 1) = .ok included := by
  change ∃ included, Datum.numbersOrdered .below (.float draw) (.int 1) = .ok included
  unfold Datum.numbersOrdered
  dsimp only [Datum.quantity?]
  split
  · exact ⟨_, rfl⟩
  · exact ⟨false, rfl⟩

theorem course_tossed (first second : Leaf) (draws : Nat → Float) (used : Unique.Store) :
    (tossed first second).course draws ⟨0, used⟩ =
      ⟨[.entry ⟨first, 1⟩, .entry ⟨second, 1⟩], .ok ⟨1, used⟩⟩ := by
  obtain ⟨included, drawn⟩ := ordered_below_one (draws 0)
  have toss : (Node.optional .null (.int 1)).course draws ⟨0, used⟩ = .stay ⟨1, used⟩ := by
    simp only [Node.course, drawn]
    cases included <;> rfl
  change Item.courseAll draws _ ⟨0, used⟩ = _
  unfold Item.courseAll
  simp only [Item.courseNodes, toss]
  rfl

/-- A call and its deferred result are planned behind the toss. The other way round the call is
missing. -/
theorem check_computes_course_tossed :
    (∃ plan walk,
      ((check (tossed (.call forecastCall) (.result deferredResult)) (some 7) none
        (.ofSource (.scripted [0.5])) []).run .quiet (⟨.fresh, #[]⟩, ())).1 = .ok (plan, walk) ∧
      plan.entries.map PlanEntry.drawCount = [1, 1] ∧ walk.context.draws = 1) ∧
    ∃ wanted normalized walk,
      ((check (tossed (.result deferredResult) (.call forecastCall)) (some 7) none
        (.ofSource (.scripted [0.5])) []).run .quiet (⟨.fresh, #[]⟩, ())).1 =
          .error ⟨.toolCallNotFound wanted normalized, walk⟩ := by
  have static (first second : Leaf) : (tossed first second).IsStatic := by
    simp [tossed, Item.IsStatic, Item.AllStatic, Node.IsStatic]
  have calls (plan : Plan) : (Event.entry ⟨.call forecastCall, 1⟩).IsSound plan :=
    ⟨⟨_, rfl⟩, nofun⟩
  have answers (plan : Plan) : (Event.entry ⟨.result deferredResult, 1⟩).IsSound plan := by
    refine ⟨⟨_, rfl⟩, fun reference refers => ?_⟩
    cases refers
    exact ⟨_, rfl⟩
  have sound {first second : Event} (here : ∀ plan, first.IsSound plan)
      (there : ∀ plan, second.IsSound plan) (reached : Reached) :
      Course.IsSound ⟨[first, second], .ok reached⟩ [] := by
    refine ⟨fun before event after same plan _ => ?_, fun _ _ => ⟨_, rfl⟩⟩
    have member : event ∈ [first, second] := by
      rw [show [first, second] = before ++ event :: after from same]
      simp
    rcases List.mem_pair.1 member with rfl | rfl
    · exact here plan
    · exact there plan
  have computes (first second : Leaf) := check_computes_course .quiet (⟨.fresh, #[]⟩, ())
    (static first second) (some 7) none (.ofSource (.scripted [0.5])) []
  simp only [course_tossed] at computes
  constructor
  · obtain ⟨records, ends⟩ := computes (.call forecastCall) (.result deferredResult)
    have met (wanted : String) :
        ¬Misses [⟨.call forecastCall, 1⟩, ⟨.result deferredResult, 1⟩] wanted := by
      intro misses
      have split (before : List Visit) (visit : Visit) :=
        (@misses_concat before visit wanted).1
      rcases split [_] _ misses with misses | ⟨refers, none⟩
      · rcases split [] _ misses with misses | ⟨refers, _⟩
        · exact not_misses_nil wanted misses
        · cases refers
      · cases refers
        exact none _ List.mem_cons_self ⟨forecastCall, "a", rfl, rfl, .inr (by decide)⟩
    obtain ⟨plan, walk, returned⟩ := (ends [] rfl (sound calls answers _)).2.2 met
    obtain ⟨_, _, _, _, ⟨_, total⟩, draws, _⟩ := records plan walk returned
    have total := congrArg Reached.taken (Except.ok.inj total)
    exact ⟨plan, walk, returned, draws, total.symm⟩
  · obtain ⟨_, ends⟩ := computes (.result deferredResult) (.call forecastCall)
    exact (ends [] rfl (sound answers calls _)).1.2
      ⟨"a-FINAL", [], _, _, rfl, rfl, fun _ member => nomatch member⟩
end Colloquy
