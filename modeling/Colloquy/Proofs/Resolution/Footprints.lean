import Colloquy.Proofs.Resolution.Candor

/-!
# Schemas that no pool sways

A choice without repetition depends on the identifiers that are used, and these may change between the
two phases of a row. That does no harm to a schema whose entries, and the draws before them, are the
same whichever identifiers its choices find used: its generate phase never departs from its plan.
-/

set_option autoImplicit false

namespace Colloquy

open Selection (Choice)

/-- A script may lead to another one, drawing from a stream, and make entries of these footprints on
the way. Each choice finds some identifiers used. -/
inductive Script.Leads : Script → Random.Stream → List Footprint → Script → Prop where
  | refl (script : Script) (stream : Random.Stream) : Leads script stream [] script
  | draw {next : Float → Script} {stream : Random.Stream} {made : List Footprint} {rest : Script}
      (onward : Leads (next stream.next.1) stream.next.2 made rest) :
      Leads (.draw next) stream made rest
  | choose {options : List (Choice Datum)} {uniqueBy : Option Unique.UniqueBy}
      {next : Nat → Script} {store : Unique.Store} {chosen : Unique.Chosen}
      {after : Option Unique.Store} {stream last : Random.Stream} {made : List Footprint}
      {rest : Script}
      (ran : (Unique.choose options uniqueBy (some store)).run stream = ((.ok chosen, after), last))
      (onward : Leads (next chosen.place) last made rest) :
      Leads (.choose options uniqueBy next) stream made rest
  | entry {leaf : Leaf} {next : Script} {stream : Random.Stream} {role : Role}
      {made : List Footprint} {rest : Script} (spoken : leaf.speaker = .text role.name)
      (onward : Leads next stream made rest) :
      Leads (.entry leaf next) stream (⟨leaf.kind, role, stream.draws⟩ :: made) rest
  | list {tool : ToolSpec} {next : Script} {stream : Random.Stream} {made : List Footprint}
      {rest : Script} (onward : Leads next stream made rest) :
      Leads (.list tool next) stream made rest
  | update {change : MetadataUpdate} {next : Script} {stream : Random.Stream}
      {made : List Footprint} {rest : Script} (onward : Leads next stream made rest) :
      Leads (.update change next) stream made rest
  | pause {next : Script} {stream : Random.Stream} {made : List Footprint} {rest : Script}
      (onward : Leads next stream made rest) : Leads (.pause next) stream made rest

/-- The entries of a script, and the draws before them, do not depend on which identifiers are used:
whatever has been made on one way is the beginning of what is made on any way to the end. -/
def Script.Unswayed (script : Script) : Prop :=
  ∀ stream planned, script.Leads stream planned .done →
    ∀ made rest, script.Leads stream made rest → made <+: planned

/-- The script looks at nothing but its draws and asks nothing, its messages are not those of a tool,
and nothing of it raises an error of skew. -/
inductive Script.IsCandid : Script → Prop where
  | done : IsCandid .done
  | fail {error : Error} (unskewed : error.Unskewed) : IsCandid (.fail error)
  | draw {next : Float → Script} (rest : ∀ value, IsCandid (next value)) : IsCandid (.draw next)
  | choose {options : List (Choice Datum)} {uniqueBy : Option Unique.UniqueBy} {next : Nat → Script}
      (rule : ∀ given, uniqueBy = some given → given.IsCandid)
      (rest : ∀ place, IsCandid (next place)) : IsCandid (.choose options uniqueBy next)
  | entry {leaf : Leaf} {next : Script} (spoken : leaf.IsSpoken) (rest : IsCandid next) :
      IsCandid (.entry leaf next)
  | list {tool : ToolSpec} {next : Script} (rest : IsCandid next) : IsCandid (.list tool next)
  | update {change : MetadataUpdate} {next : Script} (candid : change.IsCandid)
      (rest : IsCandid next) : IsCandid (.update change next)
  | pause {next : Script} (rest : IsCandid next) : IsCandid (.pause next)

/-- Two scripts draw alike and make entries of the same kinds by the same speakers, whichever options
are chosen where they have to differ. -/
inductive Script.Alike : Script → Script → Prop where
  | done : Alike .done .done
  | failed (error : Error) (script : Script) : Alike (.fail error) script
  | fails (script : Script) (error : Error) : Alike script (.fail error)
  | draw {next next' : Float → Script} (rest : ∀ value, Alike (next value) (next' value)) :
      Alike (.draw next) (.draw next')
  | repeatable {options : List (Choice Datum)} {next next' : Nat → Script}
      (rest : ∀ place, Alike (next place) (next' place)) :
      Alike (.choose options none next) (.choose options none next')
  | choose {options options' : List (Choice Datum)} {uniqueBy uniqueBy' : Option Unique.UniqueBy}
      {next next' : Nat → Script}
      (rest : ∀ place place', place < options.length → place' < options'.length →
        Alike (next place) (next' place')) :
      Alike (.choose options uniqueBy next) (.choose options' uniqueBy' next')
  | entry {leaf leaf' : Leaf} {next next' : Script} (kind : leaf.kind = leaf'.kind)
      (speaker : leaf.speaker = leaf'.speaker) (rest : Alike next next') :
      Alike (.entry leaf next) (.entry leaf' next')
  | list {tool tool' : ToolSpec} {next next' : Script} (rest : Alike next next') :
      Alike (.list tool next) (.list tool' next')
  | update {change change' : MetadataUpdate} {next next' : Script} (rest : Alike next next') :
      Alike (.update change next) (.update change' next')
  | pause {next next' : Script} (rest : Alike next next') : Alike (.pause next) (.pause next')

theorem Unique.run_choose_none {options : List (Choice Datum)} {store store' : Store}
    {chosen chosen' : Chosen} {after after' : Option Store} {stream last last' : Random.Stream}
    (ran : (choose options none (some store)).run stream = ((.ok chosen, after), last))
    (ran' : (choose options none (some store')).run stream = ((.ok chosen', after'), last')) :
    chosen.place = chosen'.place ∧ last = last' := by
  have same : candidatesIn options none store = candidatesIn options none store' := rfl
  rw [run_choose, same] at ran
  rw [run_choose] at ran'
  cases found : candidatesIn options none store' with
  | error error => simp [found] at ran
  | ok accepted =>
      cases picked : Selection.pick accepted stream.next.1 with
      | error error => simp [found, picked] at ran
      | ok candidate =>
          simp only [found, picked, Prod.mk.injEq, Except.ok.injEq] at ran ran'
          obtain ⟨⟨rfl, _⟩, rfl⟩ := ran
          obtain ⟨⟨rfl, _⟩, rfl⟩ := ran'
          exact ⟨rfl, rfl⟩

theorem Script.Alike.leads {left right : Script} (alike : left.Alike right)
    {stream : Random.Stream} {planned made : List Footprint} {rest : Script}
    (whole : left.Leads stream planned .done) (part : right.Leads stream made rest) :
    made <+: planned := by
  -- The first way goes to the end. So the second may stop wherever it is, but cannot go further.
  induction alike generalizing stream planned made with
  | done =>
      cases part
      exact List.nil_prefix
  | failed error script => cases whole
  | fails script error =>
      cases part
      exact List.nil_prefix
  | draw _ ih =>
      cases whole with
      | draw whole =>
          cases part with
          | refl => exact List.nil_prefix
          | draw part => exact ih _ whole part
  | repeatable _ ih =>
      cases whole with
      | choose ran whole =>
          cases part with
          | refl => exact List.nil_prefix
          | choose ran' part =>
              obtain ⟨place, last⟩ := Unique.run_choose_none ran ran'
              rw [← place, ← last] at part
              exact ih _ whole part
  | choose _ ih =>
      cases whole with
      | choose ran whole =>
          cases part with
          | refl => exact List.nil_prefix
          | choose ran' part =>
              -- The pool decides which options are chosen, but not how many values that takes.
              have last := (Unique.marks_of_run_choose ran).1
              have last' := (Unique.marks_of_run_choose ran').1
              rw [last', ← last] at part
              exact ih _ _ (Unique.place_lt_of_run_choose ran)
                (Unique.place_lt_of_run_choose ran') whole part
  | entry kind speaker _ ih =>
      cases whole with
      | entry spoken whole =>
          cases part with
          | refl => exact List.nil_prefix
          | entry spoken' part =>
              have role := Role.name_injective
                (Datum.text.inj (spoken.symm.trans (speaker.trans spoken')))
              rw [kind, role]
              exact List.cons_prefix_cons.2 ⟨rfl, ih whole part⟩
  | list _ ih =>
      cases whole with
      | list whole =>
          cases part with
          | refl => exact List.nil_prefix
          | list part => exact ih whole part
  | update _ ih =>
      cases whole with
      | update whole =>
          cases part with
          | refl => exact List.nil_prefix
          | update part => exact ih whole part
  | pause _ ih =>
      cases whole with
      | pause whole =>
          cases part with
          | refl => exact List.nil_prefix
          | pause part => exact ih whole part

/-- A script is not swayed if it is like itself whatever is chosen. -/
theorem Script.Alike.unswayed {script : Script} (alike : script.Alike script) : script.Unswayed :=
  fun _ _ whole _ _ part => alike.leads whole part

def Plan.footprints (plan : Plan) : List Footprint := plan.entries.map PlanEntry.footprint

section Chosen

variable {options : List (Choice Datum)} {uniqueBy : Option Unique.UniqueBy} {walk after : Walk}
variable {shared : Shared} {place : Nat}
variable (result : (walk.chosen options uniqueBy shared).1 = .ok (place, after))

include result

theorem Walk.ran_of_chosen :
    ∃ chosen marked, (Unique.choose options uniqueBy (some (walk.store shared.pool))).run
        walk.context.stream = ((.ok chosen, marked), after.context.stream) ∧
      place = chosen.place := by
  rw [stream_chosen result]
  rcases ran : (Unique.choose options uniqueBy (some (walk.store shared.pool))).run
    walk.context.stream with ⟨⟨outcome, marked⟩, stream⟩
  cases outcome with
  | error error => simp [chosen, ran, halt] at result
  | ok chosen =>
      obtain ⟨rfl, _⟩ := Unique.marks_of_run_choose ran
      simp only [Walk.chosen, ran, Except.ok.injEq, Prod.mk.injEq] at result
      exact ⟨chosen, marked, rfl, result.1.symm⟩

theorem Walk.context_chosen :
    after.context = { walk.context with stream := after.context.stream } := by
  have aside := walk.aside_chosen options uniqueBy shared
  rw [result] at aside
  exact aside.context

end Chosen

/-- The rule for a choice on the way of a walk, with what it came to. -/
theorem Walk.given_choose {α : Type} {answers : ModelCall → Except Error Reply → Prop}
    {ends : Walked α → Prop} {options : List (Choice Datum)} {uniqueBy : Option Unique.UniqueBy}
    {walk : Walk} {next : Walked Nat → RowProcess (Walked α)}
    (chosen : ∀ shared place after, (walk.chosen options uniqueBy shared).1 = .ok (place, after) →
      (next (.ok (place, after))).YieldsGiven answers ends)
    (failed : ∀ shared halt, (walk.chosen options uniqueBy shared).1 = .error halt →
      (next (.error halt)).YieldsGiven answers ends) :
    ((walk.choose options uniqueBy).bind next).YieldsGiven answers ends := by
  intro shared
  show (next (walk.chosen options uniqueBy shared).1).YieldsGiven answers ends
  rcases result : (walk.chosen options uniqueBy shared).1 with halt | ⟨place, after⟩
  · exact failed shared halt result
  · exact chosen shared place after result

/-- How a part of the check phase ends: what it has planned is what the script may lead to. -/
def Script.PlansFrom (script : Script) (walk : Walk) : Walked Unit → Prop
  | .ok (_, final) => ∃ made, script.Leads walk.context.stream made .done ∧
      final.context.plan.footprints = walk.context.plan.footprints ++ made
  | .error halt => halt.error.Unskewed

theorem Leaf.footprint_of_plan {context : Context} {leaf : Leaf} {entry : PlanEntry}
    (planned : leaf.plan context = .ok entry) :
    leaf.speaker = .text entry.role.name ∧
      entry.footprint = ⟨leaf.kind, entry.role, context.draws⟩ := by
  obtain ⟨draft, drafted, fitted⟩ := bind_eq_ok.1 planned
  obtain ⟨⟨kind, speaker, _⟩, _⟩ := Leaf.draft_eq_ok drafted
  obtain ⟨role, _, same⟩ := EntryDraft.fit_eq_ok fitted
  refine ⟨by rw [← speaker, role], ?_⟩
  rw [same, ← kind]
  rfl

theorem Script.PlansFrom.step {script next : Script} {walk after : Walk} {walked : Walked Unit}
    (plans : next.PlansFrom after walked) (front : List Footprint)
    (footprints : after.context.plan.footprints = walk.context.plan.footprints ++ front)
    (leads : ∀ made, next.Leads after.context.stream made .done →
      script.Leads walk.context.stream (front ++ made) .done) : script.PlansFrom walk walked := by
  rcases walked with halt | ⟨⟨⟩, final⟩
  · exact plans
  · obtain ⟨made, onward, whole⟩ := plans
    exact ⟨front ++ made, leads made onward, by rw [whole, footprints, List.append_assoc]⟩

theorem Script.PlansFrom.stay {script next : Script} {walk after : Walk} {walked : Walked Unit}
    (plans : next.PlansFrom after walked)
    (plan : after.context.plan.entries = walk.context.plan.entries)
    (leads : ∀ made, next.Leads after.context.stream made .done →
      script.Leads walk.context.stream made .done) : script.PlansFrom walk walked :=
  plans.step [] (by rw [Plan.footprints, plan, ← Plan.footprints, List.append_nil]) leads

theorem Script.IsCandid.plansFrom {script : Script} (candid : script.IsCandid) (walk : Walk) :
    (script.follow Walk.planLeaf walk).YieldsGiven (fun _ => Candid) (script.PlansFrom walk) := by
  induction candid generalizing walk with
  | done => exact ⟨[], .refl _ _, (List.append_nil _).symm⟩
  | fail unskewed => exact unskewed
  | draw _ ih =>
      exact (ih _ _).mono fun _ plans => plans.stay rfl fun _ onward => .draw onward
  | @choose options uniqueBy next rule _ ih =>
      rw [Script.follow]
      apply Walk.given_choose
      · intro shared place after result
        obtain ⟨chosen, marked, ran, rfl⟩ := Walk.ran_of_chosen result
        refine (ih chosen.place after).mono fun _ plans =>
          plans.stay ?_ fun _ onward => .choose ran onward
        rw [Walk.context_chosen result]
      · intro shared halt failed
        exact Walk.candid_chosen rule failed
  | @entry leaf next _ _ ih =>
      simp only [Script.follow, Walk.planLeaf]
      cases planned : leaf.plan walk.context with
      | error error => exact leaf.candid_plan walk.context error planned
      | ok entry =>
          obtain ⟨spoken, footprint⟩ := Leaf.footprint_of_plan planned
          refine (ih _).mono fun _ plans => plans.step [entry.footprint] ?_ fun _ onward => ?_
          · simp [Plan.footprints, Walk.within, Context.addEntry]
          · rw [footprint]
            exact .entry spoken onward
  | @list tool next _ ih =>
      have kept := walk.context.keeps_addTool tool
      refine (ih _).mono fun _ plans => plans.stay kept.entries fun _ onward => .list ?_
      simpa only [Walk.within, kept.stream] using onward
  | @update change next candid _ ih =>
      unfold Script.follow
      cases updated : walk.context.update change with
      | error error => exact candid.update walk.context error updated
      | ok context =>
          have kept := Context.keeps_update updated
          refine (ih _).mono fun _ plans => plans.stay kept.entries fun _ onward => .update ?_
          simpa only [Walk.within, kept.stream] using onward
  | pause _ ih =>
      exact (ih walk).mono fun _ plans => plans.stay rfl fun _ onward => .pause onward

theorem check_leads {root : Item} (candid : (root.script .done).IsCandid)
    (seed rowIndex : Option Int) (stream : Random.Stream) (metadata : Entries) :
    (check root seed rowIndex stream metadata).YieldsGiven (fun _ => Candid) fun
      | .ok (plan, _) => (root.script .done).Leads stream.reset plan.footprints .done
      | .error halt => halt.error.Unskewed := by
  unfold check
  split
  next error failed =>
    have plain : Plainly (planMetadata metadata) := .mapError (Error.plain_ofFaults _) _
    exact plain.candid error failed
  next known _ =>
    refine .bind ((candid.plansFrom _).mono fun walked plans => ?_)
    rcases walked with halt | ⟨⟨⟩, final⟩
    · exact plans
    · obtain ⟨made, leads, footprints⟩ := plans
      intro _
      show (root.script .done).Leads stream.reset final.finishedPlan.footprints .done
      rw [show final.finishedPlan.footprints = made from footprints]
      exact leads

/-- What remains of a script leads on as it is planned from the entry that comes next. -/
structure Walk.Foreseen (script : Script) (walk : Walk) : Prop where
  phase : walk.context.phase = .generate
  inside : walk.context.messages.length ≤ walk.context.plan.entries.length
  begins : ∀ made rest, script.Leads walk.context.stream made rest →
    made <+: walk.context.plan.footprints.drop walk.context.messages.length
  ends : ∀ made, script.Leads walk.context.stream made .done →
    made = walk.context.plan.footprints.drop walk.context.messages.length

namespace Walk.Foreseen

variable {script next : Script} {walk after : Walk}

/-- The walk goes on with another script that leads where the first may lead. -/
theorem step (foreseen : walk.Foreseen script)
    (context : after.context = { walk.context with
      stream := after.context.stream, tools := after.context.tools })
    (leads : ∀ made rest, next.Leads after.context.stream made rest →
      script.Leads walk.context.stream made rest) : after.Foreseen next where
  phase := by rw [context, foreseen.phase]
  inside := by rw [context]; exact foreseen.inside
  begins made rest onward := by rw [context]; exact foreseen.begins made rest (leads made rest onward)
  ends made onward := by rw [context]; exact foreseen.ends made (leads made .done onward)

variable {leaf : Leaf} {message : Message}

theorem planned (foreseen : walk.Foreseen (.entry leaf next)) (outlines : leaf.Outlines message) :
    ∃ entry, walk.context.plan.entries[walk.context.messages.length]? = some entry ∧
      entry.footprint = ⟨message.kind, message.role, walk.context.draws⟩ := by
  obtain ⟨others, rest⟩ :=
    foreseen.begins _ next (.entry outlines.role (.refl next walk.context.stream))
  have here : walk.context.plan.footprints[walk.context.messages.length]? =
      some ⟨leaf.kind, message.role, walk.context.draws⟩ := by
    have first := congrArg (fun list => list[0]?) rest
    simpa [Context.draws] using first.symm
  obtain ⟨entry, there, footprint⟩ := List.getElem?_map .. ▸ here |> Option.map_eq_some_iff.1
  exact ⟨entry, there, by rw [footprint, outlines.kind]⟩

theorem no_objection (foreseen : walk.Foreseen (.entry leaf next))
    (outlines : leaf.Outlines message) (verifyDraws : Bool) :
    walk.objection? verifyDraws message = none := by
  obtain ⟨entry, there, footprint⟩ := foreseen.planned outlines
  obtain ⟨kind, role, draws⟩ := Footprint.mk.inj footprint
  simp [objection?, there, kind, role, draws]

theorem addMessage (foreseen : walk.Foreseen (.entry leaf next)) (outlines : leaf.Outlines message) :
    (walk.addMessage message).Foreseen next where
  phase := foreseen.phase
  inside := by
    obtain ⟨entry, there, _⟩ := foreseen.planned outlines
    obtain ⟨inside, _⟩ := List.getElem?_eq_some_iff.1 there
    simpa [Walk.addMessage] using Nat.succ_le_of_lt inside
  begins made rest onward := by
    obtain ⟨others, whole⟩ := foreseen.begins _ rest (.entry outlines.role onward)
    refine ⟨others, ?_⟩
    simpa [Walk.addMessage] using congrArg List.tail whole
  ends made onward := by
    simpa [Walk.addMessage] using
      congrArg List.tail (foreseen.ends _ (.entry outlines.role onward))

end Walk.Foreseen

/-- How the generate phase of a script ends: with all entries made, or with an error that is no
skew. -/
def Walk.Fulfils : Walked Unit → Prop
  | .ok (_, made) => made.context.messages.length = made.context.plan.entries.length
  | .error halt => halt.error.Unskewed

section Generate

variable {making : Making} (quiet : PromptExtras.Quiet making.extras)

include quiet

theorem Script.IsCandid.fulfils {script : Script} (candid : script.IsCandid) {walk : Walk}
    (foreseen : walk.Foreseen script) :
    (script.follow (Walk.makeLeaf making) walk).YieldsGiven (fun _ => Candid) Walk.Fulfils := by
  induction candid generalizing walk with
  | done =>
      have all := congrArg List.length (foreseen.ends [] (.refl .done _))
      simp only [List.length_nil, List.length_drop, Plan.footprints, List.length_map] at all
      have inside := foreseen.inside
      exact show walk.context.messages.length = walk.context.plan.entries.length by omega
  | fail unskewed => exact unskewed
  | draw _ ih => exact ih _ (foreseen.step rfl fun _ _ onward => .draw onward)
  | @choose options uniqueBy next rule _ ih =>
      rw [Script.follow]
      apply Walk.given_choose
      · intro shared place after result
        obtain ⟨chosen, marked, ran, rfl⟩ := Walk.ran_of_chosen result
        refine ih chosen.place (foreseen.step ?_ fun _ _ onward => .choose ran onward)
        rw [Walk.context_chosen result]
      · intro shared halt failed
        exact Walk.candid_chosen rule failed
  | @entry leaf next spoken _ ih =>
      refine .bind (.bind ((walk.stands_makeMessage quiet spoken foreseen.phase).mono ?_))
      intro walked stands
      rcases walked with halt | ⟨message, after⟩
      · exact stands
      · obtain ⟨outlines, same⟩ := stands
        have foreseen : after.Foreseen (.entry leaf next) :=
          foreseen.step (by rw [same]) fun _ _ onward => by rwa [same] at onward
        have onward := ih (foreseen.addMessage outlines)
        simp only [Walk.append, foreseen.no_objection outlines, Walk.join]
        split
        · exact fun _ => onward
        · exact onward
  | @list tool next _ ih =>
      refine ih (foreseen.step ?_ fun made rest onward => .list ?_)
      · simp only [Context.addTool_eq, Walk.within]
      · simpa only [Context.addTool_eq, Walk.within] using onward
  | @update change next _ _ ih =>
      -- Metadata is changed by the check phase alone.
      have unchanged : walk.context.update change = .ok walk.context := by
        unfold Context.update
        rw [foreseen.phase]
      unfold Script.follow
      simp only [unchanged]
      exact ih (foreseen.step rfl fun _ _ onward => .update onward)
  | pause _ ih => exact ih (foreseen.step rfl fun _ _ onward => .pause onward)

/-- A schema that no pool sways never departs from a plan that its check phase has come to, whatever
has become of the pool meanwhile. -/
theorem generate_unskewed {root : Item} (candid : (root.script .done).IsCandid)
    (unswayed : (root.script .done).Unswayed) {plan : Plan} {stream : Random.Stream}
    (leads : (root.script .done).Leads stream.reset plan.footprints .done)
    (seed rowIndex : Option Int) :
    (generate making root seed rowIndex stream plan).YieldsGiven (fun _ => Candid) fun
      | .ok _ => True
      | .error halt => halt.error.Unskewed := by
  have begins := unswayed stream.reset plan.footprints leads
  have foreseen : (Walk.startGenerate seed rowIndex stream plan).Foreseen (root.script .done) :=
    { phase := rfl
      inside := Nat.zero_le _
      begins := begins
      ends := fun made onward => (begins made .done onward).eq_of_length_le
        (unswayed stream.reset made onward _ .done leads).length_le }
  refine .bind ((candid.fulfils quiet foreseen).mono fun walked fulfils => ?_)
  rcases walked with halt | ⟨⟨⟩, made⟩
  · exact fulfils
  · have all : made.context.messages.length = made.context.plan.entries.length := fulfils
    simp only [if_pos all]
    trivial

end Generate

end Colloquy
