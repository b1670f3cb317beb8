import Colloquy.Proofs.Resolution.Messages
import Colloquy.Proofs.Resolution.Verdict

/-!
# The two phases in lockstep

The generate phase visits the leaves that the check phase has visited, after as many draws, and sees
the same identifiers used. If a schema is foreseeable and nobody disturbs the pool, what was planned
is therefore what is made, and the phases cannot be found to differ.
-/

set_option autoImplicit false

namespace Colloquy

open Selection (Choice)

/-- The walks of both phases have come equally far: past the visited leaves. The check phase started
over `pool`. -/
structure Lockstep (pool : Unique.Store) (visited : List Visit) (checking generating : Walk)
    (shared : Shared) : Prop where
  check : checking.context.phase = .check
  generate : generating.context.phase = .generate
  stream : generating.context.stream = checking.context.stream
  tools : generating.context.tools = checking.context.tools
  store : (checking.store pool).Same shared.pool
  planned : List.Forall₂ Visit.Plans visited checking.context.plan.entries
  made : List.Forall₂ Visit.Makes visited generating.context.messages
  trace : generating.reports.map StepReport.made =
    checking.context.plan.entries.map PlanEntry.footprint
  recorded : generating.Recorded

namespace Walk

theorem chosen_check_shared {walk : Walk} (phase : walk.context.phase = .check)
    (options : List (Choice Datum)) (uniqueBy : Option Unique.UniqueBy) (shared : Shared) :
    (walk.chosen options uniqueBy shared).2 = shared := by
  rcases ran : (Unique.choose options uniqueBy (some (walk.store shared.pool))).run
    walk.context.stream with ⟨⟨outcome, marked⟩, stream⟩
  cases outcome with
  | error error => simp [chosen, ran]
  | ok chosen => simp [Walk.chosen, ran, keepShared, phase]

theorem chosen_check {walk after : Walk} (phase : walk.context.phase = .check)
    {options : List (Choice Datum)} {uniqueBy : Option Unique.UniqueBy} {shared : Shared}
    {place : Nat} (result : (walk.chosen options uniqueBy shared).1 = .ok (place, after)) :
    ∃ chosen marked, (Unique.choose options uniqueBy (some (walk.store shared.pool))).run
        walk.context.stream = ((.ok chosen, marked), walk.context.stream.next.2) ∧
      place = chosen.place ∧
      after.context = { walk.context with stream := walk.context.stream.next.2 } ∧
      after.reports = walk.reports ∧
      after.store shared.pool = marked.getD (walk.store shared.pool) := by
  rcases ran : (Unique.choose options uniqueBy (some (walk.store shared.pool))).run
    walk.context.stream with ⟨⟨outcome, marked⟩, stream⟩
  cases outcome with
  | error error => simp [chosen, ran, halt] at result
  | ok chosen =>
      obtain ⟨rfl, marks⟩ := Unique.marks_of_run_choose ran
      simp only [Walk.chosen, ran, Except.ok.injEq, Prod.mk.injEq] at result
      obtain ⟨rfl, rfl⟩ := result
      refine ⟨chosen, marked, rfl, rfl, ?_, ?_, ?_⟩
      · simp [keep, drawn, within, phase]
      · simp [keep, drawn, within, phase]
      · rcases marks with ⟨_, rfl⟩ | ⟨given, key, _, _, rfl⟩
        · simp [store, keep, drawn, within, phase, Unique.Store.own]
        · simp [store, keep, drawn, within, phase, Unique.Store.own, Unique.Store.mark]

theorem chosen_generate {walk : Walk} (phase : walk.context.phase = .generate)
    {options : List (Choice Datum)} {uniqueBy : Option Unique.UniqueBy} {shared : Shared}
    {chosen : Unique.Chosen} {marked : Option Unique.Store} {stream : Random.Stream}
    (ran : (Unique.choose options uniqueBy (some shared.pool)).run walk.context.stream =
      ((.ok chosen, marked), stream)) :
    walk.chosen options uniqueBy shared =
      (.ok (chosen.place, walk.drawn stream), { shared with pool := marked.getD shared.pool }) := by
  simp [Walk.chosen, store, phase, ran, keep, keepShared, drawn, within]

end Walk

namespace Lockstep

variable {pool : Unique.Store} {visited : List Visit} {checking generating : Walk}
variable {shared : Shared}

theorem still (together : Lockstep pool visited checking generating shared) {after : Walk}
    {later : Shared} (still : generating.Still after) (same : later.pool = shared.pool) :
    Lockstep pool visited checking after later where
  check := together.check
  generate := by rw [still.context, together.generate]
  stream := by rw [still.context, together.stream]
  tools := by rw [still.context, together.tools]
  store := by rw [same]; exact together.store
  planned := together.planned
  made := by rw [still.context]; exact together.made
  trace := by rw [still.reports, together.trace]
  recorded := together.recorded.aside
    ⟨by rw [still.context], still.reports, by rw [still.context]; exact .refl _⟩

theorem drawn (together : Lockstep pool visited checking generating shared)
    (stream : Random.Stream) :
    Lockstep pool visited (checking.drawn stream) (generating.drawn stream) shared where
  check := together.check
  generate := together.generate
  stream := rfl
  tools := together.tools
  store := together.store
  planned := together.planned
  made := together.made
  trace := together.trace
  recorded := ⟨together.recorded.steps, together.recorded.made, together.recorded.planned⟩

theorem addTool (together : Lockstep pool visited checking generating shared) (tool : ToolSpec) :
    Lockstep pool visited (checking.within (checking.context.addTool tool))
      (generating.within (generating.context.addTool tool)) shared := by
  simp only [Context.addTool_eq]
  exact {
    check := together.check
    generate := together.generate
    stream := together.stream
    tools := by simp only [Walk.within, together.tools]
    store := together.store
    planned := together.planned
    made := together.made
    trace := together.trace
    recorded := ⟨together.recorded.steps, together.recorded.made, together.recorded.planned⟩ }

theorem add (together : Lockstep pool visited checking generating shared) {visit : Visit}
    {entry : PlanEntry} {message : Message} (plans : visit.Plans entry)
    (makes : visit.Makes message)
    (footprint : (generating.stepReport message).made = entry.footprint) :
    Lockstep pool (visited ++ [visit]) (checking.within (checking.context.addEntry entry))
      (generating.addMessage message) shared where
  check := together.check
  generate := together.generate
  stream := together.stream
  tools := together.tools
  store := together.store
  planned := List.rel_append together.planned (.cons plans .nil)
  made := List.rel_append together.made (.cons makes .nil)
  trace := by
    simp [Walk.addMessage, Walk.within, Context.addEntry, together.trace, footprint]
  recorded := together.recorded.addMessage message

/-- Both phases start together, if the generate phase finds the stream and the pool as the check
phase has left them. -/
theorem start {seed rowIndex : Option Int} {stream again : Random.Stream} {metadata : Entries}
    {plan : Plan} (source : again.source = stream.source) (samePool : shared.pool = pool) :
    Lockstep pool [] (.startCheck seed rowIndex stream metadata)
      (.startGenerate seed rowIndex again plan) shared where
  check := rfl
  generate := rfl
  stream := by simp [Walk.startGenerate, Walk.startCheck, Random.Stream.reset, source]
  tools := rfl
  store := by
    rw [samePool]
    exact fun _ _ => rfl
  planned := .nil
  made := .nil
  trace := rfl
  recorded := ⟨rfl, rfl, rfl⟩

theorem length (together : Lockstep pool visited checking generating shared) :
    generating.context.messages.length = checking.context.plan.entries.length :=
  together.made.length_eq.symm.trans together.planned.length_eq

/-- The check phase updates the metadata, which the generate phase takes from the plan. -/
theorem update (together : Lockstep pool visited checking generating shared)
    {change : MetadataUpdate} {after : Context}
    (updated : checking.context.update change = .ok after) :
    after.stream = checking.context.stream ∧
      (checking.within after).store pool = checking.store pool ∧
      Lockstep pool visited (checking.within after) generating shared := by
  unfold Context.update at updated
  split at updated
  next generates => exact absurd (together.check.symm.trans generates) (by decide)
  next checks =>
    obtain ⟨metadata, _, updated⟩ := bind_eq_ok.1 updated
    cases updated
    exact ⟨rfl, rfl, ⟨together.check, together.generate, together.stream, together.tools,
      together.store, together.planned, together.made, together.trace, together.recorded⟩⟩

/-- Both phases choose alike, and the generate phase marks what the check phase has noted. -/
theorem choose (together : Lockstep pool visited checking generating shared)
    {options : List (Choice Datum)} {uniqueBy : Option Unique.UniqueBy} {place : Nat}
    {after : Walk} {before : Shared} (samePool : before.pool = pool)
    (result : (checking.chosen options uniqueBy before).1 = .ok (place, after)) :
    ∃ chosen marked last,
      (Unique.choose options uniqueBy (some (checking.store pool))).run checking.context.stream =
        ((.ok chosen, marked), last) ∧
      place = chosen.place ∧ after.context.stream = last ∧
      after.store pool = marked.getD (checking.store pool) ∧
      ∃ made later, generating.chosen options uniqueBy shared = (.ok (place, made), later) ∧
        made.context.plan = generating.context.plan ∧ Lockstep pool visited after made later := by
  subst samePool
  obtain ⟨chosen, marked, ran, rfl, context, reports, kept⟩ :=
    Walk.chosen_check together.check result
  have alike := Unique.run_choose_congr options uniqueBy together.store checking.context.stream
  rw [← together.stream] at ran alike
  rw [ran] at alike
  rcases ran' : (Unique.choose options uniqueBy (some shared.pool)).run generating.context.stream
    with ⟨⟨outcome, marked'⟩, last'⟩
  rw [ran'] at alike
  obtain ⟨sameOutcome, sameStream, sameStore⟩ := alike
  dsimp only at sameOutcome sameStream sameStore
  subst sameOutcome sameStream
  refine ⟨chosen, marked, _, by rw [← together.stream]; exact ran, rfl, ?_, kept, _, _,
    Walk.chosen_generate together.generate ran', rfl, ?_⟩
  · rw [context, together.stream]
  · exact {
      check := by rw [context]; exact together.check
      generate := together.generate
      stream := by rw [context]; simp only [Walk.drawn, Walk.within, together.stream]
      tools := by rw [context]; exact together.tools
      store := by rw [kept]; exact sameStore
      planned := by rw [context]; exact together.planned
      made := together.made
      trace := by rw [context]; exact together.trace
      recorded := ⟨together.recorded.steps, together.recorded.made, together.recorded.planned⟩ }

theorem no_objection (together : Lockstep pool visited checking generating shared)
    {entry : PlanEntry} {message : Message} (foresees : entry.Foresees message)
    (draws : entry.drawCount = checking.context.draws)
    (next : generating.context.plan.entries[generating.context.messages.length]? = some entry)
    (verifyDraws : Bool) :
    generating.objection? verifyDraws message = none ∧
      (generating.stepReport message).made = entry.footprint := by
  have sameDraws : (generating.context.draws : Int) = entry.drawCount := by
    rw [draws, Context.draws, Context.draws, together.stream]
  refine ⟨?_, ?_⟩
  · simp [Walk.objection?, next, foresees.kind, foresees.role, sameDraws]
  · simp [Walk.stepReport, PlanEntry.footprint, foresees.kind, foresees.role, sameDraws]

/-- How a part of the generate phase ends: still in lockstep, or with an excused error. -/
def Ends (raised : Error → Prop) (pool : Unique.Store) (plan : Plan) (visited : List Visit)
    (checking : Walk) : Walked Unit → Shared → Prop
  | .ok (_, made), shared =>
      made.context.plan = plan ∧ Lockstep pool visited checking made shared
  | .error halt, _ => halt.error.Excused raised

theorem makeLeaf (together : Lockstep pool visited checking generating shared)
    {raised : Error → Prop} {making : Making}
    (steady : ∀ given, making.extras = some given → given.Steady raised) {leaf : Leaf}
    (regular : leaf.IsRegular) {entry : PlanEntry}
    (planned : leaf.plan checking.context = .ok entry)
    (next : generating.context.plan.entries[generating.context.messages.length]? = some entry) :
    (generating.makeLeaf making leaf).Abides (.undisturbed raised)
      (Ends raised pool generating.context.plan (visited ++ [⟨leaf, checking.context.draws⟩])
        (checking.within (checking.context.addEntry entry))) shared := by
  obtain ⟨plans, refers⟩ := Leaf.plans_of_plan regular planned
  have found : leaf.Refers fun id => ∃ part, generating.context.findToolCall id = some part := by
    cases leaf with
    | fixed role content => trivial
    | written role prompt => trivial
    | call use =>
        intro reuses
        obtain ⟨id, named, known⟩ := refers reuses
        exact ⟨id, named, Context.findToolCall_of_planned together.planned together.made known⟩
    | result answer =>
        obtain ⟨id, named, known⟩ := refers
        exact ⟨id, named, Context.findToolCall_of_planned together.planned together.made known⟩
  refine .bind ((generating.stays_makeMessage steady regular together.generate found
    checking.context.draws shared).mono fun walked later stays => ?_)
  rcases walked with halt | ⟨message, after⟩
  · exact fun _ _ => stays
  · obtain ⟨makes, still, samePool⟩ := stays
    have together := together.still still samePool
    rw [← still.context] at next
    obtain ⟨accepted, footprint⟩ := together.no_objection (plans.foresees makes) plans.draws next
      making.verifyDraws
    have samePlan : (after.addMessage message).context.plan = generating.context.plan := by
      rw [← still.context]
      rfl
    have joined {now : Shared} (same : now.pool = later.pool) :
        Ends raised pool generating.context.plan (visited ++ [⟨leaf, checking.context.draws⟩])
          (checking.within (checking.context.addEntry entry))
          (.ok ((), after.addMessage message)) now :=
      ⟨samePlan, (together.still (.refl after) same).add plans makes footprint⟩
    simp only [Walk.append, accepted, Walk.join]
    split
    · exact fun now same => ⟨trivial, fun last lastSame => joined (lastSame.trans same)⟩
    · exact fun now same => joined same

end Lockstep

/-- What the check phase has planned is not changed later. -/
structure Walk.PlansOn (before after : Walk) : Prop where
  entries : before.context.plan.entries <+: after.context.plan.entries
  stream : before.context.stream.Drawn after.context.stream

theorem Walk.lasting_plansOn : Walk.Lasting Walk.PlansOn where
  refl walk := ⟨List.prefix_rfl, .refl _⟩
  trans first second :=
    ⟨first.entries.trans second.entries, first.stream.trans second.stream⟩
  aside aside := ⟨aside.plan ▸ List.prefix_rfl, aside.stream⟩
  within same :=
    ⟨by simp [Walk.within, same.entries], by simp [Walk.within, same.stream, Random.Stream.Drawn.refl]⟩

theorem Walk.plansOn_planLeaf (leaf : Leaf) (walk : Walk) :
    (walk.planLeaf leaf).Yields fun walked => walk.PlansOn (Walked.walk walked) := by
  unfold Walk.planLeaf
  split
  · exact .done ⟨List.prefix_append _ _, .refl _⟩
  · exact .done ⟨List.prefix_rfl, .refl _⟩

section Phases

variable {μ : Type} {environment : Environment Shared μ ModelCall (Except Error Reply)}
variable {raised : Error → Prop} {making : Making} {pool : Unique.Store}

theorem Script.plansOn_follow {script : Script} {walk final : Walk} {both : Shared × μ}
    (checked : ((script.follow Walk.planLeaf walk).run environment both).1 = .ok ((), final)) :
    walk.PlansOn final := by
  have later := (Script.lasting_follow Walk.lasting_plansOn Walk.plansOn_planLeaf script walk).run
    environment both
  rwa [checked] at later

/-- If the check phase comes to the end of a foreseeable script, the generate phase stays in lockstep
with it. -/
theorem Script.lockstep_follow (respects : environment.Respects (.undisturbed raised))
    (steady : ∀ given, making.extras = some given → given.Steady raised) {script : Script}
    (foreseeable : script.WrittenIn .foreseeable) {visited : List Visit}
    {checking generating final : Walk} {both : Shared × μ} {shared : Shared} {plan : Plan}
    (samePool : both.1.pool = pool)
    (together : Lockstep pool visited checking generating shared)
    (checked : ((script.follow Walk.planLeaf checking).run environment both).1 = .ok ((), final))
    (samePlan : generating.context.plan = plan)
    (planned : plan.entries = final.context.plan.entries) :
    (script.follow (Walk.makeLeaf making) generating).Abides (.undisturbed raised)
      (Lockstep.Ends raised pool plan
        (visited ++ script.visits checking.context.stream (checking.store pool)) final)
      shared := by
  -- The check phase has run already and is taken apart step by step beside the generate phase.
  induction foreseeable generalizing visited checking generating both shared with
  | done =>
      intro after same
      simp only [Script.follow, Process.run, Except.ok.injEq, Prod.mk.injEq, true_and] at checked
      subst checked
      simp only [Script.visits, List.append_nil]
      exact ⟨samePlan, together.still (.refl generating) same⟩
  | fail error => cases checked
  | draw rest ih =>
      have drawn := together.drawn checking.context.stream.next.2
      simp only [Script.follow, Context.draw, together.stream] at checked ⊢
      exact ih _ samePool drawn checked samePlan
  | @choose options uniqueBy next rule rest ih =>
      simp only [Script.follow, Walk.choose, Process.bind, Process.run] at checked ⊢
      intro now same
      refine ⟨trivial, ?_⟩
      rw [Walk.chosen_check_shared together.check] at checked
      have together := together.still (.refl generating) same
      rcases result : (checking.chosen options uniqueBy both.1).1 with halt | ⟨place, after⟩
      · simp only [result] at checked
        cases checked
      · obtain ⟨chosen, marked, last, ran, rfl, stream, store, made, later, chose, kept,
          together⟩ := together.choose samePool result
        simp only [result] at checked
        simp only [chose, Script.visits, ran]
        rw [← stream, ← store]
        exact ih _ samePool together checked (kept.trans samePlan)
  | @entry leaf next known rest ih =>
      simp only [Script.follow, Walk.planLeaf] at checked
      cases planned' : leaf.plan checking.context with
      | error error =>
          simp only [planned'] at checked
          cases checked
      | ok entry =>
          simp only [planned', Process.done_bind] at checked
          have next : generating.context.plan.entries[generating.context.messages.length]? =
              some entry := by
            obtain ⟨rest, later⟩ := (Script.plansOn_follow checked).entries
            rw [samePlan, planned, ← later, together.length]
            simp [Walk.within, Context.addEntry]
          refine .bind ((together.makeLeaf steady known planned' next).mono ?_)
          intro walked after ends
          rcases walked with halt | ⟨⟨⟩, made⟩
          · exact fun _ _ => ends
          · obtain ⟨kept, together⟩ := ends
            have rest := ih samePool together checked (kept.trans samePlan)
            rw [List.append_assoc] at rest
            exact rest
  | @list tool next rest ih =>
      have listed := together.addTool tool
      simp only [Script.follow, Context.addTool_eq] at checked listed ⊢
      have rest := ih samePool listed checked samePlan
      exact rest
  | @update change next rest ih =>
      simp only [Script.follow] at checked ⊢
      cases updated : checking.context.update change with
      | error error =>
          simp only [updated] at checked
          cases checked
      | ok context =>
          simp only [updated] at checked
          obtain ⟨stream, store, together⟩ := together.update updated
          have unchanged : generating.context.update change = .ok generating.context := by
            unfold Context.update
            rw [together.generate]
          have rest := ih samePool together checked samePlan
          have sameStream : (checking.within context).context.stream = checking.context.stream :=
            stream
          rw [store, sameStream] at rest
          simp only [unchanged]
          exact rest
  | observe looks => exact looks.elim
  | ask looks => exact looks.elim
  | pause rest ih =>
      exact ih ((respects.meanwhile both).trans samePool) together checked samePlan

theorem follow_of_check {root : Item} {seed rowIndex : Option Int} {stream : Random.Stream}
    {metadata : Entries} {both : Shared × μ} {plan : Plan} {walk : Walk}
    (checked : ((check root seed rowIndex stream metadata).run environment both).1 =
      .ok (plan, walk)) :
    ∃ known, (((root.script .done).follow Walk.planLeaf
        (.startCheck seed rowIndex stream known)).run environment both).1 = .ok ((), walk) ∧
      plan = walk.finishedPlan := by
  unfold check at checked
  split at checked
  · cases checked
  next known _ =>
    rw [Process.run_bind] at checked
    rcases result : (((root.script .done).follow Walk.planLeaf
        (.startCheck seed rowIndex stream known)).run environment both).1 with halt | ⟨⟨⟩, final⟩
    · simp only [result] at checked
      cases checked
    · simp only [result] at checked
      cases checked
      exact ⟨known, result, rfl⟩

end Phases

/-- A conversation realizes a plan: there is one message for each planned entry, in order, made after
as many draws, and both are those of the leaves that are visited. -/
structure Plan.Realized (plan : Plan) (visits : List Visit) (conversation : Generated)
    (made : Walk) : Prop where
  entries : List.Forall₂ Visit.Plans visits plan.entries
  messages : List.Forall₂ Visit.Makes visits conversation.messages
  foreseen : List.Forall₂ PlanEntry.Foresees plan.entries conversation.messages
  recorded : made.context.messages = conversation.messages ∧ made.Recorded
  footprints : made.reports.map StepReport.made = plan.entries.map PlanEntry.footprint
  tools : conversation.tools = plan.tools
  metadata : conversation.metadata = plan.metadata

/-- If a foreseeable schema has been checked and nobody disturbs the pool until it has been generated
on the same stream, then what is generated realizes the plan. The generate phase fails only with an
error of the model or of the caller's sources of extra messages, or with an error of no particular
kind: never by a skew, a missing call, an exhausted collection or a schema that is not valid. -/
theorem generate_of_check {μ : Type}
    (environment : Environment Shared μ ModelCall (Except Error Reply)) (raised : Error → Prop)
    (respects : environment.Respects (.undisturbed raised)) (making : Making)
    (steady : ∀ given, making.extras = some given → given.Steady raised) (root : Item)
    (foreseeable : root.WrittenIn .foreseeable) (seed rowIndex : Option Int)
    (stream : Random.Stream) (metadata : Entries) (before between : Shared × μ)
    (samePool : between.1.pool = before.1.pool) (plan : Plan) (walk : Walk)
    (checked : ((check root seed rowIndex stream metadata).run environment before).1 =
      .ok (plan, walk)) :
    match ((generate making root seed rowIndex walk.context.stream plan).run environment
      between).1 with
    | .ok (conversation, made) =>
        plan.Realized ((root.script .done).visits stream.reset (.above before.1.pool)) conversation
          made
    | .error halt => halt.error.Excused raised := by
  obtain ⟨known, followed, rfl⟩ := follow_of_check checked
  have source : walk.context.stream.source = stream.source :=
    (Script.plansOn_follow followed).stream.source
  have together : Lockstep before.1.pool [] (.startCheck seed rowIndex stream known)
      (.startGenerate seed rowIndex walk.context.stream walk.finishedPlan) between.1 :=
    .start source samePool
  have ends := (Script.lockstep_follow respects steady (Item.writtenIn_script foreseeable .done)
    rfl together followed rfl rfl).run respects
  simp only [generate, Process.run_bind]
  rcases result : (((root.script .done).follow (Walk.makeLeaf making) (.startGenerate seed rowIndex
      walk.context.stream walk.finishedPlan)).run environment between).1 with halt | ⟨⟨⟩, made⟩
  · rw [result] at ends
    exact ends
  · rw [result] at ends
    obtain ⟨samePlan, together⟩ := ends
    have all : made.context.messages.length = made.context.plan.entries.length := by
      rw [samePlan, together.length]
      rfl
    simp only [if_pos all, Process.run]
    exact {
      entries := together.planned
      messages := together.made
      foreseen := forall₂_foresees together.planned together.made
      recorded := ⟨rfl, together.recorded⟩
      footprints := together.trace
      tools := together.tools
      metadata := congrArg Plan.metadata samePlan }

/-- A clock that takes no arguments and has a result that the author gives. -/
def clock : ToolDefinition := ⟨"clock", "Tells the time", none, none⟩

/-- A question, a call of the clock, its result and an answer, each of the last three twice. -/
def clockTalk : Item :=
  .list [.node (.leaf (.fixed (.text "user") (.text "What time is it?"))), .node (.tool clock),
    .node (.times (.fixed (.int 2)) (.group [
      .leaf (.call ⟨clock, .text "first", .mapping [], .null, .null⟩),
      .leaf (.result ⟨clock, .text "first", some (.text "noon"), .null⟩),
      .leaf (.fixed (.text "assistant") (.text "It is noon"))]))]

theorem writtenIn_clockTalk : clockTalk.WrittenIn .foreseeable :=
  ⟨⟨.user, by decide, rfl⟩, trivial,
    ⟨⟨⟨_, rfl⟩, .inl rfl⟩, ⟨_, rfl⟩, ⟨.assistant, by decide, rfl⟩, trivial⟩, trivial⟩

theorem Environment.quiet_respects (raised : Error → Prop) :
    Environment.quiet.Respects (.undisturbed raised) :=
  { meanwhile _ := rfl
    answer _ _ _ failed := nomatch failed
    relies _ _ := rfl }

theorem generate_of_check_clockTalk :
    ∃ plan walk conversation made,
      ((check clockTalk (some 7) none (.ofSource (.scripted [])) []).run .quiet
        (⟨.fresh, #[]⟩, ())).1 = .ok (plan, walk) ∧
      ((generate ⟨true, none, true, true⟩ clockTalk (some 7) none walk.context.stream plan).run
        .quiet (⟨.fresh, #[]⟩, ())).1 = .ok (conversation, made) ∧
      plan.Realized ((clockTalk.script .done).visits (Random.Stream.ofSource (.scripted [])).reset
        (.above .fresh)) conversation made := by
  refine ⟨_, _, _, _, rfl, rfl, ?_⟩
  exact generate_of_check .quiet (fun _ => False) (Environment.quiet_respects _)
    ⟨true, none, true, true⟩ (fun _ absent => nomatch absent) clockTalk writtenIn_clockTalk (some 7)
    none (.ofSource (.scripted [])) [] (⟨.fresh, #[]⟩, ()) (⟨.fresh, #[]⟩, ()) rfl _ _ rfl

def writtenGreeting : Item := .node (.leaf (.written (.text "user") (.text "Say hello")))

/-- Extra messages whose source draws a value and gives none. -/
def drawingExtras : PromptExtras :=
  ⟨some (.computed (.draw fun _ => .done (.list []))), none, none, none, none, none⟩

/-- A source of extra messages that draws is not steady, and the generate phase fails by a skew. -/
theorem skew_of_drawingExtras :
    writtenGreeting.WrittenIn .foreseeable ∧
    ∃ plan walk halt report,
      ((check writtenGreeting (some 7) none (.ofSource (.scripted [])) []).run .quiet
        (⟨.fresh, #[]⟩, ())).1 = .ok (plan, walk) ∧
      ((generate ⟨true, some drawingExtras, true, true⟩ writtenGreeting (some 7) none
        walk.context.stream plan).run .quiet (⟨.fresh, #[]⟩, ())).1 = .error halt ∧
      halt.error = .skew report :=
  ⟨⟨.user, by decide, rfl⟩, _, _, _, _, rfl, rfl, rfl⟩

end Colloquy
