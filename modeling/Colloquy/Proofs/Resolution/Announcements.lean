import Colloquy.Proofs.Resolution.Lockstep
import Colloquy.Proofs.Resolution.Rehearsal

/-!
# Announced leaves

If decisions only draw and choose, a plan announces one leaf for each of its entries: the leaves that
are visited on the stream of the row, over the identifiers that are used. This holds of leaves of all
kinds, also of those that cannot be made as they are planned.
-/

set_option autoImplicit false

namespace Colloquy

open Selection (Choice)

/-- Schemas of leaves of all kinds, in which decisions draw and choose and do nothing else. -/
def Vocabulary.drawing : Vocabulary := ⟨fun _ => True, fun _ => True, False⟩

theorem Script.WrittenIn.silent {script : Script} (drawing : script.WrittenIn .drawing) :
    script.IsSilent := by
  induction drawing with
  | done => trivial
  | fail error => trivial
  | draw _ ih => exact ih
  | choose _ _ ih => exact ih
  | entry _ _ ih => exact ih
  | list _ ih => exact ih
  | update _ ih => exact ih
  | observe looks => exact looks.elim
  | ask looks => exact looks.elim
  | pause _ ih => exact ih

/-- The entry says of the visited leaf what can be known before it is made: its kind, the role and the
prompt or content, the tool and the id of the call. -/
structure Visit.AnnouncedBy (visit : Visit) (entry : PlanEntry) : Prop where
  kind : entry.kind = visit.leaf.kind
  role : visit.leaf.speaker = .text entry.role.name
  content : entry.content = visit.leaf.content
  tool : entry.toolName = visit.leaf.tool
  call : Fit.nullable Fit.text visit.leaf.callId = .ok entry.toolCallId
  draws : entry.drawCount = visit.draws

theorem Leaf.announced_of_plan {context : Context} {leaf : Leaf} {entry : PlanEntry}
    (planned : leaf.plan context = .ok entry) :
    Visit.AnnouncedBy ⟨leaf, context.draws⟩ entry := by
  obtain ⟨draft, drafted, fitted⟩ := bind_eq_ok.1 planned
  obtain ⟨⟨kind, speaker, content, tool, callId⟩, _⟩ := Leaf.draft_eq_ok drafted
  obtain ⟨role, named, same⟩ := EntryDraft.fit_eq_ok fitted
  refine ⟨?_, ?_, ?_, ?_, ?_, ?_⟩
  · rw [same, kind]
  · rw [← speaker, role]
  · rw [same, content]
  · rw [same, tool]
  · rw [← callId, named]
  · rw [same]

/-- Where the same identifiers are used, the same leaves are visited. -/
theorem Script.visits_congr (script : Script) (stream : Random.Stream) {left right : Unique.Store}
    (same : left.Same right) : script.visits stream left = script.visits stream right := by
  induction script generalizing stream left right with
  | done => rfl
  | fail error => rfl
  | draw next ih => exact ih _ _ same
  | choose options uniqueBy next ih =>
      obtain ⟨outcome, last, store⟩ := Unique.run_choose_congr options uniqueBy same stream
      simp only [visits]
      rcases ran : (Unique.choose options uniqueBy (some left)).run stream with
        ⟨⟨chosen, marked⟩, later⟩
      rcases ran' : (Unique.choose options uniqueBy (some right)).run stream with
        ⟨⟨chosen', marked'⟩, later'⟩
      rw [ran, ran'] at outcome last store
      cases outcome
      cases last
      cases chosen with
      | error error => rfl
      | ok chosen => exact ih _ _ store
  | entry leaf next ih => exact congrArg (List.cons ⟨leaf, stream.draws⟩) (ih stream same)
  | list tool next ih => exact ih stream same
  | update change next ih => exact ih stream same
  | observe next ih => rfl
  | ask call next ih => rfl
  | pause next ih => exact ih stream same

section

variable {μ : Type} {environment : Environment Shared μ ModelCall (Except Error Reply)}
variable {raised : Error → Prop} {pool : Unique.Store}

/-- The check phase plans one entry for each visited leaf. -/
theorem Script.announced_follow (respects : environment.Respects (.undisturbed raised))
    {script : Script} (drawing : script.WrittenIn .drawing) {walk final : Walk}
    {both : Shared × μ} (samePool : both.1.pool = pool) (phase : walk.context.phase = .check)
    (followed : ((script.follow Walk.planLeaf walk).run environment both).1 = .ok ((), final)) :
    ∃ entries, final.context.plan.entries = walk.context.plan.entries ++ entries ∧
      List.Forall₂ Visit.AnnouncedBy (script.visits walk.context.stream (walk.store pool))
        entries := by
  induction drawing generalizing walk both with
  | done =>
      cases followed
      exact ⟨[], (List.append_nil _).symm, .nil⟩
  | fail error => cases followed
  | draw rest ih =>
      have drawn : (walk.within walk.context.draw.2).context.phase = .check := phase
      exact ih _ samePool drawn followed
  | @choose options uniqueBy next _ rest ih =>
      simp only [follow, Walk.choose, Process.bind, Process.run] at followed
      rw [Walk.chosen_check_shared phase] at followed
      cases result : (walk.chosen options uniqueBy both.1).1 with
      | error halt =>
          rw [result] at followed
          cases followed
      | ok chosen =>
          obtain ⟨place, after⟩ := chosen
          obtain ⟨chosen, marked, ran, rfl, context, _, store⟩ := Walk.chosen_check phase result
          rw [samePool] at ran store
          rw [result] at followed
          have kept : after.context.phase = .check := by
            rw [context]
            exact phase
          have later := ih chosen.place samePool kept followed
          rw [context, store] at later
          simpa only [visits, ran] using later
  | @entry leaf next _ rest ih =>
      simp only [follow, Walk.planLeaf] at followed
      cases planned : leaf.plan walk.context with
      | error error =>
          simp only [planned] at followed
          cases followed
      | ok entry =>
          simp only [planned, Process.done_bind] at followed
          have added : (walk.within (walk.context.addEntry entry)).context.phase = .check := phase
          obtain ⟨entries, all, announced⟩ := ih samePool added followed
          refine ⟨entry :: entries, ?_, .cons (Leaf.announced_of_plan planned) announced⟩
          rw [all]
          exact List.append_assoc _ [entry] entries
  | @list tool next rest ih =>
      have listed : (walk.within (walk.context.addTool tool)).context.phase = .check := by
        rw [Context.addTool_eq]
        exact phase
      have later := ih samePool listed followed
      simp only [Context.addTool_eq] at later
      exact later
  | @update change next rest ih =>
      simp only [follow] at followed
      cases updated : walk.context.update change with
      | error error =>
          simp only [updated] at followed
          cases followed
      | ok context =>
          simp only [updated] at followed
          obtain ⟨kept, stream, store⟩ := Walk.update_check phase updated
          have later := ih samePool kept followed
          have plan : (walk.within context).context.plan.entries = walk.context.plan.entries :=
            (Context.keeps_update updated).entries
          rw [stream, store, plan] at later
          exact later
  | observe looks => exact looks.elim
  | ask looks => exact looks.elim
  | pause rest ih => exact ih ((respects.meanwhile both).trans samePool) phase followed

/-- A plan announces the leaves that are visited on the stream of the row. -/
theorem announced_of_check (respects : environment.Respects (.undisturbed raised)) {root : Item}
    (drawing : root.WrittenIn .drawing) {seed rowIndex : Option Int} {stream : Random.Stream}
    {metadata : Entries} {both : Shared × μ} {plan : Plan} {walk : Walk}
    (checked : ((check root seed rowIndex stream metadata).run environment both).1 =
      .ok (plan, walk)) :
    List.Forall₂ Visit.AnnouncedBy ((root.script .done).visits stream.reset both.1.pool)
        plan.entries ∧
      walk.context.stream.source = stream.source := by
  obtain ⟨known, followed, rfl⟩ := follow_of_check checked
  refine ⟨?_, (Script.plansOn_follow followed).stream.source⟩
  obtain ⟨entries, all, announced⟩ :=
    Script.announced_follow respects (Item.writtenIn_script drawing .done) rfl rfl followed
  have planned : walk.finishedPlan.entries = entries := all
  rw [planned]
  have above : Unique.Store.Same (.overlay .empty both.1.pool) both.1.pool := fun _ _ => rfl
  rw [← Script.visits_congr _ _ above]
  exact announced

end

end Colloquy
