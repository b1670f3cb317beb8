import Colloquy.Proofs.Resolution.Messages
import Colloquy.Proofs.Resolution.Verdict

/-!
# How many values are drawn in all

The two phases compare draws entry by entry, and not at their ends. A conversation that is generated
has been drawn for as the plan was, but for what is drawn behind the last entry: there the phases may
differ, and nobody notices.
-/

set_option autoImplicit false

namespace Colloquy

/-- How many of a number of draws come behind the last of a number of entries: all, if there is no
entry. -/
def drawnBehind (draws : Nat) (entries : List Footprint) : Int :=
  draws - (entries.getLast?.elim 0 Footprint.draws)

namespace Walk

def drawnBehindPlanned (walk : Walk) : Int :=
  drawnBehind walk.context.draws (walk.context.plan.entries.map PlanEntry.footprint)

def drawnBehindMade (walk : Walk) : Int :=
  drawnBehind walk.context.draws (walk.reports.map StepReport.made)

/-- What is on plan in the generate phase stays on the same plan. -/
structure StaysOnPlan (verifyDraws : Bool) (before after : Walk) : Prop where
  phase : after.context.phase = before.context.phase
  plan : before.context.phase = .generate → after.context.plan = before.context.plan
  onPlan : before.OnPlan verifyDraws → after.OnPlan verifyDraws

theorem lasting_staysOnPlan (verifyDraws : Bool) : Walk.Lasting (StaysOnPlan verifyDraws) where
  refl _ := ⟨rfl, fun _ => rfl, id⟩
  trans first second :=
    ⟨second.phase.trans first.phase,
      fun generates => (second.plan (first.phase.trans generates)).trans (first.plan generates),
      second.onPlan ∘ first.onPlan⟩
  aside aside := ⟨by rw [aside.context], fun _ => aside.plan, fun onPlan => onPlan.aside aside⟩
  within same := ⟨same.phase, same.plan, fun onPlan => onPlan.within same⟩

/-- A message joins the conversation only if it is as planned. -/
theorem staysOnPlan_makeLeaf (making : Making) (leaf : Leaf) (walk : Walk) :
    (walk.makeLeaf making leaf).Yields fun walked =>
      walk.StaysOnPlan making.verifyDraws (Walked.walk walked) := by
  have lasting := lasting_staysOnPlan making.verifyDraws
  refine Process.Yields.bind ((walk.aside_makeMessage making leaf).mono fun walked aside => ?_)
  rcases walked with halt | ⟨message, after⟩
  · exact .done (lasting.aside aside)
  · dsimp only
    unfold append
    cases objection : after.objection? making.verifyDraws message with
    | some error => exact .done (lasting.aside aside)
    | none =>
        refine (after.yields_join making message).mono fun walked joined => ?_
        subst joined
        exact lasting.trans (lasting.aside aside)
          ⟨rfl, fun _ => rfl, fun onPlan => onPlan.addMessage objection⟩

end Walk

/-- Nothing is drawn any more, and no entry is made, whatever way the script is followed. -/
inductive Script.IsStill : Script → Prop where
  | done : IsStill .done
  | fail (error : Error) : IsStill (.fail error)
  | list {tool : ToolSpec} {next : Script} (rest : IsStill next) : IsStill (.list tool next)
  | update {change : MetadataUpdate} {next : Script} (rest : IsStill next) :
      IsStill (.update change next)
  | observe {next : Context → Script} (rest : ∀ context, IsStill (next context)) :
      IsStill (.observe next)
  | ask {call : ModelCall} {next : Except Error Reply → Script}
      (rest : ∀ reply, IsStill (next reply)) : IsStill (.ask call next)
  | pause {next : Script} (rest : IsStill next) : IsStill (.pause next)

/-- Whatever way the script is followed to its end, nothing is drawn behind its last entry. -/
inductive Script.EndsInEntry : Script → Prop where
  | fail (error : Error) : EndsInEntry (.fail error)
  | draw {next : Float → Script} (rest : ∀ value, EndsInEntry (next value)) :
      EndsInEntry (.draw next)
  | choose {options : List (Selection.Choice Datum)} {uniqueBy : Option Unique.UniqueBy}
      {next : Nat → Script} (rest : ∀ place, EndsInEntry (next place)) :
      EndsInEntry (.choose options uniqueBy next)
  | last {leaf : Leaf} {next : Script} (rest : next.IsStill) : EndsInEntry (.entry leaf next)
  | entry {leaf : Leaf} {next : Script} (rest : EndsInEntry next) : EndsInEntry (.entry leaf next)
  | list {tool : ToolSpec} {next : Script} (rest : EndsInEntry next) :
      EndsInEntry (.list tool next)
  | update {change : MetadataUpdate} {next : Script} (rest : EndsInEntry next) :
      EndsInEntry (.update change next)
  | observe {next : Context → Script} (rest : ∀ context, EndsInEntry (next context)) :
      EndsInEntry (.observe next)
  | ask {call : ModelCall} {next : Except Error Reply → Script}
      (rest : ∀ reply, EndsInEntry (next reply)) : EndsInEntry (.ask call next)
  | pause {next : Script} (rest : EndsInEntry next) : EndsInEntry (.pause next)

/-- The walk has come to the end of its script with nothing drawn behind the last entry, if it has
come there at all. -/
def Walked.Closed (behind : Walk → Int) : Walked Unit → Prop
  | .ok (_, walk) => behind walk = 0
  | .error _ => True

namespace Script

variable {behind : Walk → Int} {emit : Leaf → Walk → RowProcess (Walked Unit)}

theorem IsStill.closed_follow
    (kept : ∀ (walk : Walk) (context : Context), walk.context.Keeps context →
      behind (walk.within context) = behind walk)
    {script : Script} (still : script.IsStill) {walk : Walk} (closed : behind walk = 0) :
    (script.follow emit walk).Yields (Walked.Closed behind) := by
  induction still generalizing walk with
  | done => exact .done closed
  | fail error => exact .done trivial
  | @list tool next _ ih =>
      exact ih ((kept walk _ (walk.context.keeps_addTool tool)).trans closed)
  | update _ ih =>
      unfold follow
      split
      next context updated => exact ih ((kept walk _ (Context.keeps_update updated)).trans closed)
      next error failed => exact .done trivial
  | observe _ ih => exact ih _ closed
  | ask _ ih => exact .ask fun reply => ih reply closed
  | pause _ ih => exact .pause (ih closed)

/-- A script that ends in an entry leaves nothing drawn behind its last entry, provided that nothing
is drawn behind an entry that has just been made. -/
theorem EndsInEntry.closed_follow
    (kept : ∀ (walk : Walk) (context : Context), walk.context.Keeps context →
      behind (walk.within context) = behind walk)
    (made : ∀ leaf walk, (emit leaf walk).Yields (Walked.Closed behind))
    {script : Script} (ends : script.EndsInEntry) (walk : Walk) :
    (script.follow emit walk).Yields (Walked.Closed behind) := by
  induction ends generalizing walk with
  | fail error => exact .done trivial
  | draw _ ih => exact ih _ _
  | choose _ ih =>
      unfold follow
      exact Walk.yields_choose (fun place after _ => ih place after) fun _ _ => .done trivial
  | last still =>
      refine Process.Yields.bind ((made _ walk).mono fun walked closed => ?_)
      rcases walked with halt | ⟨⟨⟩, after⟩
      · exact .done trivial
      · exact still.closed_follow kept closed
  | entry _ ih =>
      refine Process.Yields.bind ((made _ walk).mono fun walked _ => ?_)
      rcases walked with halt | ⟨⟨⟩, after⟩
      · exact .done trivial
      · exact ih after
  | list _ ih => exact ih _
  | update _ ih =>
      unfold follow
      split
      · exact ih _
      · exact .done trivial
  | observe _ ih => exact ih _ walk
  | ask _ ih => exact .ask fun reply => ih reply walk
  | pause _ ih => exact .pause (ih walk)

end Script

namespace Walk

theorem drawnBehindPlanned_within (walk : Walk) (context : Context)
    (same : walk.context.Keeps context) :
    (walk.within context).drawnBehindPlanned = walk.drawnBehindPlanned := by
  simp only [drawnBehindPlanned, within, Context.draws, same.entries, same.stream]

theorem drawnBehindMade_within (walk : Walk) (context : Context)
    (same : walk.context.Keeps context) :
    (walk.within context).drawnBehindMade = walk.drawnBehindMade := by
  simp only [drawnBehindMade, within, Context.draws, same.stream]

theorem closed_planLeaf (leaf : Leaf) (walk : Walk) :
    (walk.planLeaf leaf).Yields (Walked.Closed drawnBehindPlanned) := by
  unfold planLeaf
  cases planned : leaf.plan walk.context with
  | error error => exact .done trivial
  | ok entry =>
      obtain ⟨draft, _, fitted⟩ := bind_eq_ok.1 planned
      have draws : entry.drawCount = walk.context.draws := by
        rw [(EntryDraft.fit_eq_ok fitted).2.2]
      refine .done ?_
      show drawnBehind _ _ = 0
      simp [drawnBehind, within, Context.addEntry, PlanEntry.footprint, draws, Context.draws]

theorem closed_makeLeaf (making : Making) (leaf : Leaf) (walk : Walk) :
    (walk.makeLeaf making leaf).Yields (Walked.Closed drawnBehindMade) := by
  refine Process.Yields.bind ((walk.aside_makeMessage making leaf).mono fun walked _ => ?_)
  rcases walked with halt | ⟨message, after⟩
  · exact .done trivial
  · dsimp only
    unfold append
    cases after.objection? making.verifyDraws message with
    | some error => exact .done trivial
    | none =>
        refine (after.yields_join making message).mono fun walked joined => ?_
        subst joined
        show drawnBehind _ _ = 0
        simp [drawnBehind, addMessage, stepReport, Context.draws]

end Walk

theorem drawnBehind_eq_iff {draws draws' : Nat} {entries entries' : List Footprint}
    (same : entries.map Footprint.draws = entries'.map Footprint.draws) :
    draws = draws' ↔ drawnBehind draws entries = drawnBehind draws' entries' := by
  have last (entries : List Footprint) : entries.getLast?.elim 0 Footprint.draws =
      ((entries.map Footprint.draws).getLast?).getD 0 := by
    rw [List.getLast?_map]
    cases entries.getLast? <;> rfl
  unfold drawnBehind
  rw [last, last, same]
  omega

section

variable {μ ν : Type} {environment : Environment Shared μ ModelCall (Except Error Reply)}
variable {environment' : Environment Shared ν ModelCall (Except Error Reply)}
variable {making : Making} {root : Item} {seed rowIndex : Option Int} {stream : Random.Stream}
variable {metadata : Entries} {plan : Plan} {both : Shared × μ} {both' : Shared × ν}
variable {conversation : Generated} {walk last : Walk}

/-- The walk behind a plan, as the tree was followed. -/
theorem followed_of_check
    (checked : ((check root seed rowIndex stream metadata).run environment both).1 =
      .ok (plan, walk)) :
    plan.entries = walk.context.plan.entries ∧ ∃ metadata,
      (((root.script .done).follow Walk.planLeaf (.startCheck seed rowIndex stream metadata)).run
        environment both).1 = .ok ((), walk) := by
  unfold check at checked
  split at checked
  · cases checked
  next metadata _ =>
    rw [Process.run_bind] at checked
    rcases followed : (((root.script .done).follow Walk.planLeaf
      (.startCheck seed rowIndex stream metadata)).run environment both).1 with halt | ⟨⟨⟩, after⟩
    · rw [followed] at checked
      cases checked
    · rw [followed] at checked
      cases checked
      exact ⟨rfl, metadata, followed⟩

/-- The walk behind a conversation, as the tree was followed: it has made all of the plan. -/
theorem walk_of_generate
    (generated : ((generate making root seed rowIndex stream plan).run environment both).1 =
      .ok (conversation, last)) :
    (((root.script .done).follow (Walk.makeLeaf making)
        (.startGenerate seed rowIndex stream plan)).run environment both).1 = .ok ((), last) ∧
      conversation = last.conversation ∧
      last.context.messages.length = last.context.plan.entries.length := by
  unfold generate at generated
  rw [Process.run_bind] at generated
  rcases followed : (((root.script .done).follow (Walk.makeLeaf making)
    (.startGenerate seed rowIndex stream plan)).run environment both).1 with halt | ⟨⟨⟩, after⟩
  · rw [followed] at generated
    cases generated
  · rw [followed] at generated
    dsimp only at generated
    split at generated
    next all =>
      cases generated
      exact ⟨rfl, rfl, all⟩
    next => cases generated

/-- The walk behind a conversation has left the trace that was planned. -/
theorem followed_of_generate
    (generated : ((generate making root seed rowIndex stream plan).run environment both).1 =
      .ok (conversation, last)) :
    last.trace making.verifyDraws = plan.trace making.verifyDraws ∧
      (((root.script .done).follow (Walk.makeLeaf making)
        (.startGenerate seed rowIndex stream plan)).run environment both).1 = .ok ((), last) := by
  obtain ⟨followed, _, all⟩ := walk_of_generate generated
  have stays := (Script.lasting_follow (Walk.lasting_staysOnPlan making.verifyDraws)
    (Walk.staysOnPlan_makeLeaf making) (root.script .done)
    (.startGenerate seed rowIndex stream plan)).run environment both
  rw [followed, Walked.walk_ok] at stays
  have agree := (stays.onPlan (.start seed rowIndex stream plan)).complete all
  rw [show last.context.plan = plan from stays.plan rfl] at agree
  exact ⟨agree, followed⟩

/-- Footprints that are seen alike, draws included, are drawn for alike. -/
theorem draws_of_trace_eq {verifyDraws : Bool} (verified : verifyDraws = true)
    (same : last.trace verifyDraws = plan.trace verifyDraws) :
    (last.reports.map StepReport.made).map Footprint.draws =
      (plan.entries.map PlanEntry.footprint).map Footprint.draws := by
  have seen := congrArg (List.map fun seen : EntryKind × Role × Option Int => seen.2.2.getD 0) same
  simpa [Walk.trace, Plan.trace, Footprint.seen, verified, Function.comp_def] using seen

/-- The totals of the phases are compared up to the last entry only. When a conversation has been
generated, they are equal exactly if as many values have been drawn behind the last entry in both
phases, and so they are if the schema ends in an entry. When as many values are drawn there, a free
walk of another total has been halted. -/
theorem totals_of_generate (environment : Environment Shared μ ModelCall (Except Error Reply))
    (both : Shared × μ) {making : Making} (verified : making.verifyDraws = true)
    (checked : ((check root seed rowIndex stream metadata).run environment' both').1 =
      .ok (plan, walk)) :
    let verdict := ((generate making root seed rowIndex stream plan).run environment both).1
    (∀ conversation last, verdict = .ok (conversation, last) →
      (last.context.draws = walk.context.draws ↔
        last.drawnBehindMade = walk.drawnBehindPlanned) ∧
      ((root.script .done).EndsInEntry → last.context.draws = walk.context.draws)) ∧
    ∀ made, ((generateFreely making root seed rowIndex stream plan).run environment both).1 =
        .ok ((), made) →
      made.drawnBehindMade = walk.drawnBehindPlanned →
      made.context.draws ≠ walk.context.draws →
      ∃ place halt, verdict = .error halt ∧ halt.StopsAt plan made place := by
  obtain ⟨entries, metadata, planned⟩ := followed_of_check checked
  have totals (conversation : Generated) (last : Walk)
      (generated : ((generate making root seed rowIndex stream plan).run environment both).1 =
        .ok (conversation, last)) :
      last.context.draws = walk.context.draws ↔
        last.drawnBehindMade = walk.drawnBehindPlanned := by
    have same := draws_of_trace_eq verified (followed_of_generate generated).1
    rw [entries] at same
    exact drawnBehind_eq_iff same
  refine ⟨fun conversation last generated => ⟨totals conversation last generated, ?_⟩, ?_⟩
  · intro ends
    have madeClosed := (ends.closed_follow Walk.drawnBehindMade_within
      (Walk.closed_makeLeaf making) (.startGenerate seed rowIndex stream plan)).run environment both
    have plannedClosed := (ends.closed_follow Walk.drawnBehindPlanned_within Walk.closed_planLeaf
      (.startCheck seed rowIndex stream metadata)).run environment' both'
    rw [(followed_of_generate generated).2] at madeClosed
    rw [planned] at plannedClosed
    exact (totals conversation last generated).2 (madeClosed.trans plannedClosed.symm)
  · intro made free behind differ
    rcases generate_cases free with ⟨_, generated⟩ | ⟨place, halt, halted, _, stops⟩
    · exact absurd ((totals _ _ generated).2 behind) differ
    · exact ⟨place, halt, halted, stops⟩

end

/-- A greeting behind which one more value is drawn in the generate phase than in the check phase. -/
def trailingDraw : Item :=
  .list [.node (.leaf (.fixed (.text "user") (.text "Hi"))),
    .node (.dynamic (.draw fun _ => .draw fun _ => .observe fun context =>
      match context.phase with
      | .check => .done (.datum .null)
      | .generate => .draw fun _ => .done (.datum .null)))]

/-- Draws behind the last entry are not compared: the totals of the phases differ, and a conversation
is generated. -/
theorem generate_trailingDraw :
    ∃ plan walk conversation last,
      ((check trailingDraw (some 7) none (.ofSource (.scripted [0.5])) []).run .quiet
        (⟨.fresh, #[]⟩, ())).1 = .ok (plan, walk) ∧
      ((generate ⟨false, none, true, false⟩ trailingDraw (some 7) none
        (.ofSource (.scripted [0.5])) plan).run .quiet (⟨.fresh, #[]⟩, ())).1 =
          .ok (conversation, last) ∧
      walk.context.draws = 2 ∧ last.context.draws = 3 :=
  ⟨_, _, _, _, rfl, rfl, rfl, rfl⟩

/-- The same draws ahead of the greeting. -/
def leadingDraw : Item :=
  .list [.node (.dynamic (.draw fun _ => .draw fun _ => .observe fun context =>
      match context.phase with
      | .check => .done (.datum .null)
      | .generate => .draw fun _ => .done (.datum .null))),
    .node (.leaf (.fixed (.text "user") (.text "Hi")))]

theorem totals_of_generate_leadingDraw :
    ∃ plan walk made place halt,
      ((check leadingDraw (some 7) none (.ofSource (.scripted [0.5])) []).run .quiet
        (⟨.fresh, #[]⟩, ())).1 = .ok (plan, walk) ∧
      ((generateFreely ⟨false, none, true, false⟩ leadingDraw (some 7) none
        (.ofSource (.scripted [0.5])) plan).run .quiet (⟨.fresh, #[]⟩, ())).1 = .ok ((), made) ∧
      walk.context.draws = 2 ∧ made.context.draws = 3 ∧
      ((generate ⟨false, none, true, false⟩ leadingDraw (some 7) none
        (.ofSource (.scripted [0.5])) plan).run .quiet (⟨.fresh, #[]⟩, ())).1 = .error halt ∧
      halt.StopsAt plan made place := by
  let checked := ((check leadingDraw (some 7) none (.ofSource (.scripted [0.5])) []).run .quiet
    (⟨.fresh, #[]⟩, ())).1
  let walk := Walked.walk checked
  let freely := ((generateFreely ⟨false, none, true, false⟩ leadingDraw (some 7) none
    (.ofSource (.scripted [0.5])) walk.finishedPlan).run .quiet (⟨.fresh, #[]⟩, ())).1
  have planned : checked = .ok (walk.finishedPlan, walk) := rfl
  have free : freely = .ok ((), Walked.walk freely) := rfl
  have verified : (⟨false, none, true, false⟩ : Making).verifyDraws = true := rfl
  have differ : (Walked.walk freely).context.draws ≠ walk.context.draws := by decide
  have behind : (Walked.walk freely).drawnBehindMade = walk.drawnBehindPlanned := rfl
  obtain ⟨place, halt, halted, stops⟩ :=
    (totals_of_generate .quiet (⟨.fresh, #[]⟩, ()) verified planned).2 _ free behind differ
  exact ⟨_, walk, _, place, halt, planned, free, rfl, rfl, halted, stops⟩

end Colloquy
