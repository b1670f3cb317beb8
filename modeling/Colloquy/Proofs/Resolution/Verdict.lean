import Colloquy.Proofs.Resolution.Frame

/-!
# The verdict of the generate phase

The generate phase stops at the first entry that differs from its plan. To say which entry that is,
the same walk is taken freely: every message joins the conversation, whatever is planned. The trace
of the free walk and that of the plan decide whether a conversation is generated, and if not, where
the walk is halted and by which error.
-/

set_option autoImplicit false

namespace Colloquy

/-- What is compared of an entry: its kind, who speaks and, where draws are verified, their
number. -/
def Footprint.seen (verifyDraws : Bool) (footprint : Footprint) : EntryKind × Role × Option Int :=
  (footprint.kind, footprint.role, if verifyDraws then some footprint.draws else none)

/-- What a plan fixes of its entries, one after another. -/
def Plan.trace (verifyDraws : Bool) (plan : Plan) : List (EntryKind × Role × Option Int) :=
  plan.entries.map fun entry => entry.footprint.seen verifyDraws

theorem Plan.trace_congr {plan plan' : Plan} (same : plan.entries = plan'.entries)
    (verifyDraws : Bool) : plan.trace verifyDraws = plan'.trace verifyDraws := by
  unfold trace
  rw [same]

/-- Two lists agree before a place and differ there. -/
def FirstDifference {α : Type} (left right : List α) (place : Nat) : Prop :=
  left.take place = right.take place ∧ left[place]? ≠ right[place]?

theorem FirstDifference.unique {α : Type} {left right : List α} {here there : Nat}
    (atHere : FirstDifference left right here) (atThere : FirstDifference left right there) :
    here = there := by
  have agree {first second : Nat} (same : left.take second = right.take second)
      (before : first < second) : left[first]? = right[first]? := by
    have taken := congrArg (fun list => list[first]?) same
    simpa [List.getElem?_take, before] using taken
  rcases Nat.lt_trichotomy here there with before | same | after
  · exact absurd (agree atThere.1 before) atHere.2
  · exact same
  · exact absurd (agree atHere.1 after) atThere.2

namespace Walk

/-- What has been made on a walk, one entry after another. -/
def trace (verifyDraws : Bool) (walk : Walk) : List (EntryKind × Role × Option Int) :=
  walk.reports.map fun report => report.made.seen verifyDraws

/-- There is one report for each message, in order. -/
structure Recorded (walk : Walk) : Prop where
  steps : walk.reports.map StepReport.step = List.range walk.context.messages.length
  made : walk.reports.map (fun report => (report.made.kind, report.made.role)) =
    walk.context.messages.map fun message => (message.kind, message.role)
  planned : walk.reports.map (fun report => (report.total, report.stepType)) =
    (List.range walk.context.messages.length).map fun place =>
      (walk.context.plan.entries.length,
        (walk.context.plan.entries[place]?.map PlanEntry.stepType).getD "")

/-- What has been made so far is as planned. -/
structure OnPlan (verifyDraws : Bool) (walk : Walk) : Prop where
  recorded : walk.Recorded
  agrees : walk.trace verifyDraws =
    (walk.context.plan.trace verifyDraws).take walk.context.messages.length

/-- One walk is a later state of another. -/
structure Extends (before after : Walk) : Prop where
  messages : before.context.messages <+: after.context.messages
  reports : before.reports <+: after.reports
  plan : after.context.plan.entries = before.context.plan.entries
  recorded : before.Recorded → after.Recorded

theorem Recorded.length_reports {walk : Walk} (recorded : walk.Recorded) :
    walk.reports.length = walk.context.messages.length := by
  simpa using congrArg List.length recorded.steps

theorem Recorded.length_trace {walk : Walk} (recorded : walk.Recorded) (verifyDraws : Bool) :
    (walk.trace verifyDraws).length = walk.context.messages.length := by
  simpa [trace] using recorded.length_reports

theorem Recorded.addMessage {walk : Walk} (recorded : walk.Recorded) (message : Message) :
    (walk.addMessage message).Recorded where
  steps := by simp [Walk.addMessage, stepReport, recorded.steps, List.range_succ]
  made := by simp [Walk.addMessage, stepReport, recorded.made]
  planned := by simp [Walk.addMessage, stepReport, recorded.planned, List.range_succ]

theorem Recorded.aside {before after : Walk} (recorded : before.Recorded)
    (aside : before.Aside after) : after.Recorded where
  steps := by rw [aside.reports, aside.messages]; exact recorded.steps
  made := by rw [aside.reports, aside.messages]; exact recorded.made
  planned := by rw [aside.reports, aside.messages, aside.plan]; exact recorded.planned

theorem OnPlan.aside {verifyDraws : Bool} {before after : Walk} (onPlan : before.OnPlan verifyDraws)
    (aside : before.Aside after) : after.OnPlan verifyDraws where
  recorded := onPlan.recorded.aside aside
  agrees := by
    rw [aside.messages, aside.plan, trace, aside.reports]
    exact onPlan.agrees

namespace Extends

theorem refl (walk : Walk) : walk.Extends walk :=
  ⟨List.prefix_rfl, List.prefix_rfl, rfl, id⟩

theorem trans {before between after : Walk} (first : before.Extends between)
    (second : between.Extends after) : before.Extends after :=
  ⟨first.messages.trans second.messages, first.reports.trans second.reports,
    second.plan.trans first.plan, second.recorded ∘ first.recorded⟩

theorem addMessage (walk : Walk) (message : Message) : walk.Extends (walk.addMessage message) :=
  ⟨List.prefix_append _ _, List.prefix_append _ _, rfl, fun recorded => recorded.addMessage message⟩

end Extends

theorem Aside.extends {before after : Walk} (aside : before.Aside after) :
    before.Extends after where
  messages := aside.messages ▸ List.prefix_rfl
  reports := aside.reports ▸ List.prefix_rfl
  plan := congrArg Plan.entries aside.plan
  recorded recorded := recorded.aside aside

/-- Makes the entry of a leaf, whatever is planned. -/
def makeFreely (making : Making) (leaf : Leaf) (walk : Walk) : RowProcess (Walked Unit) :=
  (walk.makeMessage making leaf).bind fun
    | .error halt => .done (.error halt)
    | .ok (message, walk) => walk.join making message

end Walk

/-- Generates a tree without comparing what is made with the plan. -/
def generateFreely (making : Making) (root : Item) (seed rowIndex : Option Int)
    (stream : Random.Stream) (plan : Plan) : RowProcess (Walked Unit) :=
  (root.script .done).follow (Walk.makeFreely making) (.startGenerate seed rowIndex stream plan)

namespace Walk

theorem yields_join (making : Making) (message : Message) (walk : Walk) :
    (walk.join making message).Yields fun walked => walked = .ok ((), walk.addMessage message) := by
  unfold join
  split
  · exact .step fun _ => .done rfl
  · exact .done rfl

theorem extends_makeFreely (making : Making) (leaf : Leaf) (walk : Walk) :
    (walk.makeFreely making leaf).Yields fun walked => walk.Extends (Walked.walk walked) := by
  refine Process.Yields.bind ((walk.aside_makeMessage making leaf).mono fun walked aside => ?_)
  rcases walked with halt | ⟨message, after⟩
  · exact .done aside.extends
  · refine (after.yields_join making message).mono fun walked joined => ?_
    subst joined
    exact aside.extends.trans (.addMessage after message)

end Walk

theorem Walk.extends_within {walk : Walk} {context : Context}
    (same : walk.context.Keeps context) : walk.Extends (walk.within context) where
  messages := same.messages ▸ List.prefix_rfl
  reports := List.prefix_rfl
  plan := same.entries
  recorded recorded :=
    ⟨by simpa [within, same.messages] using recorded.steps,
      by simpa [within, same.messages] using recorded.made,
      by simpa [within, same.messages, same.entries] using recorded.planned⟩

theorem Walk.OnPlan.within {verifyDraws : Bool} {walk : Walk} {context : Context}
    (onPlan : walk.OnPlan verifyDraws) (same : walk.context.Keeps context) :
    (walk.within context).OnPlan verifyDraws where
  recorded := (extends_within same).recorded onPlan.recorded
  agrees := by
    simpa [Walk.within, trace, Plan.trace, same.messages, same.entries] using onPlan.agrees

theorem Walk.lasting_extends : Walk.Lasting Walk.Extends :=
  ⟨.refl, .trans, Aside.extends, extends_within⟩

/-- An error says that a row differs from its plan at a place, where `planned` was planned and
`made` has been made: only a difference of draws is told apart from the others. -/
def Error.Reports (error : Error) (place : Nat) : Option PlanEntry → Option Footprint → Prop
  | some planned, some made =>
      if planned.kind = made.kind ∧ planned.role = made.role then
        ∃ report, error = .skew report ∧ report.stepIndex = place ∧
          report.expectedDraws = some planned.drawCount ∧ report.actualDraws = some made.draws
      else ∃ report, error = .mismatch report ∧ report.stepIndex = place
  | _, _ => ∃ report, error = .mismatch report ∧ report.stepIndex = place

namespace Walk

variable {verifyDraws : Bool} {walk : Walk} {message : Message}

/-- A message may join the conversation if it leaves the footprint that is planned. -/
theorem agrees_of_no_objection (accepted : walk.objection? verifyDraws message = none) :
    (walk.context.plan.trace verifyDraws)[walk.context.messages.length]? =
      some ((walk.stepReport message).made.seen verifyDraws) := by
  unfold objection? at accepted
  split at accepted
  · cases accepted
  next planned found =>
    split at accepted
    · cases accepted
    next alike =>
      split at accepted
      · cases accepted
      next drawn =>
        simp only [ne_eq, not_or, Decidable.not_not] at alike
        simp only [ne_eq, not_and, Decidable.not_not] at drawn
        cases verifyDraws <;>
          simp_all [Plan.trace, stepReport, Footprint.seen, PlanEntry.footprint]

/-- A message that is objected to leaves another footprint than is planned, and the error says
so. -/
theorem reports_of_objection {error : Error}
    (objected : walk.objection? verifyDraws message = some error) :
    (walk.context.plan.trace verifyDraws)[walk.context.messages.length]? ≠
        some ((walk.stepReport message).made.seen verifyDraws) ∧
      error.Reports walk.context.messages.length
        walk.context.plan.entries[walk.context.messages.length]?
        (some (walk.stepReport message).made) := by
  unfold objection? at objected
  split at objected
  next missing =>
    cases objected
    exact ⟨by simp [Plan.trace, missing], by simp [Error.Reports, missing, surplus]⟩
  next planned found =>
    split at objected
    next unlike =>
      cases objected
      have differs : ¬(planned.kind = message.kind ∧ planned.role = message.role) :=
        fun same => unlike.elim (fun kind => kind same.1) fun role => role same.2
      refine ⟨?_, ?_⟩
      · simp only [Plan.trace, List.getElem?_map, found, Option.map_some, Footprint.seen,
          PlanEntry.footprint, stepReport, ne_eq, Option.some.injEq, Prod.mk.injEq]
        exact fun same => differs ⟨same.1, same.2.1⟩
      · simp [Error.Reports, found, stepReport, differs, skewAt]
    next alike =>
      split at objected
      next drawn =>
        cases objected
        have same : planned.kind = message.kind ∧ planned.role = message.role := by
          simpa [not_or] using alike
        refine ⟨?_, ?_⟩
        · simp only [Plan.trace, List.getElem?_map, found, Option.map_some, Footprint.seen,
            PlanEntry.footprint, stepReport, drawn.1, ne_eq, Option.some.injEq, Prod.mk.injEq]
          exact fun equal => drawn.2 (by simpa using equal.2.2)
        · simp [Error.Reports, found, stepReport, same, skewAt]
      · cases objected

theorem OnPlan.addMessage (onPlan : walk.OnPlan verifyDraws)
    (accepted : walk.objection? verifyDraws message = none) :
    (walk.addMessage message).OnPlan verifyDraws where
  recorded := onPlan.recorded.addMessage message
  agrees := by
    have planned := agrees_of_no_objection accepted
    have before := onPlan.agrees
    simp only [trace] at before
    simp [trace, Walk.addMessage, before, List.take_add_one, planned]

end Walk

/-- The walk was halted by an objection to a message that the free walk goes on with. -/
def Halt.ObjectsOn (verifyDraws : Bool) (made : Walk) (halt : Halt) : Prop :=
  halt.walk.OnPlan verifyDraws ∧ ∃ message,
    halt.walk.objection? verifyDraws message = some halt.error ∧
      (halt.walk.addMessage message).Extends made

section Runs

variable {μ : Type} {environment : Environment Shared μ ModelCall (Except Error Reply)}
variable {making : Making} {made : Walk}

theorem Walk.run_join (message : Message) (walk : Walk) (both : Shared × μ) :
    ((walk.join making message).run environment both).1 = .ok ((), walk.addMessage message) :=
  (walk.yields_join making message).run environment both

/-- Following a plan is the free walk, up to the first message that is objected to. -/
theorem Script.follow_makeLeaf (script : Script) {walk : Walk} {both : Shared × μ}
    (onPlan : walk.OnPlan making.verifyDraws)
    (free : ((script.follow (Walk.makeFreely making) walk).run environment both).1 =
      .ok ((), made)) :
    (made.OnPlan making.verifyDraws ∧
      (script.follow (Walk.makeLeaf making) walk).run environment both =
        (script.follow (Walk.makeFreely making) walk).run environment both) ∨
    ∃ halt : Halt, halt.ObjectsOn making.verifyDraws made ∧
      ((script.follow (Walk.makeLeaf making) walk).run environment both).1 = .error halt := by
  -- The two walks are one and the same until a message is objected to.
  induction script generalizing walk both with
  | done =>
      simp only [Script.follow, Process.run, Except.ok.injEq, Prod.mk.injEq, true_and] at free
      subst free
      exact .inl ⟨onPlan, rfl⟩
  | fail error => cases free
  | draw next ih =>
      have drawn := walk.aside_drawn (.one walk.context.stream)
      exact ih _ (onPlan.aside drawn) free
  | choose options uniqueBy next ih =>
      simp only [Script.follow, Walk.choose, Process.bind, Process.run] at free ⊢
      have aside := walk.aside_chosen options uniqueBy both.1
      rcases result : (walk.chosen options uniqueBy both.1).1 with halt | ⟨place, after⟩
      · simp only [result] at free
        cases free
      · simp only [result] at free ⊢
        exact ih place (onPlan.aside (by simpa [result] using aside)) free
  | entry leaf next ih =>
      simp only [Script.follow, Walk.makeFreely, Walk.makeLeaf, Process.run_bind] at free ⊢
      have aside := (walk.aside_makeMessage making leaf).run environment both
      rcases result : ((walk.makeMessage making leaf).run environment both).1 with halt | ⟨message, after⟩
      · simp only [result] at free
        cases free
      · have onPlan := onPlan.aside (by simpa [result] using aside)
        simp only [result, Walk.run_join] at free ⊢
        unfold Walk.append
        cases objection : after.objection? making.verifyDraws message with
        | none =>
            simp only [Walk.run_join]
            exact ih (onPlan.addMessage objection) free
        | some error =>
            have later := (Script.lasting_follow Walk.lasting_extends
              (Walk.extends_makeFreely making) next (after.addMessage message)).run environment
                (((after.join making message).run environment
                  ((walk.makeMessage making leaf).run environment both).2).2)
            rw [free] at later
            exact .inr ⟨⟨error, after⟩, ⟨onPlan, message, objection, later⟩, rfl⟩
  | list tool next ih =>
      exact ih (onPlan.within (walk.context.keeps_addTool tool)) free
  | update change next ih =>
      unfold Script.follow at free ⊢
      split at free
      next context updated =>
        exact ih (onPlan.within (Context.keeps_update updated)) free
      next error failed => cases free
  | observe next ih => exact ih _ onPlan free
  | ask call next ih => exact ih _ onPlan free
  | pause next ih => exact ih onPlan free

end Runs

/-- The row was ended at a place: what was made before it has been kept and reported once, in order,
and the error says what differs there. -/
structure Halt.StopsAt (plan : Plan) (made : Walk) (place : Nat) (halt : Halt) : Prop where
  messages : halt.walk.context.messages = made.context.messages.take place
  reports : halt.walk.reports = made.reports.take place
  steps : halt.walk.reports.map StepReport.step = List.range place
  error : halt.error.Reports place plan.entries[place]? (made.reports[place]?.map StepReport.made)

theorem Halt.StopsAt.congr {plan plan' : Plan} {made : Walk} {place : Nat} {halt : Halt}
    (stops : halt.StopsAt plan made place) (same : plan.entries = plan'.entries) :
    halt.StopsAt plan' made place :=
  ⟨stops.messages, stops.reports, stops.steps, same ▸ stops.error⟩

theorem Halt.ObjectsOn.stopsAt {verifyDraws : Bool} {made : Walk} {halt : Halt}
    (objects : halt.ObjectsOn verifyDraws made) :
    FirstDifference (made.trace verifyDraws) (made.context.plan.trace verifyDraws)
        halt.walk.context.messages.length ∧
      halt.StopsAt made.context.plan made halt.walk.context.messages.length := by
  obtain ⟨onPlan, message, objected, later⟩ := objects
  obtain ⟨unlike, reports⟩ := Walk.reports_of_objection objected
  have count := onPlan.recorded.length_reports
  have plan : made.context.plan.entries = halt.walk.context.plan.entries := later.plan
  have trace := Plan.trace_congr plan verifyDraws
  obtain ⟨moreMessages, messages⟩ := later.messages
  obtain ⟨moreReports, madeReports⟩ := later.reports
  simp only [Walk.addMessage, List.append_assoc] at messages madeReports
  have here : made.reports[halt.walk.context.messages.length]? =
      some (halt.walk.stepReport message) := by
    simp [← madeReports, ← count]
  have before : made.reports.take halt.walk.context.messages.length = halt.walk.reports := by
    simp [← madeReports, ← count]
  refine ⟨⟨?_, ?_⟩, ?_, before.symm, onPlan.recorded.steps, ?_⟩
  · rw [trace, ← onPlan.agrees, Walk.trace, Walk.trace, ← List.map_take, before]
  · rw [trace, Walk.trace, List.getElem?_map, here]
    exact unlike.symm
  · simp [← messages]
  · rw [plan, here]
    exact reports

theorem FirstDifference.ne {α : Type} {left right : List α} {place : Nat}
    (differs : FirstDifference left right place) : left ≠ right :=
  fun same => differs.2 (by rw [same])

namespace Walk.OnPlan

variable {verifyDraws : Bool} {walk : Walk}

theorem start (seed rowIndex : Option Int) (stream : Random.Stream) (plan : Plan) :
    (startGenerate seed rowIndex stream plan).OnPlan verifyDraws :=
  ⟨⟨rfl, rfl, rfl⟩, rfl⟩

theorem length_le (onPlan : walk.OnPlan verifyDraws) :
    walk.context.messages.length ≤ walk.context.plan.entries.length := by
  have count := congrArg List.length onPlan.agrees
  rw [onPlan.recorded.length_trace, List.length_take, Plan.trace, List.length_map] at count
  omega

theorem complete (onPlan : walk.OnPlan verifyDraws)
    (all : walk.context.messages.length = walk.context.plan.entries.length) :
    walk.trace verifyDraws = walk.context.plan.trace verifyDraws := by
  rw [onPlan.agrees, all]
  exact List.take_of_length_le (by simp [Plan.trace])

theorem stopsAt (onPlan : walk.OnPlan verifyDraws)
    (missing : walk.context.messages.length ≠ walk.context.plan.entries.length) :
    FirstDifference (walk.trace verifyDraws) (walk.context.plan.trace verifyDraws)
        walk.context.messages.length ∧
      Halt.StopsAt walk.context.plan walk walk.context.messages.length
        ⟨.mismatch walk.shortfall, walk⟩ := by
  have short : walk.context.messages.length < walk.context.plan.entries.length :=
    Nat.lt_of_le_of_ne onPlan.length_le missing
  have made : walk.reports[walk.context.messages.length]? = none := by
    simp [onPlan.recorded.length_reports]
  have all : walk.reports.take walk.context.messages.length = walk.reports :=
    List.take_of_length_le (by simp [onPlan.recorded.length_reports])
  refine ⟨⟨?_, ?_⟩, by simp, all.symm, onPlan.recorded.steps, ?_⟩
  · rw [← onPlan.agrees, trace, ← List.map_take, all]
  · simp [trace, made, Plan.trace, short]
  · rw [made]
    simp [Error.Reports, shortfall, short]

end Walk.OnPlan

section Verdicts

variable {μ : Type} {environment : Environment Shared μ ModelCall (Except Error Reply)}
variable {making : Making} {root : Item} {seed rowIndex : Option Int} {stream : Random.Stream}
variable {plan : Plan} {both : Shared × μ} {made : Walk}

theorem extends_generateFreely
    (free : ((generateFreely making root seed rowIndex stream plan).run environment both).1 =
      .ok ((), made)) :
    (Walk.startGenerate seed rowIndex stream plan).Extends made := by
  have later := (Script.lasting_follow Walk.lasting_extends (Walk.extends_makeFreely making)
    (root.script .done) (.startGenerate seed rowIndex stream plan)).run environment both
  unfold generateFreely at free
  rwa [free] at later

/-- Either the traces agree and the conversation of the free walk is generated, or the walk is
halted at their first difference. -/
theorem generate_cases
    (free : ((generateFreely making root seed rowIndex stream plan).run environment both).1 =
      .ok ((), made)) :
    (made.trace making.verifyDraws = plan.trace making.verifyDraws ∧
      ((generate making root seed rowIndex stream plan).run environment both).1 =
        .ok (made.conversation, made)) ∨
    ∃ place halt,
      ((generate making root seed rowIndex stream plan).run environment both).1 = .error halt ∧
        FirstDifference (made.trace making.verifyDraws) (plan.trace making.verifyDraws) place ∧
        halt.StopsAt plan made place := by
  have samePlan : made.context.plan.entries = plan.entries := (extends_generateFreely free).plan
  have sameTrace := Plan.trace_congr samePlan making.verifyDraws
  have free' := free
  unfold generateFreely at free'
  rcases (root.script .done).follow_makeLeaf (.start seed rowIndex stream plan) free' with
    ⟨onPlan, same⟩ | ⟨halt, objects, halted⟩
  · simp only [generate, Process.run_bind, same, free']
    by_cases all : made.context.messages.length = made.context.plan.entries.length
    · have agree := onPlan.complete all
      rw [sameTrace] at agree
      exact .inl ⟨agree, by rw [if_pos all]; rfl⟩
    · have stops := onPlan.stopsAt all
      exact .inr ⟨_, _, by rw [if_neg all]; rfl, sameTrace ▸ stops.1, stops.2.congr samePlan⟩
  · have stops := objects.stopsAt
    refine .inr ⟨_, halt, ?_, sameTrace ▸ stops.1, stops.2.congr samePlan⟩
    simp only [generate, Process.run_bind, halted]
    rfl

end Verdicts

/-- What the generate phase comes to is decided by the first difference between the trace of the
free walk and that of the plan. Without one the conversation of the free walk is generated. Else the
walk is halted there: by a skew report if only the draws differ, and by a report of a mismatch if
nothing is planned there, if another entry is planned there, or if the free walk ends there. -/
theorem generate_verdict {μ : Type}
    (environment : Environment Shared μ ModelCall (Except Error Reply)) (making : Making)
    (root : Item) (seed rowIndex : Option Int) (stream : Random.Stream) (plan : Plan)
    (both : Shared × μ) (made : Walk)
    (free : ((generateFreely making root seed rowIndex stream plan).run environment both).1 =
      .ok ((), made)) :
    let verdict := ((generate making root seed rowIndex stream plan).run environment both).1
    let trace := made.trace making.verifyDraws
    let planned := plan.trace making.verifyDraws
    made.Recorded ∧
      ((∃ result, verdict = .ok result) ↔ trace = planned) ∧
      (trace = planned → verdict = .ok (made.conversation, made)) ∧
      (trace ≠ planned → ∃ place halt, verdict = .error halt ∧
        FirstDifference trace planned place ∧ halt.StopsAt plan made place) := by
  have recorded := (extends_generateFreely free).recorded ⟨rfl, rfl, rfl⟩
  rcases generate_cases free with ⟨agree, generated⟩ | ⟨place, halt, halted, differs, stops⟩
  · exact ⟨recorded, ⟨fun _ => agree, fun _ => ⟨_, generated⟩⟩, fun _ => generated,
      fun differ => absurd agree differ⟩
  · refine ⟨recorded, ⟨fun returned => ?_, fun agree => absurd agree differs.ne⟩,
      fun agree => absurd agree differs.ne, fun _ => ⟨place, halt, halted, differs, stops⟩⟩
    obtain ⟨result, returned⟩ := returned
    rw [halted] at returned
    cases returned

/-- Surroundings in which the model is never asked and nobody else changes anything. -/
def Environment.quiet : Environment Shared Unit ModelCall (Except Error Reply) :=
  ⟨fun _ both => (.ok ⟨.text "", .null⟩, both), id⟩

/-- A greeting after which the generate phase, and it alone, adds a second one. -/
def twofoldGreeting : Item :=
  .list [.node (.leaf (.fixed (.text "user") (.text "Hello"))),
    .node (.dynamic (.observe fun context => .done <|
      match context.phase with
      | .check => .datum .null
      | .generate => .node (.leaf (.fixed (.text "user") (.text "Hello again")))))]

/-- What the check phase plans for `twofoldGreeting`. -/
def greetingPlan : Plan := ⟨[⟨.message, .user, .text "Hello", none, none, .null, 0⟩], [], []⟩

theorem generate_verdict_twofoldGreeting :
    ∃ made halt,
      ((generateFreely ⟨false, none, true, false⟩ twofoldGreeting none none
          (.ofSource (.scripted [])) greetingPlan).run .quiet (⟨.fresh, #[]⟩, ())).1 =
        .ok ((), made) ∧
      ((generate ⟨false, none, true, false⟩ twofoldGreeting none none
          (.ofSource (.scripted [])) greetingPlan).run .quiet (⟨.fresh, #[]⟩, ())).1 =
        .error halt ∧
      halt.StopsAt greetingPlan made 1 := by
  let made := Walked.walk ((generateFreely ⟨false, none, true, false⟩ twofoldGreeting none none
    (.ofSource (.scripted [])) greetingPlan).run .quiet (⟨.fresh, #[]⟩, ())).1
  have free : ((generateFreely ⟨false, none, true, false⟩ twofoldGreeting none none
      (.ofSource (.scripted [])) greetingPlan).run .quiet (⟨.fresh, #[]⟩, ())).1 =
        .ok ((), made) := rfl
  have atSecond : FirstDifference (made.trace true) (greetingPlan.trace true) 1 :=
    ⟨rfl, by decide⟩
  obtain ⟨place, halt, halted, differs, stops⟩ :=
    (generate_verdict .quiet ⟨false, none, true, false⟩ twofoldGreeting none none
      (.ofSource (.scripted [])) greetingPlan (⟨.fresh, #[]⟩, ()) made free).2.2.2 atSecond.ne
  rw [differs.unique atSecond] at stops
  exact ⟨made, halt, free, halted, stops⟩

end Colloquy
