import Colloquy.Proofs.Resolution.Accounting
import Colloquy.Proofs.Resolution.Course

/-!
# The check phase computes the reference plan

The check phase of a tree that no code takes part in does what the course of the tree says: each
event of the course does its part of the plan, and an id that is referred to has to be that of a
call that is planned before.
-/

set_option autoImplicit false

namespace Colloquy

open Selection (Choice)

namespace Random.Stream

/-- The stream after a number of draws. -/
def after (stream : Random.Stream) : Nat → Random.Stream
  | 0 => stream
  | taken + 1 => (stream.after taken).next.2

theorem draws_after (stream : Random.Stream) (taken : Nat) :
    (stream.after taken).draws = stream.draws + taken := by
  induction taken with
  | zero => rfl
  | succ taken ih => rw [after, draws_next, ih, Nat.add_assoc]

/-- The values that a stream gives from its start on. -/
def values (stream : Random.Stream) (place : Nat) : Float := (stream.reset.after place).next.1

end Random.Stream

namespace Leaf

/-- The arguments that are planned for a leaf: those that an author gives for a call. -/
def arguments : Leaf → Except Error Datum
  | call use => if use.arguments.isNull then .ok .null else use.arguments.asEntries.map .mapping
  | _ => .ok .null

/-- What a leaf refers to an earlier call by: a call by the id that it reuses arguments from, if
there is one, and a result by its own. -/
def reference? : Leaf → Option Datum
  | call use => if use.reuseFrom.isTruthy then some use.reuseFrom else none
  | result answer => some answer.callId
  | _ => none

end Leaf

/-- The fields of the entry of a leaf, whatever the leaf refers to. -/
def Leaf.fields (leaf : Leaf) : Except Error EntryDraft :=
  leaf.arguments.map fun arguments =>
    ⟨leaf.kind, leaf.speaker, leaf.content, leaf.tool, leaf.callId, arguments⟩

/-- The entry of a visited leaf, whatever the leaf refers to. -/
def Visit.entry (visit : Visit) : Except Error PlanEntry :=
  visit.leaf.fields >>= fun draft => draft.fit visit.draws

/-- A reference has to be an id, and a call has to be planned under it or under the id that it is
deferred from. -/
def Plan.require (plan : Plan) : Option Datum → Except Error Unit
  | none => .ok ()
  | some reference => do
      let wanted ← reference.asCallId
      if (Context.lookupIds wanted).any plan.hasToolCall then .ok ()
      else .error (.toolCallNotFound wanted (normalizeCallId wanted))

theorem Leaf.draft_eq (context : Context) (leaf : Leaf) :
    leaf.draft context = context.plan.require leaf.reference? >>= fun _ => leaf.fields := by
  cases leaf with
  | fixed role content => rfl
  | written role prompt => rfl
  | call use =>
      have fields : (if use.arguments.isNull = true then do
            let arguments ← Except.ok Datum.null
            return EntryDraft.mk .toolCall (.text Role.assistant.name) use.prompt
              (some use.tool.name) use.callId arguments
          else do
            let arguments ← use.arguments.asEntries.map Datum.mapping
            return EntryDraft.mk .toolCall (.text Role.assistant.name) use.prompt
              (some use.tool.name) use.callId arguments) = Leaf.fields (.call use) := by
        unfold Leaf.fields Leaf.arguments
        dsimp only
        split
        · rfl
        · cases use.arguments.asEntries <;> rfl
      unfold Leaf.draft Leaf.reference?
      dsimp only
      split
      · exact congrArg (context.requirePlanned use.reuseFrom >>= ·) (funext fun _ => fields)
      · exact fields
  | result answer => rfl

theorem Leaf.plan_eq (context : Context) (leaf : Leaf) :
    leaf.plan context =
      context.plan.require leaf.reference? >>= fun _ => Visit.entry ⟨leaf, context.draws⟩ := by
  unfold Leaf.plan Visit.entry
  rw [Leaf.draft_eq, bind_assoc]

/-- What an event does to a plan. -/
def Event.play (plan : Plan) : Event → Except Error Plan
  | .entry visit => do
      plan.require visit.leaf.reference?
      return { plan with entries := plan.entries ++ [← visit.entry] }
  | .list tool => .ok { plan with tools := ToolSpec.joined plan.tools [tool] }
  | .update change => do return { plan with metadata := ← change.apply plan.metadata }

/-- The plan that comes of a course, and how far the course comes. -/
def Course.play (course : Course) (plan : Plan) : Except Error (Plan × Reached) := do
  let plan ← course.events.foldlM Event.play plan
  return (plan, ← course.outcome)

namespace Course

variable {plan : Plan} {reached : Reached}

@[simp]
theorem play_stay : (stay reached).play plan = .ok (plan, reached) := rfl

@[simp]
theorem play_stop (error : Error) : (stop error).play plan = .error error := rfl

theorem play_mark (event : Event) :
    (mark event reached).play plan = (event.play plan).map (·, reached) := by
  unfold play mark
  cases played : event.play plan <;> simp [played, bind, Except.bind, Except.map, pure, Except.pure]

theorem play_andThen (course : Course) (next : Reached → Course) :
    (course.andThen next).play plan =
      course.play plan >>= fun both => (next both.2).play both.1 := by
  obtain ⟨events, outcome⟩ := course
  cases outcome with
  | error error =>
      unfold play andThen
      cases (List.foldlM Event.play plan events) <;> rfl
  | ok reached =>
      unfold play andThen
      simp only [List.foldlM_append]
      cases (List.foldlM Event.play plan events) <;> rfl

end Course

/-- The walk of a check phase that has come so far, with this plan. -/
def Walk.stood (stream : Random.Stream) (walk : Walk) (plan : Plan) (reached : Reached) : Walk :=
  { walk with
    context := { walk.context with
      stream := stream.after reached.taken
      plan := { walk.context.plan with entries := plan.entries, metadata := plan.metadata }
      tools := plan.tools
      metadata := plan.metadata }
    provisional := reached.used.own }

/-- What is used is told by an overlay over a pool. -/
def Reached.Over (pool : Unique.Store) (reached : Reached) : Prop :=
  reached.used = .overlay reached.used.own pool

/-- A choice of the check phase is the one that the course makes. -/
theorem Walk.chosen_stood (stream : Random.Stream) {walk : Walk} (plan : Plan) {reached : Reached}
    {shared : Shared} (phase : walk.context.phase = .check) (overlays : reached.Over shared.pool)
    (options : List (Choice Datum)) (rule : Option Unique.UniqueBy) :
    match reached.choose options rule (stream.after reached.taken).next.1 with
    | .ok (place, later) => later.Over shared.pool ∧
        ((walk.stood stream plan reached).chosen options rule shared).1 =
          .ok (place, walk.stood stream plan later)
    | .error error => ∃ last,
        ((walk.stood stream plan reached).chosen options rule shared).1 = .error ⟨error, last⟩ := by
  have store : (walk.stood stream plan reached).store shared.pool = reached.used := by
    unfold store stood
    dsimp only
    rw [phase]
    exact overlays.symm
  have kept (used : Unique.Store) :
      (((walk.stood stream plan reached).drawn (stream.after reached.taken).next.2).keep used) =
        walk.stood stream plan ⟨reached.taken + 1, used⟩ := by
    unfold keep
    rw [show ((walk.stood stream plan reached).drawn _).context.phase = .check from phase]
    rfl
  have marked (collection key : String) :
      (Reached.mk (reached.taken + 1) (reached.used.mark collection key)).Over shared.pool := by
    unfold Reached.Over
    rw [overlays]
    rfl
  have next : (walk.stood stream plan reached).context.stream = stream.after reached.taken := rfl
  unfold Reached.choose chosen
  dsimp only
  rw [store, Unique.run_choose, next]
  cases found : Unique.candidatesIn options rule reached.used with
  | error error => exact ⟨_, rfl⟩
  | ok candidates =>
      simp only [bind, Except.bind]
      cases picked : Selection.pick candidates (stream.after reached.taken).next.1 with
      | error error => exact ⟨_, rfl⟩
      | ok candidate =>
          simp only [kept, pure, Except.pure]
          cases rule with
          | none => exact ⟨overlays, rfl⟩
          | some rule =>
              cases keyed : candidate.key with
              | none => exact ⟨overlays, rfl⟩
              | some key => exact ⟨marked rule.collection key, rfl⟩

section

variable {μ : Type} (environment : Environment Shared μ ModelCall (Except Error Reply))
variable (stream : Random.Stream) (walk : Walk) (both : Shared × μ)

/-- The check phase comes through a script, to what is next, as a course says: with the plan of the
course to where the course comes, or to the error that the course stops at. -/
structure Script.Follows (script next : Script) (course : Reached → Course) : Prop where
  plays : ∀ plan reached, reached.Over both.1.pool →
    match (course reached).play plan with
    | .ok (later, reached') => reached'.Over both.1.pool ∧
        (script.follow Walk.planLeaf (walk.stood stream plan reached)).run environment both =
          (next.follow Walk.planLeaf (walk.stood stream later reached')).run environment both
    | .error error => ∃ last,
        (script.follow Walk.planLeaf (walk.stood stream plan reached)).run environment both =
          (.error ⟨error, last⟩, both)
  advances : ∀ reached, (course reached).Advances reached.taken

variable {environment stream walk both} {script middle next : Script}

namespace Script.Follows

theorem stay : Follows environment stream walk both next next .stay where
  plays _ _ overlays := ⟨overlays, rfl⟩
  advances := Course.advances_stay

theorem stop (error : Error) :
    Follows environment stream walk both (.fail error) next fun _ => .stop error where
  plays _ _ _ := ⟨_, rfl⟩
  advances reached := Course.advances_stop reached.taken error

theorem andThen {course further : Reached → Course}
    (first : Follows environment stream walk both script middle course)
    (later : Follows environment stream walk both middle next further) :
    Follows environment stream walk both script next fun reached =>
      (course reached).andThen further where
  plays plan reached overlays := by
    have here := first.plays plan reached overlays
    rw [Course.play_andThen]
    cases played : (course reached).play plan with
    | error error =>
        rw [played] at here
        exact here
    | ok come =>
        rw [played] at here
        obtain ⟨overlays, same⟩ := here
        rw [same]
        exact later.plays come.1 come.2 overlays
  advances reached := (first.advances reached).andThen later.advances

theorem ofExcept {α : Type} {rest : α → Script} {course : α → Reached → Course}
    (follows : ∀ value, Follows environment stream walk both (rest value) next (course value))
    (result : Except Error α) :
    Follows environment stream walk both (.ofExcept rest result) next fun reached =>
      .onward course (result.map (·, reached)) := by
  cases result with
  | error error => exact .stop error
  | ok value => exact follows value

theorem draw {rest : Float → Script} {course : Float → Reached → Course}
    (follows : ∀ value, Follows environment stream walk both (rest value) next (course value)) :
    Follows environment stream walk both (.draw rest) next fun reached =>
      course (stream.after reached.taken).next.1 reached.afterDraw where
  plays plan reached overlays := (follows _).plays plan reached.afterDraw overlays
  advances reached := ((follows _).advances reached.afterDraw).mono (Nat.le_succ _)

theorem choose (phase : walk.context.phase = .check) {options : List (Choice Datum)}
    {rule : Option Unique.UniqueBy} {rest : Nat → Script} {course : Nat → Reached → Course}
    (follows : ∀ place, Follows environment stream walk both (rest place) next (course place)) :
    Follows environment stream walk both (.choose options rule rest) next fun reached =>
      .onward course
        (reached.choose options rule (stream.after reached.taken).next.1) where
  plays plan reached overlays := by
    have chosen := Walk.chosen_stood stream plan phase overlays options rule
    have alone : ((walk.stood stream plan reached).chosen options rule both.1).2 = both.1 :=
      have checking : (walk.stood stream plan reached).context.phase = .check := phase
      Walk.chosen_check_shared checking options rule both.1
    have ran : (((walk.stood stream plan reached).choose options rule).run environment both) =
        (((walk.stood stream plan reached).chosen options rule both.1).1, both) :=
      congrArg (fun shared => (_, shared, both.2)) alone
    rw [Script.follow, Process.run_bind, ran]
    dsimp only
    cases outcome : reached.choose options rule (stream.after reached.taken).next.1 with
    | error error =>
        rw [outcome] at chosen
        obtain ⟨last, chosen⟩ := chosen
        rw [chosen]
        exact ⟨last, rfl⟩
    | ok found =>
        rw [outcome] at chosen
        obtain ⟨overlays, chosen⟩ := chosen
        rw [chosen]
        exact (follows found.1).plays plan found.2 overlays
  advances reached :=
    Course.advances_onward (fun place => (follows place).advances) fun place later chosen =>
      Nat.le_of_lt (Nat.lt_of_lt_of_eq (Nat.lt_succ_self _) (Reached.taken_of_choose chosen).symm)

theorem entry (start : stream.draws = 0) (leaf : Leaf) :
    Follows environment stream walk both (.entry leaf next) next fun reached =>
      .mark (.entry ⟨leaf, reached.taken⟩) reached where
  plays plan reached overlays := by
    have draws : (walk.stood stream plan reached).context.draws = reached.taken := by
      change (stream.after reached.taken).draws = _
      rw [Random.Stream.draws_after, start, Nat.zero_add]
    have planned : leaf.plan (walk.stood stream plan reached).context =
        plan.require leaf.reference? >>= fun _ => Visit.entry ⟨leaf, reached.taken⟩ := by
      rw [Leaf.plan_eq, draws]
      rfl
    rw [Course.play_mark, Script.follow, Process.run_bind]
    unfold Walk.planLeaf Event.play
    rw [planned]
    dsimp only
    cases plan.require leaf.reference? with
    | error error => exact ⟨_, rfl⟩
    | ok _ =>
        simp only [bind, Except.bind]
        cases Visit.entry ⟨leaf, reached.taken⟩ with
        | error error => exact ⟨_, rfl⟩
        | ok entry => exact ⟨overlays, rfl⟩
  advances := Course.advances_entry leaf

theorem list (tool : ToolSpec) :
    Follows environment stream walk both (.list tool next) next (.mark (.list tool)) where
  plays plan reached overlays := by
    have listed : (walk.stood stream plan reached).within
        ((walk.stood stream plan reached).context.addTool tool) =
          walk.stood stream { plan with tools := ToolSpec.joined plan.tools [tool] } reached := by
      rw [Context.addTool_eq, ToolSpec.joined_cons, ToolSpec.joined_nil]
      rfl
    rw [Script.follow, listed]
    exact ⟨overlays, rfl⟩
  advances := Course.advances_list tool

theorem update (phase : walk.context.phase = .check) (change : MetadataUpdate) :
    Follows environment stream walk both (.update change next) next (.mark (.update change)) where
  plays plan reached overlays := by
    have updated : (walk.stood stream plan reached).context.update change =
        (change.apply plan.metadata).map fun metadata =>
          (walk.stood stream { plan with metadata := metadata } reached).context := by
      unfold Context.update
      split
      next generating => exact absurd (phase.symm.trans generating) (by decide)
      next =>
        change (change.apply plan.metadata >>= _) = _
        cases change.apply plan.metadata <;> rfl
    rw [Course.play_mark, Script.follow, updated]
    unfold Event.play
    dsimp only
    cases change.apply plan.metadata with
    | error error => exact ⟨_, rfl⟩
    | ok metadata => exact ⟨overlays, rfl⟩
  advances := Course.advances_update change

theorem times {step : Script → Script} {course : Reached → Course}
    (follows : ∀ next, Follows environment stream walk both (step next) next course)
    (number : Nat) :
    Follows environment stream walk both (Nat.repeat step number next) next
      (.times course number) := by
  induction number with
  | zero => exact .stay
  | succ number ih => exact (follows _).andThen ih

theorem count {rest : Nat → Script} {course : Nat → Reached → Course}
    (follows : ∀ number, Follows environment stream walk both (rest number) next (course number))
    (count : Count) :
    Follows environment stream walk both (count.script rest) next fun reached =>
      .onward course (count.resolve (fun place => (stream.after place).next.1) reached) := by
  cases count with
  | fixed count =>
      unfold Count.script Count.resolve
      exact ofExcept follows (Count.repetitions count)
  | between minimum maximum =>
      unfold Count.script Count.resolve Selection.betweenBounds
      dsimp only
      cases Datum.ordered .above minimum maximum with
      | error error => exact .stop error
      | ok empty =>
          cases empty with
          | true => exact .stop _
          | false =>
              have drawn := draw fun value =>
                ofExcept (fun number => ofExcept follows (Count.drawnRepetitions number))
                  (Selection.valueBetween minimum maximum value)
              simp only [Course.onward_map] at drawn
              exact drawn

theorem fault {item : Item} {rest : Script} {course : Reached → Course}
    (follows : Follows environment stream walk both rest next course) :
    Follows environment stream walk both
      (match item.fault? with
      | some error => .fail error
      | none => rest) next fun reached =>
      match item.fault? with
      | some error => .stop error
      | none => course reached := by
  cases item.fault? with
  | some error => exact .stop error
  | none => exact follows

end Script.Follows

mutual

/-- The check phase of a tree comes to its end as the course of the tree says. -/
theorem Node.follows_script (phase : walk.context.phase = .check)
    (start : stream.draws = 0) (next : Script) :
    ∀ node : Node, node.IsStatic → Script.Follows environment stream walk both (node.script next)
      next (node.course fun place => (stream.after place).next.1)
  | .null, _ => by
      rw [Node.script]
      simp only [Node.course]
      exact .stay
  | .group nodes, static => by
      rw [Node.script]
      simp only [Node.course]
      exact Node.follows_scriptAll phase start next nodes static
  | .leaf leaf, _ => by
      rw [Node.script]
      simp only [Node.course]
      exact .entry start leaf
  | .tool definition, _ => by
      rw [Node.script]
      simp only [Node.course]
      exact .list definition.spec
  | .oneOf options rule, static => by
      rw [Node.script]
      simp only [Node.course]
      exact .choose phase fun place =>
        Node.follows_scriptOption phase start next options static place
  | .times count node, static => by
      rw [Node.script]
      simp only [Node.course]
      exact .count (fun number =>
        .times (fun next => Node.follows_script phase start next node static) number) count
  | .optional node probability, static => by
      rw [Node.script]
      simp only [Node.course]
      refine .draw fun value => .ofExcept (fun included => ?_) _
      cases included with
      | false => exact .stay
      | true => exact Node.follows_script phase start next node static
  | .metadata change, _ => by
      rw [Node.script]
      simp only [Node.course]
      exact .update phase change
  | .dynamic _, static => static.elim
  | .unknown, _ => by
      rw [Node.script]
      simp only [Node.course]
      exact .stop _

theorem Node.follows_scriptAll (phase : walk.context.phase = .check)
    (start : stream.draws = 0) (next : Script) :
    ∀ nodes : List Node, Node.AllStatic nodes →
      Script.Follows environment stream walk both (Node.scriptAll nodes next) next
        (Node.courseAll (fun place => (stream.after place).next.1) nodes)
  | [], _ => by
      rw [Node.scriptAll]
      exact .stay
  | node :: nodes, static => by
      rw [Node.scriptAll]
      exact (Node.follows_script phase start _ node static.1).andThen
        (Node.follows_scriptAll phase start next nodes static.2)

theorem Item.follows_scriptNodes (phase : walk.context.phase = .check)
    (start : stream.draws = 0) (next : Script) :
    ∀ item : Item, item.IsStatic →
      Script.Follows environment stream walk both (item.scriptNodes next) next
        (item.courseNodes fun place => (stream.after place).next.1)
  | .node one, static => by
      rw [Item.scriptNodes]
      exact Node.follows_script phase start next one static
  | .list items, static => by
      rw [Item.scriptNodes]
      exact Item.follows_scriptAll phase start next items static
  | .tuple items, static => by
      rw [Item.scriptNodes]
      exact Item.follows_scriptAll phase start next items static
  | .weighted _ _, _ => by
      rw [Item.scriptNodes]
      exact .stay
  | .mapping _, _ => by
      rw [Item.scriptNodes]
      exact .stay
  | .datum _, _ => by
      rw [Item.scriptNodes]
      exact .stay

theorem Item.follows_scriptAll (phase : walk.context.phase = .check)
    (start : stream.draws = 0) (next : Script) :
    ∀ items : List Item, Item.AllStatic items →
      Script.Follows environment stream walk both (Item.scriptAll items next) next
        (Item.courseAll (fun place => (stream.after place).next.1) items)
  | [], _ => by
      rw [Item.scriptAll]
      exact .stay
  | item :: items, static => by
      rw [Item.scriptAll]
      exact (Item.follows_scriptNodes phase start _ item static.1).andThen
        (Item.follows_scriptAll phase start next items static.2)

theorem Node.follows_scriptOption (phase : walk.context.phase = .check)
    (start : stream.draws = 0) (next : Script) :
    ∀ options : List (Choice Item), Node.OptionsStatic options → ∀ place : Nat,
      Script.Follows environment stream walk both (Node.scriptOption options place next) next
        (Node.courseOption (fun place => (stream.after place).next.1) options place)
  | [], _, _ => by
      rw [Node.scriptOption]
      exact .stay
  | option :: _, static, 0 => by
      rw [Node.scriptOption]
      exact Node.follows_scriptChosen phase start next option static.1
  | _ :: options, static, place + 1 => by
      rw [Node.scriptOption]
      exact Node.follows_scriptOption phase start next options static.2 place

theorem Node.follows_scriptChosen (phase : walk.context.phase = .check)
    (start : stream.draws = 0) (next : Script) :
    ∀ option : Choice Item, Node.OptionStatic option →
      Script.Follows environment stream walk both (Node.scriptChosen option next) next
        (Node.courseChosen (fun place => (stream.after place).next.1) option)
  | .plain item, static => by
      rw [Node.scriptChosen]
      exact .fault (Item.follows_scriptNodes phase start next item static)
  | .weighted item _, static => by
      rw [Node.scriptChosen]
      exact .fault (Item.follows_scriptNodes phase start next item static)
  | .entry item _ _, static => by
      rw [Node.scriptChosen]
      exact .fault (Item.follows_scriptNodes phase start next item static)

end

theorem Item.follows_script (phase : walk.context.phase = .check)
    (start : stream.draws = 0) (next : Script) {item : Item} (static : item.IsStatic) :
    Script.Follows environment stream walk both (item.script next) next
      (item.course fun place => (stream.after place).next.1) :=
  .fault (Item.follows_scriptNodes phase start next item static)

end

end Colloquy
