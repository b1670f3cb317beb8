import Colloquy.Proofs.Process.Contract
import Colloquy.Proofs.Results
import Colloquy.Proofs.Unique.Choice
import Colloquy.Resolution.Generate

/-!
# What a walk leaves as it was

Decisions of authors, and the making of a message, draw and choose but make no entry: they leave all
of a walk as it was except its stream and its provisional marks. A script only adds entries.
-/

set_option autoImplicit false

namespace Colloquy

open Selection (Choice Drawing)

def Walked.walk {α : Type} : Walked α → Walk
  | .ok (_, walk) => walk
  | .error halt => halt.walk

@[simp]
theorem Walked.walk_ok {α : Type} (value : α) (walk : Walk) :
    Walked.walk (.ok (value, walk)) = walk := rfl

@[simp]
theorem Walked.walk_error {α : Type} (halt : Halt) :
    Walked.walk (.error halt : Walked α) = halt.walk := rfl

@[simp]
theorem Walked.walk_halt {α : Type} (walk : Walk) (error : Error) :
    Walked.walk (walk.halt error : Walked α) = walk := rfl

@[simp]
theorem Walked.walk_lift {α : Type} (walk : Walk) (result : Except Error α) :
    Walked.walk (walk.lift result) = walk := by
  cases result <;> rfl

/-- One stream comes from another by drawing. -/
inductive Random.Stream.Drawn : Random.Stream → Random.Stream → Prop where
  | refl (stream : Random.Stream) : Drawn stream stream
  | next {before after : Random.Stream} (drawn : Drawn before after) : Drawn before after.next.2

namespace Random.Stream.Drawn

variable {before between after : Random.Stream}

theorem one (stream : Random.Stream) : stream.Drawn stream.next.2 := .next (.refl stream)

theorem trans (first : before.Drawn between) (second : between.Drawn after) :
    before.Drawn after := by
  induction second with
  | refl => exact first
  | next _ ih => exact .next ih

theorem source (drawn : before.Drawn after) : after.source = before.source := by
  induction drawn with
  | refl => rfl
  | next _ ih => rw [Random.Stream.source_next, ih]

theorem draws_le (drawn : before.Drawn after) : before.draws ≤ after.draws := by
  induction drawn with
  | refl => exact Nat.le_refl _
  | next _ ih =>
      rw [Random.Stream.draws_next]
      omega

theorem eq_of_draws (drawn : before.Drawn after) (same : after.draws = before.draws) :
    after = before := by
  cases drawn with
  | refl => rfl
  | next drawn =>
      have more := drawn.draws_le
      rw [Random.Stream.draws_next] at same
      omega

end Random.Stream.Drawn

theorem Selection.Drawing.drawn_run {α : Type} (drawing : Drawing Float α)
    (stream : Random.Stream) : stream.Drawn (drawing.run stream).2 := by
  induction drawing generalizing stream with
  | done result => exact .refl stream
  | draw rest ih => exact (Random.Stream.Drawn.one stream).trans (ih _ _)

namespace Walk

/-- One walk comes from another by draws and choices alone. -/
structure Aside (before after : Walk) : Prop where
  context : after.context = { before.context with stream := after.context.stream }
  reports : after.reports = before.reports
  stream : before.context.stream.Drawn after.context.stream

namespace Aside

theorem refl (walk : Walk) : walk.Aside walk := ⟨rfl, rfl, .refl _⟩

theorem trans {before between after : Walk} (first : before.Aside between)
    (second : between.Aside after) : before.Aside after where
  context := by rw [second.context, first.context]
  reports := second.reports.trans first.reports
  stream := first.stream.trans second.stream

variable {before after : Walk}

theorem messages (aside : before.Aside after) :
    after.context.messages = before.context.messages := by
  rw [aside.context]

theorem plan (aside : before.Aside after) : after.context.plan = before.context.plan := by
  rw [aside.context]

end Aside

theorem aside_drawn (walk : Walk) {stream : Random.Stream}
    (drawn : walk.context.stream.Drawn stream) : walk.Aside (walk.drawn stream) :=
  ⟨rfl, rfl, drawn⟩

theorem aside_keep (walk : Walk) (store : Unique.Store) : walk.Aside (walk.keep store) := by
  unfold keep
  split
  · exact ⟨rfl, rfl, .refl _⟩
  · exact .refl walk

theorem aside_chosen (options : List (Choice Datum)) (uniqueBy : Option Unique.UniqueBy)
    (walk : Walk) (shared : Shared) :
    walk.Aside (Walked.walk (walk.chosen options uniqueBy shared).1) := by
  have drawn := (Unique.choose options uniqueBy (some (walk.store shared.pool))).drawn_run
    walk.context.stream
  rcases ran : (Unique.choose options uniqueBy (some (walk.store shared.pool))).run
    walk.context.stream with ⟨⟨result, after⟩, stream⟩
  rw [ran] at drawn
  cases result with
  | error error => simpa [chosen, ran] using walk.aside_drawn drawn
  | ok place =>
      simpa [chosen, ran] using (walk.aside_drawn drawn).trans (aside_keep _ _)

theorem stream_chosen {options : List (Choice Datum)} {uniqueBy : Option Unique.UniqueBy}
    {walk after : Walk} {shared : Shared} {place : Nat}
    (result : (walk.chosen options uniqueBy shared).1 = .ok (place, after)) :
    after.context.stream = walk.context.stream.next.2 := by
  rcases ran : (Unique.choose options uniqueBy (some (walk.store shared.pool))).run
    walk.context.stream with ⟨⟨outcome, store⟩, stream⟩
  cases outcome with
  | error error => simp [chosen, ran, halt] at result
  | ok chosen =>
      simp only [Walk.chosen, ran, Except.ok.injEq, Prod.mk.injEq] at result
      obtain ⟨_, rfl⟩ := result
      rw [(aside_keep _ _).stream.eq_of_draws (by unfold keep; split <;> rfl)]
      exact (Unique.marks_of_run_choose ran).1

end Walk

/-- The rule for a choice on the way of a walk. -/
theorem Walk.yields_choose {α : Type} {ends : Walked α → Prop} {options : List (Choice Datum)}
    {uniqueBy : Option Unique.UniqueBy} {walk : Walk} {next : Walked Nat → RowProcess (Walked α)}
    (chosen : ∀ place after, walk.Aside after → (next (.ok (place, after))).Yields ends)
    (failed : ∀ halt, walk.Aside halt.walk → (next (.error halt)).Yields ends) :
    ((walk.choose options uniqueBy).bind next).Yields ends := by
  refine Process.Yields.bind (Process.Yields.step fun shared => Process.Yields.done ?_)
  have aside := walk.aside_chosen options uniqueBy shared
  rcases result : (walk.chosen options uniqueBy shared).1 with halt | ⟨place, after⟩
  · exact failed halt (by simpa [result] using aside)
  · exact chosen place after (by simpa [result] using aside)

theorem Decision.aside_follow {α : Type} (decision : Decision α) (walk : Walk) :
    (decision.follow walk).Yields fun walked => walk.Aside (Walked.walk walked) := by
  induction decision generalizing walk with
  | done result => exact .done (.refl walk)
  | fail error => exact .done (.refl walk)
  | draw next ih =>
      have drawn := walk.aside_drawn (.one walk.context.stream)
      exact (ih _ _).mono fun _ aside => drawn.trans aside
  | choose options uniqueBy next ih =>
      rw [Decision.follow]
      apply Walk.yields_choose
      · intro place after aside
        exact (ih place after).mono fun _ further => aside.trans further
      · intro halt aside
        exact .done aside
  | observe next ih => exact ih _ walk
  | ask call next ih => exact .ask fun reply => ih reply walk
  | pause next ih => exact .pause (ih walk)

theorem ModelRequest.aside_send (making : Making) (request : ModelRequest) (walk : Walk) :
    (request.send making walk).Yields fun walked => walk.Aside (Walked.walk walked) := by
  refine Process.Yields.bind ((Decision.aside_follow _ walk).mono fun walked aside => ?_)
  rcases walked with halt | ⟨extra, after⟩
  · exact .done aside
  · refine .step fun _ => .ask fun reply => .done ?_
    simpa using aside

theorem Walk.aside_request (making : Making) (make : Context → Except Error ModelRequest)
    (walk : Walk) :
    (walk.request making make).Yields fun walked => walk.Aside (Walked.walk walked) := by
  unfold Walk.request
  split
  · split
    · exact ModelRequest.aside_send making _ walk
    · exact .done (.refl walk)
  · exact .done (.refl walk)

theorem Walk.aside_withReply (making : Making) (make : Context → Except Error ModelRequest)
    {next : Reply → Walk → Walked Message}
    (stays : ∀ reply walk, Walked.walk (next reply walk) = walk) (walk : Walk) :
    (walk.withReply making make next).Yields fun walked => walk.Aside (Walked.walk walked) := by
  refine Process.Yields.bind ((walk.aside_request making make).mono fun walked aside => ?_)
  rcases walked with halt | ⟨reply, after⟩
  · exact .done aside
  · exact .done (by simpa [stays] using aside)

/-- Making a message makes no entry: the message has yet to join the conversation. -/
theorem Walk.aside_makeMessage (making : Making) (leaf : Leaf) (walk : Walk) :
    (walk.makeMessage making leaf).Yields fun walked => walk.Aside (Walked.walk walked) := by
  have still (result : Except Error Message) : walk.Aside (Walked.walk (walk.lift result)) := by
    simpa using Walk.Aside.refl walk
  cases leaf with
  | fixed role content => exact .done (still _)
  | written role prompt =>
      exact walk.aside_withReply making _ fun reply walk => Walked.walk_lift walk _
  | call use =>
      simp only [Walk.makeMessage]
      split
      · exact .done (by simpa using Walk.Aside.refl walk)
      · exact .done (still _)
      · exact walk.aside_withReply making _ fun reply walk => Walked.walk_lift walk _
  | result answer =>
      simp only [Walk.makeMessage]
      split
      · exact .done (by simpa using Walk.Aside.refl walk)
      · exact .done (still _)
      · exact walk.aside_withReply making _ fun reply walk => Walked.walk_lift walk _

theorem Context.addTool_eq (context : Context) (tool : ToolSpec) :
    context.addTool tool = { context with
      tools := if context.tools.any fun known => known.name = tool.name then context.tools
        else context.tools ++ [tool] } := by
  unfold Context.addTool
  split <;> rfl

/-- A context after an event that makes no entry and draws nothing. The check phase writes the
metadata of its plan; the generate phase leaves the plan as it is. -/
structure Context.Keeps (before after : Context) : Prop where
  messages : after.messages = before.messages
  entries : after.plan.entries = before.plan.entries
  stream : after.stream = before.stream
  phase : after.phase = before.phase
  plan : before.phase = .generate → after.plan = before.plan

theorem Context.keeps_addTool (context : Context) (tool : ToolSpec) :
    context.Keeps (context.addTool tool) := by
  rw [addTool_eq]
  exact ⟨rfl, rfl, rfl, rfl, fun _ => rfl⟩

theorem Context.keeps_update {context after : Context} {change : MetadataUpdate}
    (updated : context.update change = .ok after) : context.Keeps after := by
  unfold Context.update at updated
  split at updated
  · cases updated
    exact ⟨rfl, rfl, rfl, rfl, fun _ => rfl⟩
  next checks =>
    obtain ⟨metadata, _, updated⟩ := bind_eq_ok.1 updated
    cases updated
    exact ⟨rfl, rfl, rfl, rfl, fun generates => absurd (checks.symm.trans generates) (by decide)⟩

/-- A relation between earlier and later walks that only the making of entries could break. -/
structure Walk.Lasting (related : Walk → Walk → Prop) : Prop where
  refl : ∀ walk, related walk walk
  trans : ∀ {before between after}, related before between → related between after →
    related before after
  aside : ∀ {before after : Walk}, before.Aside after → related before after
  within : ∀ {walk : Walk} {context : Context},
    walk.context.Keeps context → related walk (walk.within context)

theorem Script.lasting_follow {related : Walk → Walk → Prop} (lasting : Walk.Lasting related)
    {emit : Leaf → Walk → RowProcess (Walked Unit)}
    (adds : ∀ leaf walk, (emit leaf walk).Yields fun walked => related walk (Walked.walk walked))
    (script : Script) (walk : Walk) :
    (script.follow emit walk).Yields fun walked => related walk (Walked.walk walked) := by
  induction script generalizing walk with
  | done => exact .done (lasting.refl walk)
  | fail error => exact .done (lasting.refl walk)
  | draw next ih =>
      have drawn := lasting.aside (walk.aside_drawn (.one walk.context.stream))
      exact (ih _ _).mono fun _ further => lasting.trans drawn further
  | choose options uniqueBy next ih =>
      rw [Script.follow]
      apply Walk.yields_choose
      · intro place after aside
        exact (ih place after).mono fun _ further => lasting.trans (lasting.aside aside) further
      · intro halt aside
        exact .done (lasting.aside aside)
  | entry leaf next ih =>
      refine Process.Yields.bind ((adds leaf walk).mono fun walked first => ?_)
      rcases walked with halt | ⟨⟨⟩, after⟩
      · exact .done first
      · exact (ih after).mono fun _ further => lasting.trans first further
  | list tool next ih =>
      have listed := lasting.within (walk.context.keeps_addTool tool)
      exact (ih _).mono fun _ further => lasting.trans listed further
  | update change next ih =>
      unfold Script.follow
      split
      next context updated =>
        have changed := lasting.within (Context.keeps_update updated)
        exact (ih _).mono fun _ further => lasting.trans changed further
      next error failed => exact .done (lasting.refl walk)
  | observe next ih => exact ih _ walk
  | ask call next ih => exact .ask fun reply => ih reply walk
  | pause next ih => exact .pause (ih walk)

end Colloquy
