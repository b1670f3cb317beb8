import Colloquy.Proofs.Process.Answers
import Colloquy.Proofs.Resolution.Messages

/-!
# Errors that are no skew

An error counts as a skew if it is raised by the comparison with the plan, or by code of an author, a
caller or the model that raises such an error itself. If none of that code does, then nothing in a
resolution does but the comparison.
-/

set_option autoImplicit false

namespace Colloquy

open Selection (Choice Candidate)

/-- A row that fails with this error does not count as skewed. -/
def Error.Unskewed (error : Error) : Prop := FailureKind.classify error ≠ .seedSkew

/-- The computation raises no error of skew. -/
abbrev Candid {α : Type} (outcome : Except Error α) : Prop := Raises Error.Unskewed outcome

theorem Error.Plain.unskewed {error : Error} (plain : error.Plain) : error.Unskewed := by
  intro skew
  have same : FailureKind.seedSkew = .other := skew.symm.trans plain
  cases same

theorem Plainly.candid {α : Type} {outcome : Except Error α} (plain : Plainly outcome) :
    Candid outcome :=
  Raises.mono (fun _ plain => plain.unskewed) plain

namespace Selection

theorem raises_identify {α κ : Type} {known : Error → Prop} {key : α → Except Error String}
    (raises : ∀ item, Raises known (key item)) (pairs : List (α × κ)) :
    Raises known (identify key pairs) := by
  induction pairs with
  | nil => exact .ok []
  | cons pair rest ih => exact (raises pair.1).bind fun _ _ => ih.bind fun _ _ => .ok _

theorem candid_weights (fault : WeightFault) : (Error.weights fault).Unskewed := by
  cases fault <;> exact fun skew => nomatch skew

theorem candid_candidates {α κ : Type} [Arithmetic κ] {filter : Option (Filter α)}
    (keys : ∀ given, filter = some given → ∀ item, Candid (given.key item))
    (choices : List (Choice α)) :
    Candid (candidates choices filter : Except Error (List (Candidate α κ))) := by
  refine (Raises.mapError candid_weights _).bind fun normalized _ => ?_
  cases filter with
  | none => exact .ok _
  | some filter =>
      refine (raises_identify (keys filter rfl) normalized).bind fun keyed _ => ?_
      dsimp only
      split
      · exact .error fun skew => nomatch skew
      · exact .ok _

theorem plainly_candidateAt {α κ : Type} (candidates : List (Candidate α κ)) (position : Int) :
    Plainly (candidateAt candidates position) := by
  simp only [candidateAt]
  split
  · exact .ok _
  · exact .error rfl

theorem plainly_wholePart {κ : Type} [Arithmetic κ] (round : κ → Option Int) (number : κ) :
    Plainly (wholePart round number) := by
  unfold wholePart
  split
  · exact .ok _
  · split <;> exact .error rfl

theorem plainly_pick {α κ : Type} [Arithmetic κ] (candidates : List (Candidate α κ)) (draw : κ) :
    Plainly (pick candidates draw) := by
  simp only [pick]
  split
  · split
    · exact (plainly_wholePart _ _).bind fun _ _ => plainly_candidateAt _ _
    · exact .error rfl
  · split
    · exact .error rfl
    · exact .ok _

end Selection

namespace Unique

/-- The code that makes identifiers of options raises no error of skew. -/
def UniqueBy.IsCandid (rule : UniqueBy) : Prop :=
  ∀ shown compute, rule.itemId = some (.computed shown compute) → ∀ option, Candid (compute option)

theorem candid_namedValue (name option : Datum) : Candid (namedValue name option) := by
  unfold namedValue
  split
  · exact (Datum.plainly_asKey name).candid.bind fun _ _ => .ok _
  · exact .error fun skew => by cases skew
  · split
    · exact .error fun skew => by cases skew
    · unfold attributeUnder
      split
      · exact .ok _
      · exact .error fun skew => by cases skew

theorem UniqueBy.IsCandid.keyFor {rule : UniqueBy} (candid : rule.IsCandid) (option : Datum) :
    Candid (rule.keyFor option) := by
  have value : Candid (rule.valueOf option) := by
    unfold valueOf
    split
    next shown compute named => exact candid shown compute named option
    next => exact candid_namedValue _ option
    next =>
      split
      · exact .ok option
      · exact candid_namedValue _ option
  refine value.bind fun value _ => ?_
  split
  · exact .ok _
  · exact .error fun skew => nomatch skew

theorem candid_run_choose {rule : Option UniqueBy}
    (candid : ∀ given, rule = some given → given.IsCandid) (options : List (Choice Datum))
    (store : Store) (stream : Random.Stream) :
    Candid ((choose options rule (some store)).run stream).1.1 := by
  have keys : ∀ filter, (rule.map fun rule => rule.filter (some store)) = some filter →
      ∀ item, Candid (filter.key item) := by
    intro filter made item
    obtain ⟨given, same, rfl⟩ := Option.map_eq_some_iff.1 made
    exact (candid given same).keyFor item.2
  rw [run_choose]
  cases found : candidatesIn options rule store with
  | error error =>
      exact Raises.error (Selection.candid_candidates keys (numbered options) error found)
  | ok accepted =>
      dsimp only
      cases picked : Selection.pick accepted stream.next.1 with
      | error error => exact Raises.error ((Selection.plainly_pick _ _).candid error picked)
      | ok candidate => exact Raises.ok _

end Unique

theorem Walk.candid_chosen {uniqueBy : Option Unique.UniqueBy}
    (candid : ∀ given, uniqueBy = some given → given.IsCandid) {options : List (Choice Datum)}
    {walk : Walk} {shared : Shared} {halt : Halt}
    (failed : (walk.chosen options uniqueBy shared).1 = .error halt) : halt.error.Unskewed := by
  have outcome := Unique.candid_run_choose candid options (walk.store shared.pool)
    walk.context.stream
  rcases ran : (Unique.choose options uniqueBy (some (walk.store shared.pool))).run
    walk.context.stream with ⟨⟨result, after⟩, stream⟩
  rw [ran] at outcome
  cases result with
  | error error =>
      simp only [chosen, ran, Walk.halt, Except.error.injEq] at failed
      subst failed
      exact outcome error rfl
  | ok chosen => simp [Walk.chosen, ran] at failed

/-- The code that edits metadata raises no error of skew. -/
def MetadataUpdate.IsCandid (update : MetadataUpdate) : Prop :=
  ∀ change, update = .edit change → ∀ metadata, Candid (change metadata)

theorem MetadataUpdate.IsCandid.update {change : MetadataUpdate} (candid : change.IsCandid)
    (context : Context) : Candid (context.update change) := by
  unfold Context.update
  split
  · exact .ok context
  · refine Raises.bind ?_ fun _ _ => .ok _
    cases change with
    | merge update => cases update <;> first | exact .ok _ | exact .error fun skew => nomatch skew
    | edit change =>
        refine (candid change rfl context.metadata).bind fun edited _ => ?_
        rcases edited with ⟨draft, returned⟩
        cases returned <;> first | exact .ok _ | exact .error fun skew => nomatch skew

theorem Datum.plainly_asCallId (value : Datum) : Plainly value.asCallId := by
  unfold asCallId
  split
  · exact .ok _
  · exact .error rfl
  · exact .error rfl

theorem Context.candid_requirePlanned (context : Context) (callId : Datum) :
    Candid (context.requirePlanned callId) := by
  refine callId.plainly_asCallId.candid.bind fun wanted _ => ?_
  split
  · exact .ok ()
  · exact .error fun skew => nomatch skew

theorem Leaf.candid_draft (context : Context) (leaf : Leaf) : Candid (leaf.draft context) := by
  cases leaf with
  | fixed role content => exact .ok _
  | written role prompt => exact .ok _
  | call use =>
      have arguments : Candid (use.arguments.asEntries.map Datum.mapping) :=
        (Datum.plainly_asEntries use.arguments).candid.map _
      simp only [Leaf.draft]
      split
      · refine (context.candid_requirePlanned _).bind fun _ _ => ?_
        split
        · exact .ok _
        · exact arguments.bind fun _ _ => .ok _
      · split
        · exact .ok _
        · exact arguments.bind fun _ _ => .ok _
  | result answer => exact (context.candid_requirePlanned _).bind fun _ _ => .ok _

theorem Leaf.candid_plan (context : Context) (leaf : Leaf) : Candid (leaf.plan context) :=
  (leaf.candid_draft context).bind fun _ _ =>
    .mapError (fun _ => (Error.plain_ofFaults _ _).unskewed) _

theorem ToolCall.candid_source (context : Context) (use : ToolCall) :
    Candid (use.source context) := by
  refine (Datum.plainly_asCallId _).candid.bind fun lookup _ => ?_
  split
  · exact .ok _
  · split
    · exact .error fun skew => nomatch skew
    · split
      · exact (use.tool.plainly_takeArguments use.arguments).candid.bind fun _ _ => .ok _
      · split
        · split <;> exact .ok _
        · exact .ok _

theorem ToolResult.candid_source (context : Context) (answer : ToolResult) :
    Candid (answer.source context) := by
  refine (Datum.plainly_asCallId _).candid.bind fun callId _ => ?_
  split
  · exact .error fun skew => nomatch skew
  · split
    · exact .ok _
    · split
      · split <;> exact .ok _
      · exact .ok _

/-- How a part of the generate phase ends that makes no entry: with a good result where it began, or
with an error that is no skew. -/
def Walk.Stands {α : Type} (good : α → Prop) (walk : Walk) : Walked α → Prop
  | .ok (value, after) => good value ∧ after.context = walk.context
  | .error halt => halt.error.Unskewed

/-- The code that collects extra messages draws nothing and raises no error of skew. -/
def PromptExtras.Quiet (extras : Option PromptExtras) : Prop :=
  ∀ target walk, walk.context.phase = .generate →
    ((extraMessages extras target).follow walk).YieldsGiven (fun _ => Candid)
      (walk.Stands fun _ => True)

section Making

variable {making : Making} (quiet : PromptExtras.Quiet making.extras) {walk : Walk}

theorem Walk.stands_lift {α : Type} {good : α → Prop} {result : Except Error α}
    (candid : Candid result) (fits : ∀ value, result = .ok value → good value) {after : Walk}
    (same : after.context = walk.context) : walk.Stands good (after.lift result) := by
  cases result with
  | ok value => exact ⟨fits value rfl, same⟩
  | error error => exact candid error rfl

include quiet

theorem ModelRequest.stands_send (request : ModelRequest) (phase : walk.context.phase = .generate) :
    (request.send making walk).YieldsGiven (fun _ => Candid) (walk.Stands fun _ => True) := by
  refine .bind ((quiet request.target walk phase).mono fun walked stands => ?_)
  rcases walked with halt | ⟨extra, after⟩
  · exact stands
  · intro _ reply candid
    exact Walk.stands_lift candid (fun _ _ => trivial) stands.2

theorem Walk.stands_request {make : Context → Except Error ModelRequest}
    (plain : ∀ context, Plainly (make context)) (phase : walk.context.phase = .generate) :
    (walk.request making make).YieldsGiven (fun _ => Candid) (walk.Stands fun _ => True) := by
  unfold Walk.request
  split
  · cases made : make walk.context with
    | ok request => exact request.stands_send quiet phase
    | error error => exact (plain walk.context).candid error made
  · exact fun skew => nomatch skew

theorem Walk.stands_withReply {make : Context → Except Error ModelRequest}
    (read : Reply → Context → Except Error Message) {good : Message → Prop}
    (plain : ∀ context, Plainly (make context))
    (plainRead : ∀ reply context, Plainly (read reply context))
    (fits : ∀ reply context message, read reply context = .ok message → good message)
    (phase : walk.context.phase = .generate) :
    (walk.withReply making make fun reply walk => walk.lift (read reply walk.context)).YieldsGiven
      (fun _ => Candid) (walk.Stands good) := by
  refine .bind ((walk.stands_request quiet plain phase).mono fun walked stands => ?_)
  rcases walked with halt | ⟨reply, after⟩
  · exact stands
  · exact stands_lift (plainRead reply after.context).candid (fits reply after.context) stands.2

end Making

/-- No message of an author is that of a tool. -/
def Leaf.IsSpoken : Leaf → Prop
  | fixed role _ => role ≠ .text Role.tool.name
  | written role _ => role ≠ .text Role.tool.name
  | call _ => True
  | result _ => True

/-- The message is of the kind of the leaf and by its speaker. -/
structure Leaf.Outlines (leaf : Leaf) (message : Message) : Prop where
  kind : message.kind = leaf.kind
  role : leaf.speaker = .text message.role.name

section Outlines

variable {message : Message}

theorem Leaf.outlines_message (leaf : Leaf) {content messageId : Datum}
    (kind : leaf.kind = .message) (spoken : leaf.speaker ≠ .text Role.tool.name)
    (fitted : fitMessage leaf.speaker content none none none messageId = .ok message) :
    leaf.Outlines message := by
  obtain ⟨role, shape⟩ := fitMessage_eq_ok fitted
  refine ⟨?_, role⟩
  have human : message.role ≠ .tool := fun tool => spoken (by rw [role, tool])
  rw [shape, kind]
  simp [Message.kind, human]

theorem Leaf.outlines_call {use : ToolCall} {arguments messageId : Datum}
    (fitted : (do
      let part ← fitCallPart use.callId use.tool.name arguments
      fitMessage (.text Role.assistant.name) .null (some [part]) none none messageId) =
        .ok message) :
    (Leaf.call use).Outlines message := by
  obtain ⟨part, _, fitted⟩ := bind_eq_ok.1 fitted
  obtain ⟨same, shape⟩ := fitMessage_eq_ok fitted
  have speaker := Role.name_injective (Datum.text.inj same)
  rw [shape, ← speaker]
  exact ⟨rfl, rfl⟩

theorem Leaf.outlines_result {answer : ToolResult} {callId : String} {result messageId : Datum}
    (fitted : fitMessage (.text Role.tool.name) result none (some callId) (some answer.tool.name)
      messageId = .ok message) : (Leaf.result answer).Outlines message := by
  obtain ⟨same, shape⟩ := fitMessage_eq_ok fitted
  have speaker := Role.name_injective (Datum.text.inj same)
  rw [shape, ← speaker]
  exact ⟨rfl, rfl⟩

end Outlines

/-- A message is made of the kind of its leaf and by its speaker, and no skew is raised before it is
held against the plan. -/
theorem Walk.stands_makeMessage {making : Making} (quiet : PromptExtras.Quiet making.extras)
    {leaf : Leaf} (spoken : leaf.IsSpoken) {walk : Walk} (phase : walk.context.phase = .generate) :
    (walk.makeMessage making leaf).YieldsGiven (fun _ => Candid) (walk.Stands leaf.Outlines) := by
  cases leaf with
  | fixed role content =>
      exact stands_lift (plainly_fitMessage _ _ _ _ _ _).candid
        (fun _ => Leaf.outlines_message (.fixed role content) rfl spoken) rfl
  | written role prompt =>
      exact walk.stands_withReply quiet
        (fun reply context => fitMessage role reply.value none none none
          (context.messageId role.spoken reply.responseId))
        (plainly_messageRequest role prompt) (fun _ _ => plainly_fitMessage _ _ _ _ _ _)
        (fun _ _ _ => Leaf.outlines_message (.written role prompt) rfl spoken) phase
  | call use =>
      simp only [Walk.makeMessage]
      split
      next error failed => exact use.candid_source walk.context error failed
      next arguments _ =>
        exact stands_lift ((plainly_fitCallPart _ _ _).bind fun _ _ =>
          plainly_fitMessage _ _ _ _ _ _).candid (fun _ => Leaf.outlines_call) rfl
      next shape _ =>
        exact walk.stands_withReply quiet
          (fun reply context => do
            let part ← fitCallPart use.callId use.tool.name reply.value
            fitMessage (.text Role.assistant.name) .null (some [part]) none none
              (context.messageId "tool_call" reply.responseId))
          (plainly_argumentsRequest use.tool shape use.prompt)
          (fun _ _ => (plainly_fitCallPart _ _ _).bind fun _ _ => plainly_fitMessage _ _ _ _ _ _)
          (fun _ _ _ => Leaf.outlines_call) phase
  | result answer =>
      simp only [Walk.makeMessage]
      split
      next error failed => exact answer.candid_source walk.context error failed
      next callId result _ =>
        exact stands_lift (plainly_fitMessage _ _ _ _ _ _).candid
          (fun _ => Leaf.outlines_result) rfl
      next callId shape arguments _ =>
        exact walk.stands_withReply quiet
          (fun reply context => fitMessage (.text Role.tool.name)
            (unwrapResult shape reply.value) none (some callId) (some answer.tool.name)
            (context.messageId "tool_result" reply.responseId))
          (plainly_resultRequest answer.tool shape arguments answer.prompt)
          (fun _ _ => plainly_fitMessage _ _ _ _ _ _)
          (fun _ _ _ => Leaf.outlines_result) phase

end Colloquy
