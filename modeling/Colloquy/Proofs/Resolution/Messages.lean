import Colloquy.Proofs.Resolution.Visits

/-!
# Planned entries and made messages

What the check phase plans for a regular leaf, and what the generate phase makes of it. Making a
message fails for no reason of its own but a plain one: a call that the check phase has found
planned is found again among the messages.
-/

set_option autoImplicit false

namespace Colloquy

namespace Fitted

variable {α β : Type}

theorem under_eq_ok {step : PathStep} {fitted : Fitted α} {value : α} :
    fitted.under step = .ok value ↔ fitted = .ok value := mapError_eq_ok

theorem both_eq_ok {first : Fitted α} {second : Fitted β} {pair : α × β} :
    first.both second = .ok pair ↔ first = .ok pair.1 ∧ second = .ok pair.2 := by
  cases first <;> cases second <;> simp [both, Prod.ext_iff]

theorem map_eq_ok {fitted : Fitted α} {change : α → β} {value : β} :
    fitted.map change = .ok value ↔ ∃ source, fitted = .ok source ∧ change source = value :=
  Colloquy.map_eq_ok

end Fitted

theorem Role.read_eq_ok {value : Datum} {role : Role} (read : Role.read value = .ok role) :
    value = .text role.name := by
  cases value with
  | text name =>
      unfold Role.read Fit.named at read
      split at read
      next found known =>
        cases read
        have named := List.find?_some known
        simp only [decide_eq_true_eq] at named
        rw [named]
      · cases read
  | _ => cases read

theorem Fit.nullable_text_eq_ok {value : Datum} {text : Option String}
    (regular : value = .null ∨ ∃ id, value = .text id)
    (read : Fit.nullable Fit.text value = .ok text) : value = Datum.ofText? text := by
  rcases regular with rfl | ⟨id, rfl⟩
  · cases read
    rfl
  · cases read
    rfl

theorem EntryDraft.fit_eq_ok {draft : EntryDraft} {drawCount : Nat} {entry : PlanEntry}
    (fitted : draft.fit drawCount = .ok entry) :
    draft.role = .text entry.role.name ∧
      Fit.nullable Fit.text draft.callId = .ok entry.toolCallId ∧
      entry = ⟨draft.kind, entry.role, draft.content, draft.toolName, entry.toolCallId,
        draft.arguments, drawCount⟩ := by
  obtain ⟨pair, both, rfl⟩ := Fitted.map_eq_ok.1 (mapError_eq_ok.1 fitted)
  obtain ⟨role, callId⟩ := Fitted.both_eq_ok.1 both
  exact ⟨Role.read_eq_ok (Fitted.under_eq_ok.1 role), Fitted.under_eq_ok.1 callId, rfl⟩

theorem Leaf.IsRegular.callId {leaf : Leaf} (regular : leaf.IsRegular) :
    leaf.callId = .null ∨ ∃ id, leaf.callId = .text id := by
  cases leaf with
  | fixed role content => exact .inl rfl
  | written role prompt => exact .inl rfl
  | call use => exact .inr regular.1
  | result answer => exact .inr regular

/-- The calls that a leaf refers to are known in the sense given. -/
def Leaf.Refers (known : String → Prop) : Leaf → Prop
  | .call use => use.reuseFrom.isTruthy → ∃ id, use.reuseFrom = .text id ∧ known id
  | .result answer => ∃ id, answer.callId = .text id ∧ known id
  | _ => True

theorem Context.planned_of_required {context : Context} {callId : Datum}
    (required : context.requirePlanned callId = .ok ()) :
    ∃ id, callId = .text id ∧ context.hasPlannedToolCall id = true := by
  obtain ⟨wanted, named, required⟩ := bind_eq_ok.1 required
  split at required
  next planned =>
    cases callId with
    | text id =>
        cases named
        exact ⟨wanted, rfl, planned⟩
    | _ => cases named
  · cases required

/-- The draft of a leaf says what the leaf says, and calls that the leaf refers to are planned. -/
theorem Leaf.draft_eq_ok {context : Context} {leaf : Leaf} {draft : EntryDraft}
    (drafted : leaf.draft context = .ok draft) :
    (draft.kind = leaf.kind ∧ draft.role = leaf.speaker ∧ draft.content = leaf.content ∧
      draft.toolName = leaf.tool ∧ draft.callId = leaf.callId) ∧
    leaf.Refers fun id => context.hasPlannedToolCall id = true := by
  cases leaf with
  | fixed role content =>
      cases drafted
      exact ⟨⟨rfl, rfl, rfl, rfl, rfl⟩, trivial⟩
  | written role prompt =>
      cases drafted
      exact ⟨⟨rfl, rfl, rfl, rfl, rfl⟩, trivial⟩
  | call use =>
      simp only [Leaf.draft] at drafted
      split at drafted
      next reuses =>
        obtain ⟨_, required, drafted⟩ := bind_eq_ok.1 drafted
        split at drafted <;>
          (obtain ⟨arguments, _, drafted⟩ := bind_eq_ok.1 drafted
           cases drafted
           exact ⟨⟨rfl, rfl, rfl, rfl, rfl⟩, fun _ => Context.planned_of_required required⟩)
      next fresh =>
        split at drafted <;>
          (obtain ⟨arguments, _, drafted⟩ := bind_eq_ok.1 drafted
           cases drafted
           exact ⟨⟨rfl, rfl, rfl, rfl, rfl⟩, fun reuses => absurd reuses fresh⟩)
  | result answer =>
      obtain ⟨_, required, drafted⟩ := bind_eq_ok.1 drafted
      cases drafted
      exact ⟨⟨rfl, rfl, rfl, rfl, rfl⟩, Context.planned_of_required required⟩

theorem Leaf.plans_of_plan {context : Context} {leaf : Leaf} {entry : PlanEntry}
    (regular : leaf.IsRegular) (planned : leaf.plan context = .ok entry) :
    Visit.Plans ⟨leaf, context.draws⟩ entry ∧
      leaf.Refers fun id => context.hasPlannedToolCall id = true := by
  obtain ⟨draft, drafted, fitted⟩ := bind_eq_ok.1 planned
  obtain ⟨⟨kind, speaker, content, tool, callId⟩, refers⟩ := Leaf.draft_eq_ok drafted
  obtain ⟨role, named, same⟩ := EntryDraft.fit_eq_ok fitted
  refine ⟨⟨?_, ?_, ?_, ?_, ?_, ?_⟩, refers⟩
  · rw [same, kind]
  · rw [← speaker, role]
  · rw [same, tool]
  · rw [← callId]
    exact Fit.nullable_text_eq_ok (callId ▸ regular.callId) named
  · rw [same, content]
  · rw [same]

theorem fitMessage_eq_ok {role content : Datum} {calls : Option (List CallPart)}
    {callId name : Option String} {messageId : Datum} {message : Message}
    (fitted : fitMessage role content calls callId name messageId = .ok message) :
    role = .text message.role.name ∧
      message = ⟨message.role, content, calls, callId, name, message.generationId⟩ := by
  obtain ⟨pair, both, rfl⟩ := Fitted.map_eq_ok.1 (mapError_eq_ok.1 fitted)
  exact ⟨Role.read_eq_ok (Fitted.under_eq_ok.1 (Fitted.both_eq_ok.1 both).1), rfl⟩

theorem fitCallPart_eq_ok {callId : Datum} {name : String} {arguments : Datum} {part : CallPart}
    (fitted : fitCallPart callId name arguments = .ok part) :
    Fit.text callId = .ok part.id ∧ part.name = name ∧
      Fit.dictionary arguments = .ok part.arguments := by
  obtain ⟨pair, both, rfl⟩ := Fitted.map_eq_ok.1 (mapError_eq_ok.1 fitted)
  obtain ⟨named, taken⟩ := Fitted.both_eq_ok.1 both
  exact ⟨Fitted.under_eq_ok.1 named, rfl, Fitted.under_eq_ok.1 taken⟩

theorem plainly_fitMessage (role content : Datum) (calls : Option (List CallPart))
    (callId name : Option String) (messageId : Datum) :
    Plainly (fitMessage role content calls callId name messageId) :=
  .mapError (Error.plain_ofFaults _) _

theorem plainly_fitCallPart (callId : Datum) (name : String) (arguments : Datum) :
    Plainly (fitCallPart callId name arguments) :=
  .mapError (Error.plain_ofFaults _) _

theorem Error.plain_ofNoDocument (fault : Datum.NoDocument) : (Error.ofNoDocument fault).Plain :=
  rfl

theorem Context.plainly_flowText (context : Context) : Plainly context.flowText :=
  (Plainly.mapError Error.plain_ofNoDocument _).bind fun _ _ => plainly_jsonText _ _

theorem Context.plainly_toolsText (context : Context) : Plainly context.toolsText := by
  unfold toolsText
  split
  · exact .ok _
  · exact (Plainly.mapError Error.plain_ofNoDocument _).bind fun _ _ => plainly_jsonText _ _

theorem plainly_messageRequest (role prompt : Datum) (context : Context) :
    Plainly (messageRequest context role prompt) :=
  (Datum.plainly_asKey role).bind fun _ _ => context.plainly_flowText.bind fun _ _ =>
    context.plainly_toolsText.bind fun _ _ => .ok _

theorem plainly_argumentsRequest (tool : ToolDefinition) (shape : Shape) (prompt : Datum)
    (context : Context) : Plainly (argumentsRequest context tool shape prompt) :=
  context.plainly_flowText.bind fun _ _ => (plainly_jsonText _ _).bind fun _ _ => .ok _

theorem plainly_resultRequest (tool : ToolDefinition) (shape : Shape) (arguments : Fields)
    (prompt : Datum) (context : Context) :
    Plainly (resultRequest context tool shape arguments prompt) :=
  context.plainly_flowText.bind fun _ _ => (plainly_jsonText _ _).bind fun _ _ =>
    (plainly_jsonText _ _).bind fun _ _ => .ok _

theorem ToolDefinition.plainly_takeArguments (tool : ToolDefinition) (arguments : Datum) :
    Plainly (tool.takeArguments arguments) := by
  refine (Datum.plainly_asEntries arguments).bind fun entries _ => ?_
  split
  · exact .ok _
  · exact (Plainly.mapError (Error.plain_ofFaults _) _).bind fun _ _ =>
      .mapError Error.plain_ofNoDocument _

/-- The source of the arguments of a call is found if the call that it reuses is. -/
theorem ToolCall.plainly_source {context : Context} {use : ToolCall}
    (regular : (Leaf.call use).IsRegular)
    (refers : (Leaf.call use).Refers fun id => ∃ part, context.findToolCall id = some part) :
    Plainly (use.source context) := by
  obtain ⟨⟨id, named⟩, reuse⟩ := regular
  by_cases reuses : use.reuseFrom.isTruthy = true
  · obtain ⟨earlier, given, part, found⟩ := refers reuses
    unfold ToolCall.source
    simp only [given] at reuses ⊢
    simp only [reuses, if_true, Datum.asCallId]
    refine (Plainly.ok earlier).bind fun lookup same => ?_
    cases same
    rw [found]
    exact .ok _
  · unfold ToolCall.source
    rw [if_neg reuses, named]
    refine (Plainly.ok id).bind fun lookup same => ?_
    cases same
    split
    · exact .ok _
    · rw [if_neg reuses]
      split
      · exact (use.tool.plainly_takeArguments use.arguments).bind fun _ _ => .ok _
      · split
        · split <;> exact .ok _
        · exact .ok _

theorem ToolResult.plainly_source {context : Context} {answer : ToolResult}
    (refers : (Leaf.result answer).Refers fun id => ∃ part, context.findToolCall id = some part) :
    Plainly (answer.source context) := by
  obtain ⟨id, named, part, found⟩ := refers
  unfold ToolResult.source
  rw [named]
  refine (Plainly.ok id).bind fun lookup same => ?_
  cases same
  rw [found]
  dsimp only
  split
  · exact .ok _
  · split
    · split <;> exact .ok _
    · exact .ok _

theorem ToolResult.callId_of_source {context : Context} {answer : ToolResult} {callId : String}
    {source : ResultSource} (found : answer.source context = .ok (callId, source)) :
    answer.callId.asCallId = .ok callId := by
  obtain ⟨id, named, found⟩ := bind_eq_ok.1 found
  rw [named]
  split at found
  · cases found
  · split at found
    · cases found
      rfl
    · split at found
      · split at found <;> cases found <;> rfl
      · cases found
        rfl

section Makes

variable {draws : Nat} {message : Message}

theorem Visit.makes_fixed {role content messageId : Datum}
    (regular : (Leaf.fixed role content).IsRegular)
    (fitted : fitMessage role content none none none messageId = .ok message) :
    Visit.Makes ⟨.fixed role content, draws⟩ message := by
  obtain ⟨known, notTool, rfl⟩ := regular
  obtain ⟨same, shape⟩ := fitMessage_eq_ok fitted
  have speaker := Role.name_injective (Datum.text.inj same)
  rw [shape, ← speaker]
  exact ⟨by simp [Message.kind, Leaf.kind, notTool], rfl, rfl, rfl, fun _ _ same => by cases same; rfl⟩

theorem Visit.makes_written {role prompt content messageId : Datum}
    (regular : (Leaf.written role prompt).IsRegular)
    (fitted : fitMessage role content none none none messageId = .ok message) :
    Visit.Makes ⟨.written role prompt, draws⟩ message := by
  obtain ⟨known, notTool, rfl⟩ := regular
  obtain ⟨same, shape⟩ := fitMessage_eq_ok fitted
  have speaker := Role.name_injective (Datum.text.inj same)
  rw [shape, ← speaker]
  exact ⟨by simp [Message.kind, Leaf.kind, notTool], rfl, rfl, rfl, fun _ _ same => by cases same⟩

theorem Visit.makes_call {use : ToolCall} {arguments messageId : Datum}
    (regular : (Leaf.call use).IsRegular)
    (fitted : (do
      let part ← fitCallPart use.callId use.tool.name arguments
      fitMessage (.text Role.assistant.name) .null (some [part]) none none messageId) =
        .ok message) :
    Visit.Makes ⟨.call use, draws⟩ message := by
  obtain ⟨⟨id, named⟩, _⟩ := regular
  obtain ⟨part, fittedPart, fitted⟩ := bind_eq_ok.1 fitted
  obtain ⟨callId, sameName, _⟩ := fitCallPart_eq_ok fittedPart
  rw [named] at callId
  have sameId : id = part.id := Except.ok.inj callId
  obtain ⟨same, shape⟩ := fitMessage_eq_ok fitted
  have speaker := Role.name_injective (Datum.text.inj same)
  rw [shape, ← speaker]
  refine ⟨rfl, rfl, ?_, ?_, fun _ _ same => by cases same⟩
  · simp [Message.usedTool, Leaf.tool, sameName]
  · simp [Message.usedCall, Leaf.callId, named, sameId, Datum.ofText?]

theorem Visit.makes_result {answer : ToolResult} {callId : String} {result messageId : Datum}
    (regular : (Leaf.result answer).IsRegular) (known : answer.callId.asCallId = .ok callId)
    (fitted : fitMessage (.text Role.tool.name) result none (some callId) (some answer.tool.name)
      messageId = .ok message) : Visit.Makes ⟨.result answer, draws⟩ message := by
  obtain ⟨id, named⟩ := regular
  rw [named] at known
  cases known
  obtain ⟨same, shape⟩ := fitMessage_eq_ok fitted
  have speaker := Role.name_injective (Datum.text.inj same)
  rw [shape, ← speaker]
  exact ⟨rfl, rfl, rfl, named, fun _ _ same => by cases same⟩

end Makes

theorem Walk.stays_lift {raised : Error → Prop} {good : Message → Prop}
    {result : Except Error Message} (plain : Plainly result)
    (fits : ∀ message, result = .ok message → good message) (walk : Walk) (shared : Shared) :
    (Process.done (walk.lift result) : RowProcess (Walked Message)).Abides (.undisturbed raised)
      (walk.Stays raised good shared.pool) shared := by
  intro after same
  cases result with
  | ok message => exact ⟨fits message rfl, .refl walk, same⟩
  | error error => exact .inr (plain error rfl)

theorem Walk.stays_makeMessage {raised : Error → Prop} {making : Making}
    (steady : ∀ given, making.extras = some given → given.Steady raised) {leaf : Leaf}
    (regular : leaf.IsRegular) {walk : Walk} (phase : walk.context.phase = .generate)
    (refers : leaf.Refers fun id => ∃ part, walk.context.findToolCall id = some part)
    (draws : Nat) (shared : Shared) :
    (walk.makeMessage making leaf).Abides (.undisturbed raised)
      (walk.Stays raised (Visit.Makes ⟨leaf, draws⟩) shared.pool) shared := by
  cases leaf with
  | fixed role content =>
      exact walk.stays_lift (plainly_fitMessage _ _ _ _ _ _)
        (fun _ fitted => Visit.makes_fixed regular fitted) shared
  | written role prompt =>
      exact walk.stays_withReply steady (fun context => messageRequest context role prompt)
        (fun reply context => fitMessage role reply.value none none none
          (context.messageId role.spoken reply.responseId))
        (plainly_messageRequest role prompt) (fun _ _ => plainly_fitMessage _ _ _ _ _ _)
        (fun _ _ _ fitted => Visit.makes_written regular fitted) phase shared
  | call use =>
      simp only [Walk.makeMessage]
      split
      next error failed =>
        exact fun _ _ => .inr (ToolCall.plainly_source regular refers error failed)
      next arguments found =>
        exact walk.stays_lift
          ((plainly_fitCallPart _ _ _).bind fun _ _ => plainly_fitMessage _ _ _ _ _ _)
          (fun _ fitted => Visit.makes_call regular fitted) shared
      next shape found =>
        exact walk.stays_withReply steady
          (fun context => argumentsRequest context use.tool shape use.prompt)
          (fun reply context => do
            let part ← fitCallPart use.callId use.tool.name reply.value
            fitMessage (.text Role.assistant.name) .null (some [part]) none none
              (context.messageId "tool_call" reply.responseId))
          (plainly_argumentsRequest use.tool shape use.prompt)
          (fun _ _ => (plainly_fitCallPart _ _ _).bind fun _ _ => plainly_fitMessage _ _ _ _ _ _)
          (fun _ _ _ fitted => Visit.makes_call regular fitted) phase shared
  | result answer =>
      simp only [Walk.makeMessage]
      split
      next error failed =>
        exact fun _ _ => .inr (ToolResult.plainly_source refers error failed)
      next callId result found =>
        exact walk.stays_lift (plainly_fitMessage _ _ _ _ _ _)
          (fun _ fitted =>
            Visit.makes_result regular (ToolResult.callId_of_source found) fitted) shared
      next callId shape arguments found =>
        exact walk.stays_withReply steady
          (fun context => resultRequest context answer.tool shape arguments answer.prompt)
          (fun reply context => fitMessage (.text Role.tool.name) (unwrapResult shape reply.value)
            none (some callId) (some answer.tool.name)
            (context.messageId "tool_result" reply.responseId))
          (plainly_resultRequest answer.tool shape arguments answer.prompt)
          (fun _ _ => plainly_fitMessage _ _ _ _ _ _)
          (fun _ _ _ fitted =>
            Visit.makes_result regular (ToolResult.callId_of_source found) fitted) phase shared

end Colloquy
