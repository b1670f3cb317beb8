import Colloquy.Proofs.Resolution.References
import Colloquy.Proofs.Resolution.Totals

/-!
# Emissions

Every message of a generated conversation is made for a leaf of the script. An emission keeps what
the leaf found when its turn came, and what the model was asked on its account.
-/

set_option autoImplicit false

namespace Colloquy

variable {μ : Type}

namespace Process

variable {σ Q R α β : Type}

/-- What a process asks in an environment, with the answers that it gets. -/
def exchanges (environment : Environment σ μ Q R) : Process σ Q R α → σ × μ → List (Q × R)
  | done _, _ => []
  | step update next, both => (next both.1).exchanges environment (update both.1, both.2)
  | ask query next, both =>
      (query, (environment.answer query both).1) ::
        (next (environment.answer query both).1).exchanges environment
          (environment.answer query both).2
  | pause next, both => next.exchanges environment (environment.meanwhile both)

theorem exchanges_bind (environment : Environment σ μ Q R) (process : Process σ Q R α)
    (next : α → Process σ Q R β) (both : σ × μ) :
    (process.bind next).exchanges environment both =
      process.exchanges environment both ++
        (next (process.run environment both).1).exchanges environment
          (process.run environment both).2 := by
  induction process generalizing both with
  | done result => rfl
  | step update rest ih => exact ih _ _
  | ask query rest ih =>
      simp only [bind, exchanges, ih, List.cons_append]
      rfl
  | pause rest ih => exact ih _

end Process

structure Emission where
  leaf : Leaf
  /-- The context in which the leaf is reached. -/
  context : Context
  message : Message
  exchanges : List (ModelCall × Except Error Reply)

variable (making : Making) (environment : Environment Shared μ ModelCall (Except Error Reply))

/-- What a script emits in an environment, whatever is planned. -/
def Script.emissions : Script → Walk → Shared × μ → List Emission
  | done, _, _ => []
  | fail _, _, _ => []
  | draw next, walk, both =>
      (next walk.context.draw.1).emissions (walk.within walk.context.draw.2) both
  | choose options uniqueBy next, walk, both =>
      match (walk.choose options uniqueBy).run environment both with
      | (.ok (place, walk), both) => (next place).emissions walk both
      | (.error _, _) => []
  | entry leaf next, walk, both =>
      match (walk.makeMessage making leaf).run environment both with
      | (.ok (message, after), later) =>
          ⟨leaf, walk.context, message,
            (walk.makeMessage making leaf).exchanges environment both⟩ ::
              next.emissions (after.addMessage message)
                ((after.join making message).run environment later).2
      | (.error _, _) => []
  | list tool next, walk, both => next.emissions (walk.within (walk.context.addTool tool)) both
  | update change next, walk, both =>
      match walk.context.update change with
      | .ok context => next.emissions (walk.within context) both
      | .error _ => []
  | observe next, walk, both => (next walk.context).emissions walk both
  | ask call next, walk, both =>
      (next (environment.answer call both).1).emissions walk (environment.answer call both).2
  | pause next, walk, both => next.emissions walk (environment.meanwhile both)

namespace Emission

/-- The message of the emission has been made for its leaf, in its context. -/
def Made (emission : Emission) : Prop :=
  ∃ (walk : Walk) (both : Shared × μ) (after : Walk), walk.context = emission.context ∧
    ((walk.makeMessage making emission.leaf).run environment both).1 =
      .ok (emission.message, after) ∧
    emission.exchanges = (walk.makeMessage making emission.leaf).exchanges environment both

/-- Emissions, each of which finds the messages of those before it behind some others. -/
inductive Chain : List Message → List Emission → Prop where
  | nil (messages : List Message) : Chain messages []
  | cons {messages : List Message} {emission : Emission} {rest : List Emission}
      (found : emission.context.messages = messages) (made : emission.Made making environment)
      (later : Chain (messages ++ [emission.message]) rest) : Chain messages (emission :: rest)

variable {making environment}

theorem Chain.at {messages : List Message} {emissions : List Emission}
    (chain : Chain making environment messages emissions) {place : Nat} {emission : Emission}
    (here : emissions[place]? = some emission) :
    emission.Made making environment ∧
      emission.context.messages = messages ++ (emissions.map Emission.message).take place := by
  induction chain generalizing place with
  | nil => cases here
  | cons found made _ ih =>
      cases place with
      | zero =>
          cases here
          exact ⟨made, by simpa using found⟩
      | succ place =>
          obtain ⟨made', found'⟩ := ih (by simpa using here)
          exact ⟨made', by simpa using found'⟩

end Emission

variable {making environment}

theorem Walk.run_makeLeaf_eq_ok {leaf : Leaf} {walk last : Walk} {both : Shared × μ}
    (ran : ((walk.makeLeaf making leaf).run environment both).1 = .ok ((), last)) :
    ∃ message after later,
      (walk.makeMessage making leaf).run environment both = (.ok (message, after), later) ∧
      (walk.makeLeaf making leaf).run environment both =
        (.ok ((), after.addMessage message), ((after.join making message).run environment later).2) ∧
      last = after.addMessage message := by
  unfold Walk.makeLeaf at ran ⊢
  rw [Process.run_bind] at ran ⊢
  rcases made : (walk.makeMessage making leaf).run environment both with
    ⟨halt | ⟨message, after⟩, later⟩
  · rw [made] at ran
    cases ran
  · rw [made] at ran
    unfold Walk.append at ran ⊢
    cases objection : after.objection? making.verifyDraws message with
    | some error =>
        simp only [objection] at ran
        cases ran
    | none =>
        have joined : ((after.join making message).run environment later).1 =
            .ok ((), after.addMessage message) := after.run_join message later
        simp only [objection] at ran ⊢
        rw [joined] at ran
        cases ran
        exact ⟨message, after, later, rfl, Prod.ext joined rfl, rfl⟩

/-- What is made on a walk to the end of a script are the messages of its emissions. -/
theorem Script.chain_emissions {script : Script} {walk last : Walk} {both : Shared × μ}
    (followed : ((script.follow (Walk.makeLeaf making) walk).run environment both).1 =
      .ok ((), last)) :
    last.context.messages = walk.context.messages ++
        (script.emissions making environment walk both).map Emission.message ∧
      Emission.Chain making environment walk.context.messages
        (script.emissions making environment walk both) := by
  induction script generalizing walk both with
  | done =>
      cases followed
      exact ⟨by simp [emissions], .nil _⟩
  | fail error => cases followed
  | draw next ih => exact ih _ followed
  | choose options uniqueBy next ih =>
      rw [follow, Process.run_bind] at followed
      have aside := walk.aside_chosen options uniqueBy both.1
      rcases chosen : (walk.choose options uniqueBy).run environment both with
        ⟨halt | ⟨place, after⟩, later⟩
      · rw [chosen] at followed
        cases followed
      · rw [chosen] at followed
        have same : (walk.chosen options uniqueBy both.1).1 = .ok (place, after) :=
          congrArg Prod.fst chosen
        rw [same] at aside
        have rest := ih place followed
        rw [show after.context.messages = _ from aside.messages] at rest
        simpa only [emissions, chosen] using rest
  | entry leaf next ih =>
      rw [follow, Process.run_bind] at followed
      rcases ran : ((walk.makeLeaf making leaf).run environment both).1 with halt | ⟨⟨⟩, middle⟩
      · rw [ran] at followed
        cases followed
      · obtain ⟨message, after, later, made, left, rfl⟩ := Walk.run_makeLeaf_eq_ok ran
        rw [left] at followed
        have aside := (walk.aside_makeMessage making leaf).run environment both
        rw [made] at aside
        have found : after.context.messages = walk.context.messages := aside.messages
        obtain ⟨all, chain⟩ := ih followed
        have start : (after.addMessage message).context.messages =
            walk.context.messages ++ [message] := congrArg (· ++ [message]) found
        rw [start] at all chain
        simp only [emissions, made]
        exact ⟨by simpa using all, .cons rfl ⟨walk, both, after, rfl, by rw [made], rfl⟩ chain⟩
  | list tool next ih =>
      have rest := ih followed
      rw [show (walk.within (walk.context.addTool tool)).context.messages = _ from
        (walk.context.keeps_addTool tool).messages] at rest
      exact rest
  | update change next ih =>
      unfold follow at followed
      cases updated : walk.context.update change with
      | error error =>
          rw [updated] at followed
          cases followed
      | ok context =>
          rw [updated] at followed
          have rest := ih followed
          rw [show (walk.within context).context.messages = _ from
            (Context.keeps_update updated).messages] at rest
          simpa only [emissions, updated] using rest
  | observe next ih => exact ih _ followed
  | ask call next ih => exact ih _ followed
  | pause next ih => exact ih followed

/-- A request that is answered has been sent last, the extra messages having been collected before. -/
theorem ModelRequest.send_eq_ok {request : ModelRequest} {walk after : Walk} {both : Shared × μ}
    {reply : Reply}
    (sent : ((request.send making walk).run environment both).1 = .ok (reply, after)) :
    ∃ others extra, (request.send making walk).exchanges environment both =
      others ++ [(⟨request.form, request.messages extra⟩, .ok reply)] := by
  unfold send at sent ⊢
  rw [Process.run_bind] at sent
  rw [Process.exchanges_bind]
  rcases collected : (((extraMessages making.extras request.target).follow walk).run environment
    both) with ⟨halt | ⟨extra, middle⟩, later⟩
  · rw [collected] at sent
    cases sent
  · rw [collected] at sent
    refine ⟨_, extra, congrArg _ ?_⟩
    simp only [Process.run, Process.exchanges] at sent ⊢
    generalize (environment.answer ⟨request.form, request.messages extra⟩
      (Shared.report .debug (request.line middle.context) later.1, later.2)).1 = answer at sent ⊢
    cases answer with
    | error error => cases sent
    | ok answer =>
        cases sent
        rfl

/-- A message that a reply is needed for is made of the reply to the last call. -/
theorem Walk.withReply_eq_ok {make : Context → Except Error ModelRequest}
    {next : Reply → Walk → Walked Message} {walk after : Walk} {both : Shared × μ}
    {message : Message}
    (made : ((walk.withReply making make next).run environment both).1 = .ok (message, after)) :
    ∃ request extra reply others middle, make walk.context = .ok request ∧
      (walk.withReply making make next).exchanges environment both =
        others ++ [(⟨request.form, request.messages extra⟩, .ok reply)] ∧
      next reply middle = .ok (message, after) := by
  unfold withReply at made ⊢
  rw [Process.run_bind] at made
  rw [Process.exchanges_bind]
  rcases asked : ((walk.request making make).run environment both).1 with halt | ⟨reply, middle⟩
  · rw [asked] at made
    cases made
  · rw [asked] at made
    unfold request at asked ⊢
    split at asked
    next hasModel =>
      rw [if_pos hasModel]
      cases wanted : make walk.context with
      | error error =>
          rw [wanted] at asked
          cases asked
      | ok request =>
          rw [wanted] at asked
          obtain ⟨others, extra, exchanged⟩ := request.send_eq_ok asked
          refine ⟨request, extra, reply, others, middle, rfl, ?_, made⟩
          simp only [exchanged]
          exact List.append_nil _
    next => cases asked

theorem Walk.lift_eq_ok {α : Type} {walk after : Walk} {result : Except Error α} {value : α}
    (lifted : walk.lift result = .ok (value, after)) : result = .ok value := by
  cases result with
  | error error => cases lifted
  | ok result =>
      cases lifted
      rfl

/-- The message makes one call, with the arguments that are given. -/
structure Message.CallsWith (message : Message) (use : ToolCall) (arguments : Datum)
    (call : CallPart) : Prop where
  calls : message.Calls call
  answers : message.toolCallId = none
  id : Fit.text use.callId = .ok call.id
  tool : call.name = use.tool.name
  taken : Fit.dictionary arguments = .ok call.arguments

theorem Walk.callMessage_eq_ok {use : ToolCall} {arguments responseId : Datum} {walk after : Walk}
    {message : Message}
    (made : walk.callMessage use arguments responseId = .ok (message, after)) :
    ∃ call, message.CallsWith use arguments call := by
  obtain ⟨call, fitted, made⟩ := bind_eq_ok.1 (Walk.lift_eq_ok made)
  obtain ⟨id, tool, taken⟩ := fitCallPart_eq_ok fitted
  obtain ⟨role, shape⟩ := fitMessage_eq_ok made
  have assistant : message.role = .assistant :=
    Role.name_injective (Datum.text.inj role).symm
  refine ⟨call, ⟨?_, ?_⟩, ?_, id, tool, taken⟩
  · rw [shape]
    simp [Message.kind, assistant]
  · rw [shape]
  · rw [shape]

namespace Emission

variable {emission : Emission}

/-- What is made for a leaf that is neither a call nor a result. -/
theorem Made.message (made : emission.Made making environment)
    (plain : emission.leaf.kind = .message) :
    emission.message.toolCalls = none ∧ emission.message.toolCallId = none := by
  obtain ⟨walk, both, after, same, ran, _⟩ := made
  have fits {role content messageId : Datum}
      (fitted : fitMessage role content none none none messageId = .ok emission.message) :
      emission.message.toolCalls = none ∧ emission.message.toolCallId = none := by
    rw [(fitMessage_eq_ok fitted).2]
    exact ⟨rfl, rfl⟩
  cases leaf : emission.leaf with
  | fixed role content =>
      rw [leaf] at ran
      exact fits (Walk.lift_eq_ok ran)
  | written role prompt =>
      rw [leaf] at ran
      obtain ⟨_, _, _, _, _, _, _, ran⟩ := Walk.withReply_eq_ok ran
      exact fits (Walk.lift_eq_ok ran)
  | call use => simp [leaf, Leaf.kind] at plain
  | result answer => simp [leaf, Leaf.kind] at plain

/-- What is made for a call: if its arguments are known, the model is not asked. -/
theorem Made.call (made : emission.Made making environment) {use : ToolCall}
    (leaf : emission.leaf = .call use) :
    ∃ call arguments, emission.message.CallsWith use arguments call ∧
      ((use.source emission.context = .ok (.known arguments) ∧ emission.exchanges = []) ∨
        ∃ shape, use.source emission.context = .ok (.model shape)) := by
  obtain ⟨walk, both, after, same, ran, exchanged⟩ := made
  rw [leaf, Walk.makeMessage, same] at ran exchanged
  cases source : use.source emission.context with
  | error error =>
      rw [source] at ran
      cases ran
  | ok source' =>
      rw [source] at ran exchanged
      cases source' with
      | known arguments =>
          obtain ⟨call, calls⟩ := Walk.callMessage_eq_ok ran
          exact ⟨call, arguments, calls, .inl ⟨rfl, exchanged⟩⟩
      | model shape =>
          obtain ⟨_, _, _, _, _, _, _, ran⟩ := Walk.withReply_eq_ok ran
          obtain ⟨call, calls⟩ := Walk.callMessage_eq_ok ran
          exact ⟨call, _, calls, .inr ⟨shape, rfl⟩⟩

end Emission

/-- The call to the model shows it the arguments of a call of the tool. -/
def ModelCall.Shows (asked : ModelCall) (tool : ToolDefinition) (arguments : Fields) : Prop :=
  ∃ flow written extra rest, jsonText .pretty arguments.toDatum = .ok written ∧
    asked.messages =
      promptMessage "system" (Prompt.resultSystem tool.name tool.description flow written extra) ::
        rest

/-- What a result is made of: what is known, or the reply of the model to the last call, which has
shown it the arguments. -/
def Emission.ResultFrom (emission : Emission) (tool : ToolDefinition) : ResultSource → Prop
  | .known result => emission.message.content = result ∧ emission.exchanges = []
  | .model shape arguments => ∃ others asked reply,
      emission.exchanges = others ++ [(asked, .ok reply)] ∧
        emission.message.content = unwrapResult shape reply.value ∧ asked.Shows tool arguments

theorem ModelCall.shows_of_resultRequest {context : Context} {tool : ToolDefinition} {shape : Shape}
    {arguments : Fields} {prompt : Datum} {request : ModelRequest}
    (made : resultRequest context tool shape arguments prompt = .ok request) (extra : List Datum) :
    ModelCall.Shows ⟨request.form, request.messages extra⟩ tool arguments := by
  obtain ⟨flow, _, made⟩ := bind_eq_ok.1 made
  obtain ⟨written, shown, made⟩ := bind_eq_ok.1 made
  obtain ⟨schema, _, made⟩ := bind_eq_ok.1 made
  cases made
  exact ⟨flow, written, _, _, shown, rfl⟩

theorem Walk.resultMessage_eq_ok {answer : ToolResult} {callId : String} {result responseId : Datum}
    {walk after : Walk} {message : Message}
    (made : walk.resultMessage answer callId result responseId = .ok (message, after)) :
    message.toolCalls = none ∧ message.toolCallId = some callId ∧ message.content = result := by
  rw [(fitMessage_eq_ok (Walk.lift_eq_ok made)).2]
  exact ⟨rfl, rfl, rfl⟩

theorem Emission.Made.result {emission : Emission} (made : emission.Made making environment)
    {answer : ToolResult} (leaf : emission.leaf = .result answer) :
    ∃ callId source, answer.source emission.context = .ok (callId, source) ∧
      emission.message.toolCalls = none ∧ emission.message.toolCallId = some callId ∧
      emission.ResultFrom answer.tool source := by
  obtain ⟨walk, both, after, same, ran, exchanged⟩ := made
  rw [leaf, Walk.makeMessage, same] at ran exchanged
  cases source : answer.source emission.context with
  | error error =>
      rw [source] at ran
      cases ran
  | ok found =>
      obtain ⟨callId, source'⟩ := found
      rw [source] at ran exchanged
      cases source' with
      | known result =>
          have ran : walk.resultMessage answer callId result .null = .ok (emission.message, after) :=
            ran
          obtain ⟨calls, callId', content⟩ := Walk.resultMessage_eq_ok ran
          exact ⟨callId, _, rfl, calls, callId', content, exchanged⟩
      | model shape arguments =>
          obtain ⟨request, extra, reply, others, _, made, exchanged', ran⟩ :=
            Walk.withReply_eq_ok ran
          obtain ⟨calls, callId', content⟩ := Walk.resultMessage_eq_ok ran
          exact ⟨callId, _, rfl, calls, callId', others, _, reply, exchanged.trans exchanged', content,
            ModelCall.shows_of_resultRequest made extra⟩

end Colloquy
