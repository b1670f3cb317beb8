import Colloquy.Proofs.Resolution.Emissions

/-!
# The arguments of calls and results

In a generated conversation a result answers a call that has been made before, a call that reuses
arguments has those of an earlier call, and the model writes a result to the arguments of the call
that it answers. Arguments that an author gives are those of the call unless a call of that id has been
made before, whose arguments are then used in their place.
-/

set_option autoImplicit false

namespace Colloquy

theorem Datum.asCallId_eq_ok {value : Datum} {callId : String} :
    value.asCallId = .ok callId ↔ value = .text callId := by
  cases value <;> simp [Datum.asCallId]

namespace ToolCall

variable {use : ToolCall} {context : Context} {source : ArgumentSource}

theorem source_of_reuse (reuses : use.reuseFrom.isTruthy = true)
    (found : use.source context = .ok source) :
    ∃ callId call, use.reuseFrom = .text callId ∧ context.findToolCall callId = some call ∧
      source = .known call.arguments.toDatum := by
  obtain ⟨callId, named, found⟩ := bind_eq_ok.1 found
  rw [if_pos reuses] at named
  split at found
  next call earlier =>
    cases found
    exact ⟨callId, call, Datum.asCallId_eq_ok.1 named, earlier, rfl⟩
  next =>
    rw [if_pos reuses] at found
    cases found

/-- Arguments that an author gives are taken if no call of the id is found. -/
theorem source_of_given (fresh : use.reuseFrom.isTruthy = false)
    (given : use.arguments.isNull = false) (found : use.source context = .ok source) :
    ∃ callId, use.callId = .text callId ∧
      ((∃ call, context.findToolCall callId = some call ∧ source = .known call.arguments.toDatum) ∨
        context.findToolCall callId = none ∧
          ∃ arguments, use.tool.takeArguments use.arguments = .ok arguments ∧
            source = .known arguments) := by
  obtain ⟨callId, named, found⟩ := bind_eq_ok.1 found
  rw [fresh, if_neg (by simp)] at named
  refine ⟨callId, Datum.asCallId_eq_ok.1 named, ?_⟩
  split at found
  next call earlier =>
    cases found
    exact .inl ⟨call, earlier, rfl⟩
  next absent =>
    rw [fresh, if_neg (by simp), given, if_pos (by simp)] at found
    obtain ⟨arguments, taken, found⟩ := bind_eq_ok.1 found
    cases found
    exact .inr ⟨absent, arguments, taken, rfl⟩

end ToolCall

/-- What a result comes from if it answers a call: from the author if there is one, else from the
model if the tool has a result. -/
def ToolResult.From (answer : ToolResult) (call : CallPart) (source : ResultSource) : Prop :=
  if answer.result.isNone ∧ answer.tool.returnsValue then
    ∃ shape, answer.tool.output = some shape ∧ source = .model shape call.arguments
  else ∃ result, source = .known result

theorem ToolResult.source_eq_ok {answer : ToolResult} {context : Context} {callId : String}
    {source : ResultSource} (found : answer.source context = .ok (callId, source)) :
    answer.callId = .text callId ∧
      ∃ call, context.findToolCall callId = some call ∧ answer.From call source := by
  have named := ToolResult.callId_of_source found
  refine ⟨Datum.asCallId_eq_ok.1 named, ?_⟩
  unfold ToolResult.source at found
  rw [named] at found
  obtain ⟨_, ⟨⟩, found⟩ := bind_eq_ok.1 found
  unfold ToolResult.From
  split at found
  · cases found
  next call earlier =>
    refine ⟨call, earlier, ?_⟩
    cases given : answer.result with
    | some result =>
        rw [given] at found
        cases found
        exact ⟨result, rfl⟩
    | none =>
        rw [given] at found
        cases output : answer.tool.output with
        | none =>
            rw [output] at found
            cases found
            simp [ToolDefinition.returnsValue, output, Shape.hasFields]
        | some shape =>
            rw [output] at found
            dsimp only at found
            split at found
            next returns =>
              cases found
              simp [returns]
            next empty =>
              cases found
              simp [empty]

/-- The message makes one call at most, which names each of its arguments once. -/
structure Message.IsOrderly (message : Message) : Prop where
  single : message.IsSingle
  distinct : ∀ call, message.Calls call → (call.arguments.map Prod.fst).Nodup

theorem Message.isOrderly_of_silent {message : Message} (silent : message.toolCalls = none) :
    message.IsOrderly where
  single kind := by
    rw [Message.kind, silent] at kind
    split at kind <;> cases kind
  distinct call calls := by
    have only := calls.only
    rw [silent] at only
    cases only

theorem Message.CallsWith.isOrderly {message : Message} {use : ToolCall} {arguments : Datum}
    {call : CallPart} (calls : message.CallsWith use arguments call) : message.IsOrderly where
  single _ := ⟨call, calls.calls⟩
  distinct other calls' := by
    rw [← calls.calls.unique calls']
    exact Fit.nodup_of_dictionary calls.taken

section

variable {μ : Type} {making : Making}
variable {environment : Environment Shared μ ModelCall (Except Error Reply)}

theorem Emission.Made.isOrderly {emission : Emission} (made : emission.Made making environment) :
    emission.message.IsOrderly := by
  cases leaf : emission.leaf with
  | fixed role content =>
      exact Message.isOrderly_of_silent (made.message (by rw [leaf]; rfl)).1
  | written role prompt =>
      exact Message.isOrderly_of_silent (made.message (by rw [leaf]; rfl)).1
  | call use =>
      obtain ⟨call, arguments, calls, _⟩ := made.call leaf
      exact calls.isOrderly
  | result answer =>
      obtain ⟨_, _, _, silent, _⟩ := made.result leaf
      exact Message.isOrderly_of_silent silent

/-- Arguments of an earlier call are the same when they are used again. -/
theorem Message.CallsWith.arguments_eq {message : Message} {use : ToolCall} {earlier call : CallPart}
    (calls : message.CallsWith use earlier.arguments.toDatum call)
    (distinct : (earlier.arguments.map Prod.fst).Nodup) : call.arguments = earlier.arguments := by
  have taken := calls.taken
  rw [Fit.dictionary_toDatum distinct] at taken
  exact (Except.ok.inj taken).symm

variable {root : Item} {seed rowIndex : Option Int} {stream : Random.Stream} {plan : Plan}
variable {both : Shared × μ} {conversation : Generated} {last : Walk}

variable (making root seed rowIndex stream plan environment both) in
/-- What the generate phase emits for a tree, entry by entry. -/
def emissionsOf : List Emission :=
  (root.script .done).emissions making environment (.startGenerate seed rowIndex stream plan) both

/-- A conversation that is generated consists of the messages of its emissions. -/
theorem chain_of_generate
    (generated : ((generate making root seed rowIndex stream plan).run environment both).1 =
      .ok (conversation, last)) :
    conversation.messages =
        (emissionsOf making environment root seed rowIndex stream plan both).map Emission.message ∧
      Emission.Chain making environment []
        (emissionsOf making environment root seed rowIndex stream plan both) := by
  obtain ⟨followed, rfl, _⟩ := walk_of_generate generated
  exact Script.chain_emissions followed

/-- An emission of a generated conversation, and what the calls looked up on its account refer to. -/
theorem emission_of_generate
    (generated : ((generate making root seed rowIndex stream plan).run environment both).1 =
      .ok (conversation, last))
    {place : Nat} {emission : Emission}
    (here : (emissionsOf making environment root seed rowIndex stream plan both)[place]? =
      some emission) :
    emission.Made making environment ∧
      (∀ message ∈ conversation.messages, message.IsOrderly) ∧
      ∀ callId call, emission.context.findToolCall callId = some call ↔
        RefersTo (conversation.messages.take place) callId call := by
  obtain ⟨all, chain⟩ := chain_of_generate generated
  obtain ⟨made, found⟩ := chain.at here
  have orderly : ∀ message ∈ conversation.messages, message.IsOrderly := by
    rw [all]
    intro message member
    obtain ⟨other, listed, rfl⟩ := List.mem_map.1 member
    obtain ⟨position, there⟩ := List.getElem?_of_mem listed
    exact (chain.at there).1.isOrderly
  refine ⟨made, orderly, fun callId call => ?_⟩
  rw [Context.findToolCall, found, List.nil_append, ← all]
  exact findCall_eq_some_iff fun message member => (orderly message (List.mem_of_mem_take member)).single

/-- What an id refers to names each of its arguments once. -/
theorem RefersTo.distinct {messages : List Message} {callId : String} {call : CallPart}
    (refers : RefersTo messages callId call) (orderly : ∀ message ∈ messages, message.IsOrderly) :
    (call.arguments.map Prod.fst).Nodup := by
  obtain ⟨message, member, calls, _⟩ := refers.made
  exact (orderly message member).distinct call calls

/-- The emission of a call that reuses arguments: the model is not asked, and the arguments are those
of the call that the id refers to. -/
def Emission.Reuses (emission : Emission) (use : ToolCall) (messages : List Message) : Prop :=
  ∃ callId earlier call, use.reuseFrom = .text callId ∧ RefersTo messages callId earlier ∧
    emission.message.Calls call ∧ call.arguments = earlier.arguments ∧ emission.exchanges = []

/-- The emission of a result: it answers a call that has been made. If the author has given no result
and the tool has one, the model writes it last of all that it is asked, being shown the arguments of
that call; else the model is not asked. -/
def Emission.Answers (emission : Emission) (answer : ToolResult) (messages : List Message) : Prop :=
  ∃ callId call, answer.callId = .text callId ∧ emission.message.toolCallId = some callId ∧
    RefersTo messages callId call ∧
    if answer.result.isNone ∧ answer.tool.returnsValue then
      ∃ shape others asked reply, answer.tool.output = some shape ∧
        emission.exchanges = others ++ [(asked, .ok reply)] ∧
        emission.message.content = unwrapResult shape reply.value ∧
        asked.Shows answer.tool call.arguments
    else emission.exchanges = []

theorem reuses_of_generate
    (generated : ((generate making root seed rowIndex stream plan).run environment both).1 =
      .ok (conversation, last))
    {place : Nat} {emission : Emission} {use : ToolCall}
    (here : (emissionsOf making environment root seed rowIndex stream plan both)[place]? =
      some emission)
    (leaf : emission.leaf = .call use) (reuses : use.reuseFrom.isTruthy = true) :
    emission.Reuses use (conversation.messages.take place) := by
  obtain ⟨made, orderly, refers⟩ := emission_of_generate generated here
  obtain ⟨call, arguments, calls, ⟨source, exchanged⟩ | ⟨shape, source⟩⟩ := made.call leaf
  · obtain ⟨callId, earlier, named, found, same⟩ := ToolCall.source_of_reuse reuses source
    cases same
    have refers := (refers callId earlier).1 found
    have distinct := refers.distinct fun message member =>
      orderly message (List.mem_of_mem_take member)
    exact ⟨callId, earlier, call, named, refers, calls.calls, calls.arguments_eq distinct, exchanged⟩
  · obtain ⟨_, _, _, _, same⟩ := ToolCall.source_of_reuse reuses source
    cases same

theorem answers_of_generate
    (generated : ((generate making root seed rowIndex stream plan).run environment both).1 =
      .ok (conversation, last))
    {place : Nat} {emission : Emission} {answer : ToolResult}
    (here : (emissionsOf making environment root seed rowIndex stream plan both)[place]? =
      some emission)
    (leaf : emission.leaf = .result answer) :
    emission.Answers answer (conversation.messages.take place) := by
  obtain ⟨made, _, refers⟩ := emission_of_generate generated here
  obtain ⟨callId, source, found, _, answered, resultFrom⟩ := made.result leaf
  obtain ⟨named, call, earlier, origin⟩ := ToolResult.source_eq_ok found
  refine ⟨callId, call, named, answered, (refers callId call).1 earlier, ?_⟩
  unfold ToolResult.From at origin
  split
  next wanted =>
    rw [if_pos wanted] at origin
    obtain ⟨shape, output, rfl⟩ := origin
    obtain ⟨others, asked, reply, exchanged, content, shows⟩ := resultFrom
    exact ⟨shape, others, asked, reply, output, exchanged, content, shows⟩
  next unwanted =>
    rw [if_neg unwanted] at origin
    obtain ⟨result, rfl⟩ := origin
    exact resultFrom.2

/-- Results and reused arguments neither dangle nor drift. In a conversation that is generated a
message that answers a call comes behind one that makes it, under the same id or the one it is deferred
from; a call that reuses arguments has those of the call that the id refers to, and nothing is asked
for it; and a result that the model writes is written to the arguments of the call that it answers. -/
theorem references_of_generate
    (generated : ((generate making root seed rowIndex stream plan).run environment both).1 =
      .ok (conversation, last)) :
    let emissions := emissionsOf making environment root seed rowIndex stream plan both
    conversation.messages = emissions.map Emission.message ∧
      (∀ place message callId, conversation.messages[place]? = some message →
        message.toolCallId = some callId →
          ∃ earlier ∈ conversation.messages.take place, ∃ call, earlier.Calls call ∧
            (call.id = callId ∨ call.id ++ finalSuffix = callId)) ∧
      ∀ (place : Nat) (emission : Emission), emissions[place]? = some emission →
        (∀ use, emission.leaf = .call use → use.reuseFrom.isTruthy = true →
          emission.Reuses use (conversation.messages.take place)) ∧
        ∀ answer, emission.leaf = .result answer →
          emission.Answers answer (conversation.messages.take place) := by
  intro emissions
  obtain ⟨all, chain⟩ := chain_of_generate generated
  refine ⟨all, fun place message callId here answered => ?_, fun place emission here => ⟨?_, ?_⟩⟩
  · rw [all, List.getElem?_map, Option.map_eq_some_iff] at here
    obtain ⟨emission, here, rfl⟩ := here
    have made := (chain.at here).1
    cases leaf : emission.leaf with
    | fixed role content =>
        rw [(made.message (by rw [leaf]; rfl)).2] at answered
        cases answered
    | written role prompt =>
        rw [(made.message (by rw [leaf]; rfl)).2] at answered
        cases answered
    | call use =>
        obtain ⟨call, arguments, calls, _⟩ := made.call leaf
        rw [calls.answers] at answered
        cases answered
    | result answer =>
        obtain ⟨id, call, _, known, refers, _⟩ := answers_of_generate generated here leaf
        rw [known, Option.some.injEq] at answered
        subst answered
        obtain ⟨earlier, member, calls, named⟩ := refers.made
        exact ⟨earlier, member, call, calls, named⟩
  · exact fun use leaf reuses => reuses_of_generate generated here leaf reuses
  · exact fun answer leaf => answers_of_generate generated here leaf

end

/-- A tool that forecasts the weather. -/
def forecastTool : ToolDefinition := ⟨"weather", "Forecast", none, none⟩

def forecastCall : ToolCall :=
  ⟨forecastTool, .text "a", .mapping [(.text "city", .text "Rome")], .null, .null⟩

/-- The call again, whose result was deferred. -/
def deferredCall : ToolCall := ⟨forecastTool, .text "a-FINAL", .null, .text "a", .null⟩

def deferredResult : ToolResult := ⟨forecastTool, .text "a-FINAL", some (.text "sunny"), .null⟩

/-- A forecast that is deferred: a call and its preliminary result, the call again and its result. -/
def deferredForecast : Item :=
  .list [.node (.leaf (.call forecastCall)),
    .node (.leaf (.result ⟨forecastTool, .text "a", some (.text "pending"), .null⟩)),
    .node (.leaf (.call deferredCall)), .node (.leaf (.result deferredResult))]

/-- What is planned for a tree without draws. -/
def planOf (root : Item) : Plan :=
  (Walked.walk ((check root (some 7) none (.ofSource (.scripted [])) []).run .quiet
    (⟨.fresh, #[]⟩, ())).1).finishedPlan

theorem references_of_generate_deferredForecast :
    ∃ (conversation : Generated) (last : Walk) (calling answering : Emission),
      ((generate ⟨false, none, true, false⟩ deferredForecast (some 7) none
        (.ofSource (.scripted [])) (planOf deferredForecast)).run .quiet (⟨.fresh, #[]⟩, ())).1 =
          .ok (conversation, last) ∧
      conversation.messages.length = 4 ∧
      calling.leaf = .call deferredCall ∧
      calling.Reuses deferredCall (conversation.messages.take 2) ∧
      answering.leaf = .result deferredResult ∧
      answering.Answers deferredResult (conversation.messages.take 3) := by
  let emissions := emissionsOf ⟨false, none, true, false⟩ .quiet deferredForecast (some 7) none
    (.ofSource (.scripted [])) (planOf deferredForecast) (⟨.fresh, #[]⟩, ())
  have generated : ∃ conversation last,
      ((generate ⟨false, none, true, false⟩ deferredForecast (some 7) none
        (.ofSource (.scripted [])) (planOf deferredForecast)).run .quiet (⟨.fresh, #[]⟩, ())).1 =
          .ok (conversation, last) ∧ conversation.messages.length = 4 := ⟨_, _, rfl, rfl⟩
  obtain ⟨conversation, last, generated, length⟩ := generated
  obtain ⟨all, _, lawful⟩ := references_of_generate generated
  have calling : ∃ emission, emissions[2]? = some emission ∧ emission.leaf = .call deferredCall :=
    ⟨_, rfl, rfl⟩
  have answering : ∃ emission, emissions[3]? = some emission ∧
      emission.leaf = .result deferredResult := ⟨_, rfl, rfl⟩
  obtain ⟨third, here, leaf⟩ := calling
  obtain ⟨fourth, there, leaf'⟩ := answering
  exact ⟨conversation, last, third, fourth, generated, length, leaf,
    (lawful 2 third here).1 deferredCall leaf (by decide), leaf',
    (lawful 3 fourth there).2 deferredResult leaf'⟩

section

variable {μ : Type} {making : Making}
variable {environment : Environment Shared μ ModelCall (Except Error Reply)}
variable {root : Item} {seed rowIndex : Option Int} {stream : Random.Stream} {plan : Plan}
variable {both : Shared × μ} {conversation : Generated} {last : Walk}

/-- The call carries the entries: those themselves if the tool names no parameters, else what they are
written out as when they have been fitted to the parameters. -/
def ToolCall.CarriedBy (use : ToolCall) (entries : Entries) (call : CallPart) : Prop :=
  ∃ arguments, Fit.dictionary arguments = .ok call.arguments ∧
    match use.tool.parameters with
    | none => arguments = .mapping entries
    | some shape => ∃ fitted, shape.fit (.mapping entries) = .ok fitted ∧
        fitted.document = .ok arguments

theorem ToolDefinition.takeArguments_eq_ok {tool : ToolDefinition} {given arguments : Datum}
    (taken : tool.takeArguments given = .ok arguments) :
    ∃ entries, given.asEntries = .ok entries ∧
      match tool.parameters with
      | none => arguments = .mapping entries
      | some shape => ∃ fitted, shape.fit (.mapping entries) = .ok fitted ∧
          fitted.document = .ok arguments := by
  obtain ⟨entries, listed, taken⟩ := bind_eq_ok.1 taken
  refine ⟨entries, listed, ?_⟩
  cases parameters : tool.parameters with
  | none =>
      rw [parameters] at taken
      cases taken
      rfl
  | some shape =>
      rw [parameters] at taken
      obtain ⟨fitted, fits, taken⟩ := bind_eq_ok.1 taken
      exact ⟨fitted, mapError_eq_ok.1 fits, mapError_eq_ok.1 taken⟩

/-- The arguments that are planned for a call are those that its author gives. -/
theorem ToolCall.arguments_of_plan {use : ToolCall} {context : Context} {entry : PlanEntry}
    (given : use.arguments.isNull = false) (planned : (Leaf.call use).plan context = .ok entry) :
    ∃ entries, use.arguments.asEntries = .ok entries ∧ entry.arguments = .mapping entries := by
  obtain ⟨draft, drafted, fitted⟩ := bind_eq_ok.1 planned
  have kept : entry.arguments = draft.arguments := by rw [(EntryDraft.fit_eq_ok fitted).2.2]
  have listed : ∃ entries, use.arguments.asEntries = .ok entries ∧
      draft.arguments = .mapping entries := by
    simp only [Leaf.draft, given] at drafted
    split at drafted
    · obtain ⟨_, _, drafted⟩ := bind_eq_ok.1 drafted
      obtain ⟨arguments, mapped, drafted⟩ := bind_eq_ok.1 drafted
      cases drafted
      obtain ⟨entries, listed, rfl⟩ := map_eq_ok.1 mapped
      exact ⟨entries, listed, rfl⟩
    · obtain ⟨arguments, mapped, drafted⟩ := bind_eq_ok.1 drafted
      cases drafted
      obtain ⟨entries, listed, rfl⟩ := map_eq_ok.1 mapped
      exact ⟨entries, listed, rfl⟩
  obtain ⟨entries, listed, same⟩ := listed
  exact ⟨entries, listed, kept.trans same⟩

/-- Arguments that an author gives are planned as they are. In a conversation that is generated the call
carries them, and nothing is asked for it, if its id refers to no call that has been made before; else
the call carries the arguments of that one. -/
theorem givenArguments_of_generate
    (generated : ((generate making root seed rowIndex stream plan).run environment both).1 =
      .ok (conversation, last)) :
    let emissions := emissionsOf making environment root seed rowIndex stream plan both
    conversation.messages = emissions.map Emission.message ∧
      ∀ (place : Nat) (emission : Emission) (use : ToolCall), emissions[place]? = some emission →
        emission.leaf = .call use → use.reuseFrom.isTruthy = false →
        use.arguments.isNull = false →
          (∀ context entry, (Leaf.call use).plan context = .ok entry →
            ∃ entries, use.arguments.asEntries = .ok entries ∧
              entry.arguments = .mapping entries) ∧
          ∃ callId call, use.callId = .text callId ∧ emission.message.Calls call ∧
            call.id = callId ∧ emission.exchanges = [] ∧
            ((∀ earlier, ¬RefersTo (conversation.messages.take place) callId earlier) →
              ∃ entries, use.arguments.asEntries = .ok entries ∧ use.CarriedBy entries call) ∧
            ∀ earlier, RefersTo (conversation.messages.take place) callId earlier →
              call.arguments = earlier.arguments := by
  refine ⟨(chain_of_generate generated).1, ?_⟩
  intro place emission use here leaf fresh given
  refine ⟨fun context entry planned => ToolCall.arguments_of_plan given planned, ?_⟩
  obtain ⟨made, orderly, refers⟩ := emission_of_generate generated here
  obtain ⟨call, arguments, calls, origin⟩ := made.call leaf
  have known : use.source emission.context = .ok (.known arguments) ∧ emission.exchanges = [] := by
    rcases origin with known | ⟨shape, source⟩
    · exact known
    · obtain ⟨_, _, ⟨_, _, same⟩ | ⟨_, _, _, same⟩⟩ := ToolCall.source_of_given fresh given source
      · cases same
      · cases same
  obtain ⟨callId, named, found⟩ := ToolCall.source_of_given fresh given known.1
  have id := calls.id
  rw [named] at id
  refine ⟨callId, call, named, calls.calls, (Except.ok.inj id).symm, known.2, ?_, ?_⟩
  · intro absent
    rcases found with ⟨earlier, found, _⟩ | ⟨_, given', taken, same⟩
    · exact absurd ((refers callId earlier).1 found) (absent earlier)
    · cases same
      obtain ⟨entries, listed, carried⟩ := ToolDefinition.takeArguments_eq_ok taken
      exact ⟨entries, listed, arguments, calls.taken, carried⟩
  · intro earlier refersTo
    have distinct := refersTo.distinct fun message member =>
      orderly message (List.mem_of_mem_take member)
    have there := (refers callId earlier).2 refersTo
    rcases found with ⟨other, found, same⟩ | ⟨missing, _⟩
    · rw [there, Option.some.injEq] at found
      subst found
      cases same
      exact calls.arguments_eq distinct
    · rw [there] at missing
      cases missing

end

/-- Two calls of one id, to which the author gives different arguments. -/
def repeatedCall : Item :=
  .list [.node (.leaf (.call forecastCall)),
    .node (.leaf (.call { forecastCall with
      arguments := .mapping [(.text "city", .text "Paris")] }))]

/-- The second call is planned with its own arguments, and is made with those of the first. -/
theorem generate_repeatedCall :
    ∃ conversation last first second,
      ((generate ⟨false, none, true, false⟩ repeatedCall (some 7) none
        (.ofSource (.scripted [])) (planOf repeatedCall)).run .quiet (⟨.fresh, #[]⟩, ())).1 =
          .ok (conversation, last) ∧
      (planOf repeatedCall).entries.map PlanEntry.arguments =
        [.mapping [(.text "city", .text "Rome")], .mapping [(.text "city", .text "Paris")]] ∧
      conversation.messages.map Message.toolCalls = [some [first], some [second]] ∧
      second.id = "a" ∧ second.arguments = [("city", .text "Rome")] :=
  ⟨_, _, _, _, rfl, rfl, rfl, rfl, rfl⟩

theorem givenArguments_of_generate_forecast :
    ∃ (conversation : Generated) (last : Walk) (emission : Emission) (call : CallPart),
      ((generate ⟨false, none, true, false⟩ deferredForecast (some 7) none
        (.ofSource (.scripted [])) (planOf deferredForecast)).run .quiet (⟨.fresh, #[]⟩, ())).1 =
          .ok (conversation, last) ∧
      emission.leaf = .call forecastCall ∧ emission.message ∈ conversation.messages ∧
      emission.message.Calls call ∧
      forecastCall.CarriedBy [(.text "city", .text "Rome")] call := by
  have generated : ∃ conversation last,
      ((generate ⟨false, none, true, false⟩ deferredForecast (some 7) none
        (.ofSource (.scripted [])) (planOf deferredForecast)).run .quiet (⟨.fresh, #[]⟩, ())).1 =
          .ok (conversation, last) := ⟨_, _, rfl⟩
  obtain ⟨conversation, last, generated⟩ := generated
  obtain ⟨all, lawful⟩ := givenArguments_of_generate generated
  have first : ∃ emission : Emission,
      (emissionsOf ⟨false, none, true, false⟩ .quiet deferredForecast (some 7) none
        (.ofSource (.scripted [])) (planOf deferredForecast) (⟨.fresh, #[]⟩, ()))[0]? =
          some emission ∧ emission.leaf = .call forecastCall := ⟨_, rfl, rfl⟩
  obtain ⟨emission, here, leaf⟩ := first
  obtain ⟨_, callId, call, _, calls, _, _, carried, _⟩ :=
    lawful 0 emission forecastCall here leaf (by decide) (by decide)
  -- Nothing comes before the first call, so that its id refers to no other.
  have absent (earlier : CallPart) : ¬RefersTo (conversation.messages.take 0) callId earlier := by
    intro refers
    obtain ⟨message, member, _⟩ := refers.made
    cases member
  obtain ⟨entries, listed, carries⟩ := carried absent
  cases listed
  refine ⟨conversation, last, emission, call, generated, leaf, ?_, calls, carries⟩
  rw [all]
  exact List.mem_map_of_mem (List.mem_of_getElem? here)

end Colloquy
