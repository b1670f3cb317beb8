import Colloquy.Proofs.Resolution.Arguments
import Colloquy.Proofs.Resolution.Collecting
import Colloquy.Proofs.Resolution.Flows

/-!
# Prompts for leaves

The model is called by code of the caller, or on account of a leaf. The call for a leaf is delivered as
one list: its system prompt, all that is collected for its kind of entry with system messages first,
and its user prompt.
-/

set_option autoImplicit false

namespace Colloquy

open Model (isSystem)

/-! ## What the texts of a prompt carry -/

namespace Prompt

/-- The part stands in the text as it is. -/
def Carries (text part : String) : Prop := part.toList <:+: text.toList

theorem carries_lines {texts : List String} {part : String} (member : part ∈ texts) :
    Carries (lines texts) part := by
  unfold Carries lines
  rw [String.toList_intercalate]
  induction texts with
  | nil => cases member
  | cons first rest ih =>
      cases rest with
      | nil =>
          cases List.mem_singleton.1 member
          simp
      | cons second rest =>
          rw [List.map_cons, List.map_cons, List.intercalate_cons_cons]
          rcases List.mem_cons.1 member with rfl | member
          · exact List.IsInfix.trans (List.prefix_append _ _).isInfix
              (List.prefix_append _ _).isInfix
          · exact (ih member).trans (List.suffix_append _ _).isInfix

theorem mem_lines {texts : List String} {character : Char}
    (member : character ∈ (lines texts).toList) :
    character = '\n' ∨ ∃ text ∈ texts, character ∈ text.toList := by
  unfold lines at member
  rw [String.toList_intercalate] at member
  induction texts with
  | nil => cases member
  | cons first rest ih =>
      cases rest with
      | nil => exact .inr ⟨first, List.mem_singleton_self first, by simpa using member⟩
      | cons second rest =>
          rw [List.map_cons, List.map_cons, List.intercalate_cons_cons] at member
          rcases List.mem_append.1 member with early | late
          · rcases List.mem_append.1 early with here | between
            · exact .inr ⟨first, List.mem_cons_self, here⟩
            · exact .inl (by simpa using between)
          · rcases ih late with newline | ⟨text, among, here⟩
            · exact .inl newline
            · exact .inr ⟨text, List.mem_cons_of_mem _ among, here⟩

theorem carries_messageUser (role prompt : String) : Carries (messageUser role prompt) prompt :=
  carries_lines (by simp)

theorem carries_argumentsUser (schema : String) : Carries (argumentsUser schema) schema :=
  carries_lines (by simp)

theorem carries_resultUser (schema : String) : Carries (resultUser schema) schema :=
  carries_lines (by simp)

theorem carries_argumentsSystem (tool description flow extra : String) :
    Carries (argumentsSystem tool description flow extra) extra :=
  carries_lines (by simp)

theorem carries_resultSystem (tool description flow arguments extra : String) :
    Carries (resultSystem tool description flow arguments extra) extra :=
  carries_lines (by simp)

end Prompt

/-! ## The prompts of a leaf -/

theorem ToolCall.parameters_of_source {use : ToolCall} {context : Context} {shape : Shape}
    (found : use.source context = .ok (.model shape)) : use.tool.parameters = some shape := by
  obtain ⟨callId, _, found⟩ := bind_eq_ok.1 found
  split at found
  · cases found
  · split at found
    · cases found
    · split at found
      · obtain ⟨arguments, _, found⟩ := bind_eq_ok.1 found
        cases found
      · split at found
        next shape' given =>
          split at found
          · cases found
            exact given
          · cases found
        next => cases found

theorem ToolResult.output_of_source {answer : ToolResult} {context : Context} {callId : String}
    {shape : Shape} {arguments : Fields}
    (found : answer.source context = .ok (callId, .model shape arguments)) :
    answer.tool.output = some shape := by
  obtain ⟨_, call, _, origin⟩ := source_eq_ok found
  unfold From at origin
  split at origin
  · obtain ⟨shape', given, same⟩ := origin
    cases same
    exact given
  · obtain ⟨result, same⟩ := origin
    cases same

namespace Leaf

/-- The kind of entry for which extra messages are collected, and the user prompt of a leaf. -/
def InstructsWith (target : Datum) (user : String) : Leaf → Prop
  | fixed _ _ => False
  | written role prompt =>
      role.asKey = .ok target ∧ user = Prompt.messageUser target.spoken prompt.spoken
  | call use => target = .text "tool_call" ∧ ∃ shape schema, use.tool.parameters = some shape ∧
      schemaText shape = .ok schema ∧ user = Prompt.argumentsUser schema
  | result answer => target = .text "tool_result" ∧ ∃ shape schema,
      answer.tool.output = some shape ∧ schemaText shape = .ok schema ∧
      user = Prompt.resultUser schema

/-- Where the prompts of a leaf say what its author has written. The prompt of a message stands in the
user prompt. That of a tool call or a result stands in the system prompt, and the user prompt has the
schema to satisfy. -/
def CarriedBy (system user : String) : Leaf → Prop
  | fixed _ _ => False
  | written _ prompt => Prompt.Carries user prompt.spoken
  | call use => Prompt.Carries system (extraInstructions use.prompt) ∧
      ∃ shape schema, use.tool.parameters = some shape ∧ schemaText shape = .ok schema ∧
        Prompt.Carries user schema
  | result answer => Prompt.Carries system (extraInstructions answer.prompt) ∧
      ∃ shape schema, answer.tool.output = some shape ∧ schemaText shape = .ok schema ∧
        Prompt.Carries user schema

theorem instructsWith_request {leaf : Leaf} {context : Context} {request : ModelRequest}
    (requests : leaf.request? context = some (.ok request)) :
    leaf.InstructsWith request.target request.userPrompt := by
  cases leaf with
  | fixed role content => cases requests
  | written role prompt =>
      obtain ⟨target, key, made⟩ := bind_eq_ok.1 (Option.some.inj requests)
      obtain ⟨flow, _, made⟩ := bind_eq_ok.1 made
      obtain ⟨tools, _, made⟩ := bind_eq_ok.1 made
      cases made
      exact ⟨key, rfl⟩
  | call use =>
      simp only [request?] at requests
      split at requests
      next shape found =>
        obtain ⟨flow, _, made⟩ := bind_eq_ok.1 (Option.some.inj requests)
        obtain ⟨schema, written, made⟩ := bind_eq_ok.1 made
        cases made
        exact ⟨rfl, shape, schema, ToolCall.parameters_of_source found, written, rfl⟩
      next => cases requests
  | result answer =>
      simp only [request?] at requests
      split at requests
      next callId shape given found =>
        obtain ⟨flow, _, made⟩ := bind_eq_ok.1 (Option.some.inj requests)
        obtain ⟨arguments, _, made⟩ := bind_eq_ok.1 made
        obtain ⟨schema, written, made⟩ := bind_eq_ok.1 made
        cases made
        exact ⟨rfl, shape, schema, ToolResult.output_of_source found, written, rfl⟩
      next => cases requests

theorem carriedBy_of_prompts {leaf : Leaf} {target : Datum} {flow system user : String}
    (prompts : leaf.PromptsWith flow system) (instructs : leaf.InstructsWith target user) :
    leaf.CarriedBy system user := by
  cases leaf with
  | fixed role content => exact prompts
  | written role prompt =>
      obtain ⟨_, rfl⟩ := instructs
      exact Prompt.carries_messageUser _ _
  | call use =>
      obtain ⟨_, shape, schema, given, written, rfl⟩ := instructs
      cases prompts
      exact ⟨Prompt.carries_argumentsSystem _ _ _ _, shape, schema, given, written,
        Prompt.carries_argumentsUser schema⟩
  | result answer =>
      obtain ⟨_, shape, schema, given, written, rfl⟩ := instructs
      obtain ⟨arguments, rfl⟩ := prompts
      exact ⟨Prompt.carries_resultSystem _ _ _ _ _, shape, schema, given, written,
        Prompt.carries_resultUser schema⟩

end Leaf

/-! ## What is delivered for a leaf -/

section

variable {μ : Type} {making : Making}
variable {environment : Environment Shared μ ModelCall (Except Error Reply)}

theorem ModelRequest.hoist_messages (request : ModelRequest) {common specific : List Datum}
    (mappings : ∀ message ∈ common ++ specific, message.IsMapping) :
    Model.hoist (request.messages (common ++ specific)) =
      .ok (promptMessage "system" request.systemPrompt ::
        (common.filter isSystem ++ specific.filter isSystem) ++
        ((common.filter fun message => !isSystem message) ++
          specific.filter fun message => !isSystem message) ++
        [promptMessage "user" request.userPrompt]) := by
  unfold messages
  rw [Model.hoist_eq_ok, Model.partitioned_between]
  · exact Model.isSystem_promptMessage "system" _
  · exact Model.isSystem_promptMessage "user" _
  · intro message member
    rcases List.mem_append.1 member with early | last
    · rcases List.mem_cons.1 early with rfl | extra
      · exact ⟨_, rfl⟩
      · exact mappings message extra
    · cases List.mem_singleton.1 last
      exact ⟨_, rfl⟩

/-- The call makes the request of the leaf of an attempt, and is delivered with its system prompt in
front, then the system messages that are collected for it, then the others, and its user prompt at the
end. -/
def Attempt.Delivers (making : Making)
    (environment : Environment Shared μ ModelCall (Except Error Reply)) (attempt : Attempt μ)
    (call : ModelCall) : Prop :=
  ∃ request flow common specific,
    attempt.leaf.request? attempt.walk.context = some (.ok request) ∧ call.form = request.form ∧
    attempt.walk.context.flowText = .ok flow ∧
    attempt.leaf.PromptsWith flow request.systemPrompt ∧
    attempt.leaf.InstructsWith request.target request.userPrompt ∧
    attempt.leaf.CarriedBy request.systemPrompt request.userPrompt ∧
    PromptExtras.Collects environment making.extras request.target attempt.walk attempt.both common
      specific ∧
    Model.hoist call.messages = .ok (promptMessage "system" request.systemPrompt ::
      (common.filter isSystem ++ specific.filter isSystem) ++
      ((common.filter fun message => !isSystem message) ++
        specific.filter fun message => !isSystem message) ++
      [promptMessage "user" request.userPrompt])

theorem Attempt.Sends.delivers {attempt : Attempt μ} {call : ModelCall}
    (sends : attempt.Sends making environment call) : attempt.Delivers making environment call := by
  obtain ⟨request, extra, after, later, requests, collected, rfl⟩ := sends
  obtain ⟨flow, text, prompts⟩ := Leaf.promptsWith_request requests
  obtain ⟨common, specific, rfl, collects⟩ := collects_of_run collected
  have instructs := Leaf.instructsWith_request requests
  exact ⟨request, flow, common, specific, requests, rfl, text, prompts, instructs,
    Leaf.carriedBy_of_prompts prompts instructs, collects,
    request.hoist_messages collects.isMapping⟩

/-- A request that is made is sent once the extra messages are collected. -/
theorem Walk.exchanges_withReply {make : Context → Except Error ModelRequest}
    {next : Reply → Walk → Walked Message} {walk after : Walk} {both later : Shared × μ}
    {request : ModelRequest} {extra : List Datum} (model : making.hasModel = true)
    (made : make walk.context = .ok request)
    (collected : ((extraMessages making.extras request.target).follow walk).run environment both =
      (.ok (extra, after), later)) :
    ∃ answer, (walk.withReply making make next).exchanges environment both =
      walk.collecting making environment request.target both ++
        [(⟨request.form, request.messages extra⟩, answer)] := by
  have sent : ∃ answer, (walk.request making make).exchanges environment both =
      walk.collecting making environment request.target both ++
        [(⟨request.form, request.messages extra⟩, answer)] := by
    unfold Walk.request
    rw [if_pos model, made]
    unfold ModelRequest.send
    dsimp only
    rw [Process.exchanges_bind, collected]
    exact ⟨_, rfl⟩
  obtain ⟨answer, sent⟩ := sent
  refine ⟨answer, ?_⟩
  unfold withReply
  rw [Process.exchanges_bind, sent]
  refine (congrArg _ ?_).trans (List.append_nil _)
  rcases ((walk.request making make).run environment both).1 with halt | ⟨reply, last⟩ <;> rfl

theorem Attempt.exchanges_of_request {attempt : Attempt μ} {request : ModelRequest}
    {extra : List Datum} {after : Walk} {later : Shared × μ} (model : making.hasModel = true)
    (requests : attempt.leaf.request? attempt.walk.context = some (.ok request))
    (collected : ((extraMessages making.extras request.target).follow attempt.walk).run environment
      attempt.both = (.ok (extra, after), later)) :
    ∃ answer, attempt.exchanges making environment =
      attempt.walk.collecting making environment request.target attempt.both ++
        [(⟨request.form, request.messages extra⟩, answer)] := by
  obtain ⟨leaf, walk, both⟩ := attempt
  unfold exchanges Walk.makeMessage
  dsimp only at requests collected ⊢
  cases leaf with
  | fixed role content => cases requests
  | written role prompt =>
      exact Walk.exchanges_withReply model (Option.some.inj requests) collected
  | call use =>
      simp only [Leaf.request?] at requests
      split at requests
      next shape found =>
        simp only [found]
        exact Walk.exchanges_withReply model (Option.some.inj requests) collected
      next => cases requests
  | result answer =>
      simp only [Leaf.request?] at requests
      split at requests
      next callId shape given found =>
        simp only [found]
        exact Walk.exchanges_withReply model (Option.some.inj requests) collected
      next => cases requests

end

/-! ## Turns of a walk -/

/-- Where the model may be called on a walk: by code of the caller, or on account of a leaf. -/
inductive Turn (μ : Type) where
  | aside (exchange : ModelCall × Except Error Reply)
  | leaf (attempt : Attempt μ)

section

variable {μ : Type} (emit : Leaf → Walk → RowProcess (Walked Unit))
variable (environment : Environment Shared μ ModelCall (Except Error Reply))

def Turn.exchanges : Turn μ → List (ModelCall × Except Error Reply)
  | aside exchange => [exchange]
  | leaf attempt => (emit attempt.leaf attempt.walk).exchanges environment attempt.both

/-- The turns that a script comes to in an environment. A leaf that fails is the last. -/
def Script.turns : Script → Walk → Shared × μ → List (Turn μ)
  | done, _, _ => []
  | fail _, _, _ => []
  | draw next, walk, both =>
      (next walk.context.draw.1).turns (walk.within walk.context.draw.2) both
  | choose options uniqueBy next, walk, both =>
      match (walk.choose options uniqueBy).run environment both with
      | (.ok (place, walk), both) => (next place).turns walk both
      | (.error _, _) => []
  | entry leaf next, walk, both =>
      .leaf ⟨leaf, walk, both⟩ ::
        match (emit leaf walk).run environment both with
        | (.ok (_, walk), both) => next.turns walk both
        | (.error _, _) => []
  | list tool next, walk, both => next.turns (walk.within (walk.context.addTool tool)) both
  | update change next, walk, both =>
      match walk.context.update change with
      | .ok context => next.turns (walk.within context) both
      | .error _ => []
  | observe next, walk, both => (next walk.context).turns walk both
  | ask call next, walk, both =>
      .aside (call, (environment.answer call both).1) ::
        (next (environment.answer call both).1).turns walk (environment.answer call both).2
  | pause next, walk, both => next.turns walk (environment.meanwhile both)

theorem Script.exchanges_turns (script : Script) (walk : Walk) (both : Shared × μ) :
    (script.follow emit walk).exchanges environment both =
      (script.turns emit environment walk both).flatMap (Turn.exchanges emit environment) := by
  induction script generalizing walk both with
  | done => rfl
  | fail error => rfl
  | draw next ih => exact ih _ _ _
  | choose options uniqueBy next ih =>
      simp only [follow, turns, Process.exchanges_bind]
      rcases (walk.choose options uniqueBy).run environment both with
        ⟨halt | ⟨place, after⟩, later⟩
      · rfl
      · exact ih place after later
  | entry leaf next ih =>
      simp only [follow, turns, Process.exchanges_bind, List.flatMap_cons]
      refine congrArg _ ?_
      rcases (emit leaf walk).run environment both with ⟨halt | ⟨⟨⟩, after⟩, later⟩
      · rfl
      · exact ih after later
  | list tool next ih => exact ih _ _
  | update change next ih =>
      simp only [follow, turns]
      cases walk.context.update change with
      | error error => rfl
      | ok context => exact ih _ _
  | observe next ih => exact ih _ _ _
  | ask call next ih => exact congrArg _ (ih _ walk _)
  | pause next ih => exact ih _ _

end

end Colloquy
