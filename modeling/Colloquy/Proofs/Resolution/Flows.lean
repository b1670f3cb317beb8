import Colloquy.Proofs.Resolution.Asking
import Colloquy.Proofs.Resolution.Attempts

/-!
# Flows that prompts show

A prompt shows one item for each entry of the plan: the messages made so far, and then the entries
that are still to be made, the first of which is marked. On the walk of the generate phase the marked
entry is the one that announces the leaf the prompt is for.
-/

set_option autoImplicit false

namespace Colloquy

theorem Fields.get?_set (fields : Fields) (name other : String) (value : Datum) :
    (fields.set name value).get? other = if name = other then some value else fields.get? other := by
  induction fields with
  | nil => exact get?_cons name other value []
  | cons field rest ih =>
      obtain ⟨first, old⟩ := field
      unfold set
      split
      next here =>
        subst here
        simp only [get?_cons]
        split <;> rfl
      next there =>
        simp only [get?_cons, ih]
        split
        next here =>
          subst here
          rw [if_neg fun same => there same.symm]
        next => rfl

theorem Fields.get?_hide (fields : Fields) (hidden : List String) (name : String) :
    Fields.get? (fields.filter fun field => !hidden.contains field.1) name =
      if name ∈ hidden then none else fields.get? name := by
  induction fields with
  | nil => exact (ite_self none).symm
  | cons field rest ih =>
      obtain ⟨first, value⟩ := field
      by_cases left : first ∈ hidden
      · by_cases here : first = name
        · subst here
          simpa [left] using ih
        · simpa [left, get?_cons, here] using ih
      · by_cases here : first = name
        · subst here
          simp [left, get?_cons]
        · simpa [left, get?_cons, here] using ih

theorem mem_absentField {α : Type} {name other : String} {value : Option α} :
    other ∈ absentField name value ↔ value = none ∧ other = name := by
  cases value <;> simp [absentField]

theorem mem_nullField {name other : String} {value : Datum} :
    other ∈ nullField name value ↔ value.isNull = true ∧ other = name := by
  unfold nullField
  split <;> simp [*]

/-- What is shown of an entry that is still to be made. -/
structure PlanEntry.ShownAs (entry : PlanEntry) (item : Fields) : Prop where
  kind : item.get? "kind" = some (.text entry.kind.name)
  role : item.get? "role" = some (.text entry.role.name)
  content : entry.content.isNull = false →
    ∃ content, entry.content.documentAs .sparse .other = .ok content ∧
      item.get? "content" = some content
  tool : item.get? "tool_name" = entry.toolName.map .text
  call : item.get? "tool_call_id" = entry.toolCallId.map .text

theorem PlanEntry.shownAs_of_view {entry : PlanEntry} {item : Fields}
    (viewed : entry.view = .ok item) :
    entry.ShownAs item ∧ item.get? "draw_count" = none ∧ item.get? "generation_id" = none ∧
      item.get? currentMark = none := by
  obtain ⟨dump, dumped, viewed⟩ := bind_eq_ok.1 viewed
  obtain ⟨content, contentDumped, dumped⟩ := bind_eq_ok.1 dumped
  obtain ⟨arguments, _, dumped⟩ := bind_eq_ok.1 dumped
  cases dumped
  cases viewed
  have read (name : String) := Fields.get?_hide
    [("kind", .text entry.kind.name), ("role", .text entry.role.name), ("content", content),
      ("tool_name", .ofText? entry.toolName), ("tool_call_id", .ofText? entry.toolCallId),
      ("arguments", arguments), ("draw_count", .int entry.drawCount)]
    ("draw_count" :: nullField "content" entry.content ++ absentField "tool_name" entry.toolName ++
      absentField "tool_call_id" entry.toolCallId ++ nullField "arguments" entry.arguments) name
  simp only [List.mem_append, List.mem_cons, mem_absentField, mem_nullField, Fields.get?_cons]
    at read
  refine ⟨⟨?_, ?_, fun given => ⟨content, contentDumped, ?_⟩, ?_, ?_⟩, ?_, ?_, ?_⟩
  · simpa using read "kind"
  · simpa using read "role"
  · simpa [given] using read "content"
  · cases named : entry.toolName with
    | none => simpa [named] using read "tool_name"
    | some name => simpa [named, Datum.ofText?] using read "tool_name"
  · cases named : entry.toolCallId with
    | none => simpa [named] using read "tool_call_id"
    | some callId => simpa [named, Datum.ofText?] using read "tool_call_id"
  · simpa using read "draw_count"
  · simpa using read "generation_id"
  · simpa [currentMark] using read currentMark

theorem PlanEntry.ShownAs.mark {entry : PlanEntry} {item : Fields} (shown : entry.ShownAs item) :
    entry.ShownAs (item.set currentMark (.bool true)) := by
  have other (name : String) (unlike : currentMark ≠ name) :
      (item.set currentMark (.bool true)).get? name = item.get? name := by
    rw [Fields.get?_set, if_neg unlike]
  refine ⟨?_, ?_, ?_, ?_, ?_⟩
  · rw [other _ (by decide), shown.kind]
  · rw [other _ (by decide), shown.role]
  · rw [other _ (by decide)]
    exact shown.content
  · rw [other _ (by decide), shown.tool]
  · rw [other _ (by decide), shown.call]

/-- What is shown of a message that has been made. -/
structure Message.ShownAs (message : Message) (item : Fields) : Prop where
  role : item.get? "role" = some (.text message.role.name)
  content : message.content.isNull = false →
    ∃ content, message.content.documentAs .sparse .other = .ok content ∧
      item.get? "content" = some content
  calls : ∀ calls, message.toolCalls = some calls →
    ∃ parts, calls.mapM (CallPart.documentAs .sparse) = .ok parts ∧
      item.get? "tool_calls" = some (.list (parts.map Fields.toDatum))
  answers : item.get? "tool_call_id" = message.toolCallId.map .text
  tool : item.get? "name" = message.name.map .text

theorem mapM_toDatum {α : Type} (document : α → Except Datum.NoDocument Fields) {parts : List α}
    {data : List Datum}
    (documented : (parts.mapM fun part => do return Fields.toDatum (← document part)) = .ok data) :
    ∃ documents, parts.mapM document = .ok documents ∧ data = documents.map Fields.toDatum := by
  induction parts generalizing data with
  | nil =>
      cases documented
      exact ⟨[], rfl, rfl⟩
  | cons part parts ih =>
      rw [List.mapM_cons] at documented
      obtain ⟨first, read, documented⟩ := bind_eq_ok.1 documented
      obtain ⟨fields, dumped, same⟩ := bind_eq_ok.1 read
      cases same
      obtain ⟨rest, read, documented⟩ := bind_eq_ok.1 documented
      cases documented
      obtain ⟨documents, all, rfl⟩ := ih read
      refine ⟨fields :: documents, ?_, rfl⟩
      rw [List.mapM_cons, dumped, all]
      rfl

theorem Message.shownAs_of_view {message : Message} {item : Fields}
    (viewed : message.view = .ok item) :
    message.ShownAs item ∧ item.get? "draw_count" = none ∧ item.get? "generation_id" = none ∧
      item.get? currentMark = none := by
  obtain ⟨dump, dumped, viewed⟩ := bind_eq_ok.1 viewed
  obtain ⟨content, contentDumped, dumped⟩ := bind_eq_ok.1 dumped
  obtain ⟨calls, callsDumped, dumped⟩ := bind_eq_ok.1 dumped
  cases dumped
  cases viewed
  have read (name : String) := Fields.get?_hide
    [("role", .text message.role.name), ("content", content),
      ("tool_calls", (calls.map Datum.list).getD .null),
      ("tool_call_id", .ofText? message.toolCallId), ("name", .ofText? message.name),
      ("generation_id", .text message.generationId)]
    ("generation_id" :: nullField "content" message.content ++
      absentField "tool_calls" message.toolCalls ++
      absentField "tool_call_id" message.toolCallId ++ absentField "name" message.name) name
  simp only [List.mem_append, List.mem_cons, mem_absentField, mem_nullField, Fields.get?_cons]
    at read
  refine ⟨⟨?_, fun given => ⟨content, contentDumped, ?_⟩, fun parts given => ?_, ?_, ?_⟩, ?_, ?_, ?_⟩
  · simpa using read "role"
  · simpa [given] using read "content"
  · rw [given] at callsDumped
    obtain ⟨data, documented, same⟩ := bind_eq_ok.1 callsDumped
    cases same
    obtain ⟨documents, all, rfl⟩ := mapM_toDatum _ documented
    exact ⟨documents, all, by simpa [given] using read "tool_calls"⟩
  · cases named : message.toolCallId with
    | none => simpa [named] using read "tool_call_id"
    | some callId => simpa [named, Datum.ofText?] using read "tool_call_id"
  · cases named : message.name with
    | none => simpa [named] using read "name"
    | some name => simpa [named, Datum.ofText?] using read "name"
  · simpa using read "draw_count"
  · simpa using read "generation_id"
  · simpa [currentMark] using read currentMark

/-- The flow of a conversation of which the first messages are made. -/
structure IsFlow (messages : List Message) (entries : List PlanEntry) (items : List Fields) :
    Prop where
  length : items.length = entries.length
  made : ∀ (place : Nat) message item, messages[place]? = some message →
    items[place]? = some item → message.view = .ok item ∧ message.ShownAs item
  planned : ∀ (place : Nat) entry item, messages.length ≤ place → entries[place]? = some entry →
    items[place]? = some item → entry.ShownAs item ∧
      ∃ view, entry.view = .ok view ∧
        item = if place = messages.length then view.set currentMark (.bool true) else view
  marked : ∀ (place : Nat) item, items[place]? = some item →
    item.get? currentMark = if place = messages.length then some (.bool true) else none
  hidden : ∀ item ∈ items, item.get? "generation_id" = none ∧ item.get? "draw_count" = none

theorem Context.viewsFrom_eq_ok {context : Context} {position : Nat} {entries : List PlanEntry}
    {items : List Fields} (viewed : context.viewsFrom position entries = .ok items) :
    items.length = entries.length ∧ ∀ (place : Nat) item, items[place]? = some item →
      ∃ entry, entries[place]? = some entry ∧
        context.viewAt (position + place) entry = .ok item := by
  induction entries generalizing position items with
  | nil =>
      cases viewed
      exact ⟨rfl, fun place item here => nomatch here⟩
  | cons entry entries ih =>
      obtain ⟨first, shown, viewed⟩ := bind_eq_ok.1 viewed
      obtain ⟨rest, later, same⟩ := bind_eq_ok.1 viewed
      cases same
      obtain ⟨length, views⟩ := ih later
      refine ⟨congrArg Nat.succ length, fun place item here => ?_⟩
      cases place with
      | zero =>
          cases here
          exact ⟨entry, rfl, shown⟩
      | succ place =>
          obtain ⟨entry, there, shown⟩ := views place item here
          refine ⟨entry, there, ?_⟩
          rw [show position + (place + 1) = position + 1 + place by omega]
          exact shown

/-- The item of an entry is that of its message, or else its plan. -/
theorem Context.viewAt_eq_ok {context : Context} {place : Nat} {entry : PlanEntry} {item : Fields}
    (viewed : context.viewAt place entry = .ok item) :
    (∃ message, context.messages[place]? = some message ∧ message.view = .ok item) ∨
      (context.messages.length ≤ place ∧ ∃ view, entry.view = .ok view ∧
        item = if place = context.messages.length then view.set currentMark (.bool true)
          else view) := by
  unfold viewAt at viewed
  split at viewed
  next message made => exact .inl ⟨message, made, viewed⟩
  next ahead =>
    refine .inr ⟨List.getElem?_eq_none_iff.1 ahead, ?_⟩
    split at viewed
    next here =>
      obtain ⟨view, shown, same⟩ := bind_eq_ok.1 viewed
      cases same
      exact ⟨view, shown, (if_pos here).symm⟩
    next there => exact ⟨item, viewed, (if_neg there).symm⟩

theorem Context.marks_viewAt {context : Context} {place : Nat} {entry : PlanEntry} {item : Fields}
    (viewed : context.viewAt place entry = .ok item) :
    item.get? currentMark = (if place = context.messages.length then some (.bool true) else none) ∧
      item.get? "generation_id" = none ∧ item.get? "draw_count" = none := by
  rcases viewAt_eq_ok viewed with ⟨message, made, shown⟩ | ⟨_, view, planned, rfl⟩
  · obtain ⟨_, draws, generation, unmarked⟩ := Message.shownAs_of_view shown
    have before := (List.getElem?_eq_some_iff.1 made).1
    exact ⟨by rw [unmarked, if_neg (Nat.ne_of_lt before)], generation, draws⟩
  · obtain ⟨_, draws, generation, unmarked⟩ := PlanEntry.shownAs_of_view planned
    split
    · simp only [Fields.get?_set, generation, draws, if_true, true_and]
      decide
    · exact ⟨unmarked, generation, draws⟩

theorem Context.isFlow_of_flow {context : Context} {items : List Fields}
    (viewed : context.flow = .ok items) :
    IsFlow context.messages context.plan.entries items := by
  obtain ⟨length, views⟩ := viewsFrom_eq_ok viewed
  simp only [Nat.zero_add] at views
  refine ⟨length, ?_, ?_, ?_, ?_⟩
  · intro place message item made here
    obtain ⟨entry, _, viewed⟩ := views place item here
    rcases viewAt_eq_ok viewed with ⟨other, made', viewed⟩ | ⟨ahead, _⟩
    · rw [made] at made'
      cases made'
      exact ⟨viewed, (Message.shownAs_of_view viewed).1⟩
    · exact absurd (List.getElem?_eq_some_iff.1 made).1 (Nat.not_lt.2 ahead)
  · intro place entry item ahead there here
    obtain ⟨other, there', viewed⟩ := views place item here
    rw [there] at there'
    cases there'
    rcases viewAt_eq_ok viewed with ⟨message, made, _⟩ | ⟨_, view, planned, rfl⟩
    · exact absurd (List.getElem?_eq_some_iff.1 made).1 (Nat.not_lt.2 ahead)
    · refine ⟨?_, view, planned, rfl⟩
      have shown := (PlanEntry.shownAs_of_view planned).1
      split
      · exact shown.mark
      · exact shown
  · intro place item here
    obtain ⟨entry, _, viewed⟩ := views place item here
    exact (marks_viewAt viewed).1
  · intro item member
    obtain ⟨place, here⟩ := List.mem_iff_getElem?.1 member
    obtain ⟨entry, _, viewed⟩ := views place item here
    exact (marks_viewAt viewed).2

/-- The text of the flow that a context shows. -/
theorem Context.flowText_eq_ok {context : Context} {text : String}
    (written : context.flowText = .ok text) :
    ∃ items, IsFlow context.messages context.plan.entries items ∧
      jsonText .pretty (.list (items.map Fields.toDatum)) = .ok text := by
  obtain ⟨items, viewed, written⟩ := bind_eq_ok.1 written
  exact ⟨items, isFlow_of_flow (mapError_eq_ok.1 viewed), written⟩

/-- The system prompt of a leaf around the text of a flow. -/
def Leaf.PromptsWith (flow system : String) : Leaf → Prop
  | fixed _ _ => False
  | written role _ => ∃ target tools, role.asKey = .ok target ∧
      system = Prompt.messageSystem target.spoken flow tools
  | call use => system =
      Prompt.argumentsSystem use.tool.name use.tool.description flow (extraInstructions use.prompt)
  | result answer => ∃ arguments, system =
      Prompt.resultSystem answer.tool.name answer.tool.description flow arguments
        (extraInstructions answer.prompt)

theorem Leaf.promptsWith_request {leaf : Leaf} {context : Context} {request : ModelRequest}
    (requests : leaf.request? context = some (.ok request)) :
    ∃ flow, context.flowText = .ok flow ∧ leaf.PromptsWith flow request.systemPrompt := by
  cases leaf with
  | fixed role content => cases requests
  | written role prompt =>
      obtain ⟨target, key, made⟩ := bind_eq_ok.1 (Option.some.inj requests)
      obtain ⟨flow, text, made⟩ := bind_eq_ok.1 made
      obtain ⟨tools, _, made⟩ := bind_eq_ok.1 made
      cases made
      exact ⟨flow, text, target, tools, key, rfl⟩
  | call use =>
      simp only [request?] at requests
      split at requests
      · obtain ⟨flow, text, made⟩ := bind_eq_ok.1 (Option.some.inj requests)
        obtain ⟨schema, _, made⟩ := bind_eq_ok.1 made
        cases made
        exact ⟨flow, text, rfl⟩
      · cases requests
  | result answer =>
      simp only [request?] at requests
      split at requests
      · obtain ⟨flow, text, made⟩ := bind_eq_ok.1 (Option.some.inj requests)
        obtain ⟨arguments, _, made⟩ := bind_eq_ok.1 made
        obtain ⟨schema, _, made⟩ := bind_eq_ok.1 made
        cases made
        exact ⟨flow, text, arguments, rfl⟩
      · cases requests

section

variable {μ : Type} {making : Making}
variable {environment : Environment Shared μ ModelCall (Except Error Reply)}

/-- The call shows the flow of the conversation to which the attempt adds. -/
def Attempt.Shows (entries : List PlanEntry) (attempt : Attempt μ) (call : ModelCall) : Prop :=
  ∃ items flow system, IsFlow attempt.walk.context.messages entries items ∧
    jsonText .pretty (.list (items.map Fields.toDatum)) = .ok flow ∧
    attempt.leaf.PromptsWith flow system ∧
    call.messages.head? = some (promptMessage "system" system)

/-- The call is sent for the leaf of the attempt, with the extra messages that are collected for it. -/
def Attempt.Sends (making : Making)
    (environment : Environment Shared μ ModelCall (Except Error Reply)) (attempt : Attempt μ)
    (call : ModelCall) : Prop :=
  ∃ request extra after later,
    attempt.leaf.request? attempt.walk.context = some (.ok request) ∧
    ((extraMessages making.extras request.target).follow attempt.walk).run environment attempt.both =
      (.ok (extra, after), later) ∧
    call = ⟨request.form, request.messages extra⟩

/-- What is asked for a leaf is at most one call that is sent for it, behind what is asked while the
extra messages are collected. -/
theorem Attempt.sends_exchanges (making : Making)
    (environment : Environment Shared μ ModelCall (Except Error Reply)) (attempt : Attempt μ) :
    ∃ others own, attempt.exchanges making environment = others ++ own ∧
      (others = [] ∨ ∃ target,
        others = attempt.walk.collecting making environment target attempt.both) ∧
      own.length ≤ 1 ∧ ∀ exchange ∈ own, attempt.Sends making environment exchange.1 := by
  unfold Attempt.exchanges
  rcases attempt.walk.asks_makeMessage attempt.leaf attempt.both with
    ⟨_, asked⟩ | ⟨made, requests, asked⟩
  · exact ⟨[], [], asked, .inl rfl, Nat.zero_le 1, fun _ member => nomatch member⟩
  · generalize (attempt.walk.makeMessage making attempt.leaf).exchanges environment attempt.both =
      exchanges at asked ⊢
    generalize ((attempt.walk.makeMessage making attempt.leaf).run environment
      attempt.both).1.isOk = replied at asked
    cases asked with
    | nothing => exact ⟨[], [], rfl, .inl rfl, Nat.zero_le 1, fun _ member => nomatch member⟩
    | @collecting request known =>
        exact ⟨_, [], (List.append_nil _).symm, .inr ⟨request.target, rfl⟩, Nat.zero_le 1,
          fun _ member => nomatch member⟩
    | @sending request known extra after later collected answer =>
        refine ⟨_, [_], rfl, .inr ⟨request.target, rfl⟩, Nat.le_refl 1, fun exchange member => ?_⟩
        cases List.mem_singleton.1 member
        exact ⟨request, extra, after, later, known ▸ requests, collected, rfl⟩

/-- What is asked for a leaf is at most one call, which shows the flow, behind what is asked while the
extra messages are collected. -/
theorem Attempt.shows_exchanges (making : Making)
    (environment : Environment Shared μ ModelCall (Except Error Reply)) (attempt : Attempt μ) :
    ∃ others own, attempt.exchanges making environment = others ++ own ∧
      (others = [] ∨ ∃ target,
        others = attempt.walk.collecting making environment target attempt.both) ∧
      own.length ≤ 1 ∧
      ∀ exchange ∈ own, attempt.Shows attempt.walk.context.plan.entries exchange.1 := by
  obtain ⟨others, own, asked, collecting, atMost, sends⟩ :=
    attempt.sends_exchanges making environment
  refine ⟨others, own, asked, collecting, atMost, fun exchange member => ?_⟩
  obtain ⟨request, extra, after, later, requests, _, sent⟩ := sends exchange member
  obtain ⟨flow, text, prompts⟩ := Leaf.promptsWith_request requests
  obtain ⟨items, isFlow, written⟩ := Context.flowText_eq_ok text
  exact ⟨items, flow, request.systemPrompt, isFlow, written, prompts, by rw [sent]; rfl⟩

/-- The attempt at a place of a chain is at the leaf that its entry announces. -/
theorem Attempt.Chain.reaches {plan : Plan} {before entries : List PlanEntry} {visits : List Visit}
    {attempts : List (Attempt μ)} {complete : Bool}
    (chain : Attempt.Chain making environment plan before visits entries attempts complete)
    {place : Nat} {attempt : Attempt μ} (here : attempts[place]? = some attempt) :
    ∃ visit entry, entries[place]? = some entry ∧ visit.AnnouncedBy entry ∧
      attempt.Reaches plan (before ++ entries.take place) visit := by
  induction chain generalizing place with
  | ended before complete => exact nomatch here
  | @failed before entries visits visit entry other announced reaches =>
      cases place with
      | zero =>
          cases here
          exact ⟨visit, entry, rfl, announced, (List.append_nil before).symm ▸ reaches⟩
      | succ place => exact nomatch here
  | @made before entries visits attempts complete visit entry other announced reaches makes _ ih =>
      cases place with
      | zero =>
          cases here
          exact ⟨visit, entry, rfl, announced, (List.append_nil before).symm ▸ reaches⟩
      | succ place =>
          obtain ⟨visit, entry', there, announced, reaches⟩ := ih here
          refine ⟨visit, entry', there, announced, ?_⟩
          rw [List.take_succ_cons, List.append_cons]
          exact reaches

/-- If nobody else changes the pool, and what a caller adds to the prompts draws nothing or a draw would
be noticed, then every call of the generate phase shows the true state of the conversation: of the
messages made so far, of the entries to come, and of the one that announces the leaf it is for. -/
theorem flows_of_generate (respects : environment.Respects (.undisturbed fun _ => True))
    (keepsDraws : making.KeepsDraws fun _ => True) {root : Item} (drawing : root.WrittenIn .drawing)
    (seed rowIndex : Option Int) (stream : Random.Stream) (metadata : Entries)
    (before between : Shared × μ) (samePool : between.1.pool = before.1.pool) {plan : Plan}
    {walk : Walk} (checked : ((check root seed rowIndex stream metadata).run environment before).1 =
      .ok (plan, walk)) :
    let attempts := attemptsOf making environment root seed rowIndex walk.context.stream plan between
    (generate making root seed rowIndex walk.context.stream plan).exchanges environment between =
        attempts.flatMap (Attempt.exchanges making environment) ∧
      ∀ (place : Nat) attempt, attempts[place]? = some attempt →
        attempt.walk.context.messages.length = place ∧
        ∃ entry draws, plan.entries[place]? = some entry ∧
          Visit.AnnouncedBy ⟨attempt.leaf, draws⟩ entry ∧
          ∃ others own, attempt.exchanges making environment = others ++ own ∧
            (others = [] ∨ ∃ target,
              others = attempt.walk.collecting making environment target attempt.both) ∧
            own.length ≤ 1 ∧ ∀ exchange ∈ own, attempt.Shows plan.entries exchange.1 := by
  intro attempts
  have silent := (Item.writtenIn_script drawing .done).silent
  refine ⟨exchanges_generate silent seed rowIndex walk.context.stream plan between, ?_⟩
  intro place attempt here
  obtain ⟨complete, chain, _⟩ := chain_of_check respects keepsDraws drawing samePool checked
  obtain ⟨visit, entry, there, announced, leaf, samePlan, met⟩ := chain.reaches here
  obtain ⟨within, _⟩ := List.getElem?_eq_some_iff.1 there
  have made := met.length_eq
  rw [List.nil_append, List.length_take, Nat.min_eq_left (Nat.le_of_lt within)] at made
  refine ⟨made.symm, entry, visit.draws, there, leaf ▸ announced, ?_⟩
  obtain ⟨others, own, asked, collecting, atMost, shows⟩ :=
    attempt.shows_exchanges making environment
  rw [samePlan] at shows
  exact ⟨others, own, asked, collecting, atMost, shows⟩

end

/-- A question, and one of two orders that is drawn. -/
def forkedTalk : Item :=
  .list [.node (.leaf (.written (.text "user") (.text "Ask"))),
    .node (.oneOf [.plain (.node (.leaf (.written (.text "user") (.text "Go on")))),
      .plain (.node (.leaf (.written (.text "user") (.text "Stop"))))] none)]

def forkedCheck : Except Halt (Plan × Walk) :=
  ((check forkedTalk (some 7) none (.ofSource (.scripted [0.25, 0.75])) []).run .quiet
    (⟨.fresh, #[]⟩, ())).1

/-- The attempts that follow, with extra messages whose source draws. -/
def forkedAttempts (verifyDraws : Bool) (walk : Walk) (plan : Plan) : List (Attempt Unit) :=
  attemptsOf ⟨true, some drawingExtras, verifyDraws, false⟩ .quiet forkedTalk (some 7) none
    walk.context.stream plan (⟨.fresh, #[]⟩, ())

theorem flows_of_generate_forkedTalk :
    ∃ plan walk, forkedCheck = .ok (plan, walk) ∧
      ∀ (place : Nat) attempt, (forkedAttempts true walk plan)[place]? = some attempt →
        attempt.walk.context.messages.length = place ∧
        ∃ entry draws, plan.entries[place]? = some entry ∧
          Visit.AnnouncedBy ⟨attempt.leaf, draws⟩ entry := by
  have returns : forkedCheck.isOk = true := by decide +kernel
  cases checked : forkedCheck with
  | error halt =>
      rw [checked] at returns
      cases returns
  | ok pair =>
      obtain ⟨plan, walk⟩ := pair
      have drawing : forkedTalk.WrittenIn .drawing :=
        ⟨trivial, ⟨trivial, trivial, trivial, trivial⟩, trivial⟩
      refine ⟨plan, walk, rfl, fun place attempt here => ?_⟩
      obtain ⟨made, entry, draws, there, announced, _⟩ :=
        (flows_of_generate (Environment.quiet_respects _) (.inl rfl) drawing (some 7) none
          (.ofSource (.scripted [0.25, 0.75])) [] (⟨.fresh, #[]⟩, ()) (⟨.fresh, #[]⟩, ()) rfl
          checked).2 place attempt here
      exact ⟨made, entry, draws, there, announced⟩

/-- What is attempted and planned at a place after a check, and how much is asked for it. -/
def forkedAt (place : Nat) : Except Halt (Plan × Walk) → Option (String × String × Nat)
  | .ok (plan, walk) => do
      let attempt ← (forkedAttempts false walk plan)[place]?
      let entry ← plan.entries[place]?
      return (attempt.leaf.content.spoken, entry.content.spoken,
        (attempt.exchanges ⟨true, some drawingExtras, false, false⟩ .quiet).length)
  | .error _ => none

/-- If nobody verifies the draws, then a source of extra messages that draws leads the generate phase
astray: the prompt for one leaf shows the plan of another. -/
theorem stray_forkedTalk :
    ∃ plan walk attempt entry, forkedCheck = .ok (plan, walk) ∧
      (forkedAttempts false walk plan)[1]? = some attempt ∧ plan.entries[1]? = some entry ∧
      (attempt.exchanges ⟨true, some drawingExtras, false, false⟩ .quiet).length = 1 ∧
      ∀ draws, ¬Visit.AnnouncedBy ⟨attempt.leaf, draws⟩ entry := by
  have read : forkedAt 1 forkedCheck = some ("Stop", "Go on", 1) := by decide +kernel
  cases checked : forkedCheck with
  | error halt =>
      rw [checked] at read
      cases read
  | ok pair =>
      obtain ⟨plan, walk⟩ := pair
      rw [checked] at read
      obtain ⟨attempt, here, read⟩ := Option.bind_eq_some_iff.1 read
      obtain ⟨entry, there, read⟩ := Option.bind_eq_some_iff.1 read
      simp only [Option.pure_def, Option.some.injEq, Prod.mk.injEq] at read
      refine ⟨plan, walk, attempt, entry, rfl, here, there, read.2.2, fun draws announced => ?_⟩
      have alike : entry.content.spoken = attempt.leaf.content.spoken :=
        congrArg Datum.spoken announced.content
      rw [read.1, read.2.1] at alike
      exact absurd alike (by decide)

end Colloquy
