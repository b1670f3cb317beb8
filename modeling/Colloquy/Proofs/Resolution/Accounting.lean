import Colloquy.Proofs.Resolution.Arguments
import Colloquy.Proofs.Resolution.Asking
import Colloquy.Proofs.Resolution.Attempts

/-!
# Accounts of model calls

What the model is asked follows from the plan. A message that is to be written takes one call; a tool
call takes one unless it repeats an earlier call, is given its arguments or has none; a result takes
one unless it is given or the tool returns nothing. These calls are made in the order of the entries.
If the generate phase fails, then the first of them have been made.
-/

set_option autoImplicit false

namespace Colloquy

/-- The entry is a call under the id, or under the id that the given one is deferred from. -/
def PlanEntry.isCallOf (callId : String) (entry : PlanEntry) : Bool :=
  entry.kind = .toolCall &&
    (entry.toolCallId = some callId || entry.toolCallId.map (· ++ finalSuffix) = some callId)

/-- The id under which an earlier call is looked for. -/
def ToolCall.lookupId (use : ToolCall) : Datum :=
  if use.reuseFrom.isTruthy then use.reuseFrom else use.callId

/-- One of the entries is a call whose arguments are used again. -/
def ToolCall.isRepeated (before : List PlanEntry) (use : ToolCall) : Bool :=
  match use.lookupId with
  | .text callId => before.any (PlanEntry.isCallOf callId)
  | _ => false

/-- The object that has to be written by a shape, if the shape has fields. -/
def Shape.written : Option Shape → List ReplyForm
  | some shape => if Shape.hasFields (some shape) then [.object shape] else []
  | none => []

/-- What the model is asked to write for a leaf that comes behind some entries. -/
def Leaf.asks (before : List PlanEntry) : Leaf → List ReplyForm
  | fixed _ _ => []
  | written _ _ => [.text]
  | call use =>
      if use.isRepeated before || !use.arguments.isNull then [] else Shape.written use.tool.parameters
  | result answer => if answer.result.isSome then [] else Shape.written answer.tool.output

/-- What the model is asked to write for visited leaves and their entries, behind some others. -/
def asksBehind (before : List PlanEntry) : List Visit → List PlanEntry → List ReplyForm
  | visit :: visits, entry :: entries =>
      visit.leaf.asks before ++ asksBehind (before ++ [entry]) visits entries
  | _, _ => []

theorem mem_lookupIds_iff {id callId : String} :
    id ∈ Context.lookupIds callId ↔ id = callId ∨ id ++ finalSuffix = callId := by
  simp only [Context.lookupIds, List.mem_cons, List.not_mem_nil, or_false]
  by_cases deferred : ∃ base, callId = base ++ finalSuffix
  · obtain ⟨base, rfl⟩ := deferred
    rw [normalizeCallId_append]
    refine or_congr_right ⟨fun same => by rw [same], fun same => ?_⟩
    have same : id.toList ++ finalSuffix.toList = base.toList ++ finalSuffix.toList := by
      rw [← String.toList_append, ← String.toList_append, same]
    exact String.toList_injective (List.append_cancel_right same)
  · have plain : ∀ base, callId ≠ base ++ finalSuffix := fun base same => deferred ⟨base, same⟩
    rw [normalizeCallId_of_plain plain]
    constructor
    · rintro (same | same) <;> exact .inl same
    · rintro (same | same)
      · exact .inl same
      · exact absurd same.symm (plain id)

theorem PlanEntry.isCallOf_iff {entry : PlanEntry} {callId : String} :
    entry.isCallOf callId = true ↔
      entry.kind = .toolCall ∧ ∃ id ∈ Context.lookupIds callId, entry.toolCallId = some id := by
  simp only [isCallOf, Bool.and_eq_true, Bool.or_eq_true, decide_eq_true_eq]
  refine and_congr_right fun _ => ?_
  cases entry.toolCallId with
  | none => simp
  | some id =>
      simp only [Option.some.injEq, Option.map_some, ← mem_lookupIds_iff]
      constructor
      · exact fun member => ⟨id, member, rfl⟩
      · rintro ⟨_, member, rfl⟩
        exact member

/-- A call is found under an id exactly if an entry is planned under it. -/
theorem findExactly_met {before : List PlanEntry} {messages : List Message}
    (met : List.Forall₂ PlanEntry.MetBy before messages) (id : String) :
    (Context.findExactly messages id).isSome ↔
      ∃ entry ∈ before, entry.kind = .toolCall ∧ entry.toolCallId = some id := by
  induction met with
  | nil => simp [Context.findExactly]
  | @cons entry message before messages meets _ ih =>
      have first : (if message.kind = .toolCall then
          (message.toolCalls.getD []).find? fun part => part.id = id else none).isSome ↔
          entry.kind = .toolCall ∧ entry.toolCallId = some id := by
        rw [meets.kind]
        by_cases calls : entry.kind = .toolCall
        · obtain ⟨call, makes, named⟩ := meets.call calls
          simp [calls, makes.only, named]
        · simp [calls]
      have whole : Context.findExactly (message :: messages) id =
          (if message.kind = .toolCall then
            (message.toolCalls.getD []).find? fun part => part.id = id else none).or
            (Context.findExactly messages id) := by
        unfold Context.findExactly
        rw [List.findSome?_cons]
        split <;> rename_i read <;> rw [read] <;> rfl
      rw [whole, Option.isSome_or, Bool.or_eq_true, first, ih]
      simp only [List.mem_cons, exists_eq_or_imp]

theorem findToolCall_met {before : List PlanEntry} {context : Context}
    (met : List.Forall₂ PlanEntry.MetBy before context.messages) (callId : String) :
    (context.findToolCall callId).isSome = before.any (PlanEntry.isCallOf callId) := by
  rw [Bool.eq_iff_iff, List.any_eq_true]
  unfold Context.findToolCall Context.findCall
  simp only [List.findSome?_isSome_iff, findExactly_met met, PlanEntry.isCallOf_iff]
  constructor
  · rintro ⟨id, listed, entry, member, calls, named⟩
    exact ⟨entry, member, calls, id, listed, named⟩
  · rintro ⟨entry, member, calls, id, listed, named⟩
    exact ⟨id, listed, entry, member, calls, named⟩

/-- What is still to be written of a call or of a result, if it is not known. -/
def ArgumentSource.asks : ArgumentSource → List ReplyForm
  | known _ => []
  | model shape => [.object shape]

def ResultSource.asks : ResultSource → List ReplyForm
  | known _ => []
  | model shape _ => [.object shape]

theorem ToolCall.asks_source {before : List PlanEntry} {context : Context}
    (met : List.Forall₂ PlanEntry.MetBy before context.messages) {use : ToolCall}
    {source : ArgumentSource} (found : use.source context = .ok source) :
    (Leaf.call use).asks before = source.asks := by
  obtain ⟨callId, named, found⟩ := bind_eq_ok.1 found
  have lookup : use.lookupId = .text callId := Datum.asCallId_eq_ok.1 named
  have repeats : use.isRepeated before = (context.findToolCall callId).isSome := by
    rw [findToolCall_met met, isRepeated, lookup]
  simp only [Leaf.asks, repeats]
  cases earlier : context.findToolCall callId with
  | some call =>
      rw [earlier] at found
      cases found
      rfl
  | none =>
      rw [earlier] at found
      dsimp only at found
      split at found
      · cases found
      · split at found
        next given =>
          obtain ⟨arguments, _, found⟩ := bind_eq_ok.1 found
          cases found
          simp [given, ArgumentSource.asks]
        next absent =>
          have absent : use.arguments.isNull = true := by simpa using absent
          simp only [Option.isSome_none, absent, Bool.not_true, Bool.or_self, Bool.false_eq_true,
            if_false]
          unfold ToolDefinition.takesArguments at found
          cases taken : use.tool.parameters with
          | none =>
              rw [taken] at found
              cases found
              rfl
          | some shape =>
              simp only [taken, Shape.written] at found ⊢
              by_cases filled : Shape.hasFields (some shape) = true
              · rw [if_pos filled] at found ⊢
                cases found
                rfl
              · rw [if_neg filled] at found ⊢
                cases found
                rfl

theorem ToolResult.asks_source {before : List PlanEntry} {context : Context} {answer : ToolResult}
    {callId : String} {source : ResultSource}
    (found : answer.source context = .ok (callId, source)) :
    (Leaf.result answer).asks before = source.asks := by
  obtain ⟨wanted, _, found⟩ := bind_eq_ok.1 found
  simp only [Leaf.asks]
  split at found
  · cases found
  · cases given : answer.result with
    | some result =>
        rw [given] at found
        cases found
        rfl
    | none =>
        rw [given] at found
        dsimp only at found
        unfold ToolDefinition.returnsValue at found
        simp only [Option.isSome_none, Bool.false_eq_true, if_false]
        cases returned : answer.tool.output with
        | none =>
            rw [returned] at found
            cases found
            rfl
        | some shape =>
            simp only [returned, Shape.written] at found ⊢
            by_cases filled : Shape.hasFields (some shape) = true
            · rw [if_pos filled] at found ⊢
              cases found
              rfl
            · rw [if_neg filled] at found ⊢
              cases found
              rfl

/-- The request of a leaf is for what is still to be written of it. -/
theorem Leaf.asks_request {before : List PlanEntry} {context : Context}
    (met : List.Forall₂ PlanEntry.MetBy before context.messages) {leaf : Leaf}
    {request : ModelRequest} (requests : leaf.request? context = some (.ok request)) :
    leaf.asks before = [request.form] := by
  cases leaf with
  | fixed role content => cases requests
  | written role prompt =>
      obtain ⟨_, _, made⟩ := bind_eq_ok.1 (Option.some.inj requests)
      obtain ⟨_, _, made⟩ := bind_eq_ok.1 made
      obtain ⟨_, _, made⟩ := bind_eq_ok.1 made
      cases made
      rfl
  | call use =>
      simp only [request?] at requests
      rcases found : use.source context with error | ⟨arguments⟩ | ⟨shape⟩
      · simp only [found] at requests
        cases requests
      · simp only [found] at requests
        cases requests
      · simp only [found] at requests
        rw [ToolCall.asks_source met found]
        obtain ⟨_, _, made⟩ := bind_eq_ok.1 (Option.some.inj requests)
        obtain ⟨_, _, made⟩ := bind_eq_ok.1 made
        cases made
        rfl
  | result answer =>
      simp only [request?] at requests
      rcases found : answer.source context with error | ⟨callId, ⟨result⟩ | ⟨shape, arguments⟩⟩
      · simp only [found] at requests
        cases requests
      · simp only [found] at requests
        cases requests
      · simp only [found] at requests
        rw [ToolResult.asks_source found]
        obtain ⟨_, _, made⟩ := bind_eq_ok.1 (Option.some.inj requests)
        obtain ⟨_, _, made⟩ := bind_eq_ok.1 made
        obtain ⟨_, _, made⟩ := bind_eq_ok.1 made
        cases made
        rfl

section

variable {μ : Type} {making : Making}
variable {environment : Environment Shared μ ModelCall (Except Error Reply)}

/-- A leaf that is made without a request has nothing to be written. -/
theorem Leaf.asks_of_makes {before : List PlanEntry} {attempt : Attempt μ}
    (met : List.Forall₂ PlanEntry.MetBy before attempt.walk.context.messages)
    (known : attempt.leaf.request? attempt.walk.context = none)
    (makes : attempt.Makes making environment) : attempt.leaf.asks before = [] := by
  obtain ⟨message, after, made⟩ := makes
  cases leaf : attempt.leaf with
  | fixed role content => rfl
  | written role prompt =>
      rw [leaf] at known
      cases known
  | call use =>
      rw [leaf] at known made
      simp only [request?] at known
      simp only [Walk.makeMessage] at made
      rcases found : use.source attempt.walk.context with error | ⟨arguments⟩ | ⟨shape⟩
      · rw [found] at made
        cases made
      · exact ToolCall.asks_source met found
      · simp only [found] at known
        cases known
  | result answer =>
      rw [leaf] at known made
      simp only [request?] at known
      simp only [Walk.makeMessage] at made
      rcases found : answer.source attempt.walk.context with
        error | ⟨callId, ⟨result⟩ | ⟨shape, arguments⟩⟩
      · rw [found] at made
        cases made
      · exact ToolResult.asks_source found
      · simp only [found] at known
        cases known

/-- Code that collects extra messages asks the model nothing. -/
def Making.IsMute (making : Making) : Prop :=
  ∀ target walk, ((extraMessages making.extras target).follow walk).IsSilent

/-- The forms of the calls that are made. -/
def formsOf (exchanges : List (ModelCall × Except Error Reply)) : List ReplyForm :=
  exchanges.map fun exchange => exchange.1.form

/-- What is asked for a leaf is what is to be written of it, or nothing if the attempt fails. -/
theorem Attempt.forms_exchanges (mute : making.IsMute) {before : List PlanEntry}
    {attempt : Attempt μ}
    (met : List.Forall₂ PlanEntry.MetBy before attempt.walk.context.messages) :
    formsOf (attempt.exchanges making environment) <+: attempt.leaf.asks before ∧
      (attempt.Makes making environment →
        formsOf (attempt.exchanges making environment) = attempt.leaf.asks before) := by
  have collects (target : Datum) :
      attempt.walk.collecting making environment target attempt.both = [] :=
    (mute target attempt.walk).exchanges environment attempt.both
  unfold Attempt.exchanges
  rcases attempt.walk.asks_makeMessage attempt.leaf attempt.both with
    ⟨known, asked⟩ | ⟨made, requests, asked⟩
  · rw [asked]
    exact ⟨List.nil_prefix, fun makes => (Leaf.asks_of_makes met known makes).symm⟩
  · have makes (replied : Bool)
        (asked : ((attempt.walk.makeMessage making attempt.leaf).run environment
          attempt.both).1.isOk = replied) :
        attempt.Makes making environment → replied = true := by
      rintro ⟨message, after, made⟩
      rw [← asked, made]
      rfl
    generalize replied : ((attempt.walk.makeMessage making attempt.leaf).run environment
      attempt.both).1.isOk = answered at asked
    have makes := makes answered replied
    generalize (attempt.walk.makeMessage making attempt.leaf).exchanges environment attempt.both =
      exchanges at asked ⊢
    cases asked with
    | nothing => exact ⟨List.nil_prefix, fun made => nomatch makes made⟩
    | collecting known =>
        rw [collects]
        exact ⟨List.nil_prefix, fun made => nomatch makes made⟩
    | sending known collected answer =>
        rw [collects, Leaf.asks_request met (known ▸ requests)]
        exact ⟨List.prefix_rfl, fun _ => rfl⟩

theorem formsOf_append (first second : List (ModelCall × Except Error Reply)) :
    formsOf (first ++ second) = formsOf first ++ formsOf second :=
  List.map_append

/-- On a chain of attempts the calls are those that are expected, in order, as far as it goes. -/
theorem Attempt.Chain.forms (mute : making.IsMute) {plan : Plan} {before entries : List PlanEntry}
    {visits : List Visit} {attempts : List (Attempt μ)} {complete : Bool}
    (chain : Attempt.Chain making environment plan before visits entries attempts complete) :
    formsOf (attempts.flatMap (Attempt.exchanges making environment)) <+:
        asksBehind before visits entries ∧
      (complete = true → formsOf (attempts.flatMap (Attempt.exchanges making environment)) =
        asksBehind before visits entries) := by
  induction chain with
  | ended before complete => exact ⟨List.prefix_rfl, fun _ => rfl⟩
  | @failed before entries visits visit entry attempt announced reaches =>
      have asked : formsOf (attempt.exchanges making environment) <+: attempt.leaf.asks before :=
        (Attempt.forms_exchanges mute reaches.met).1
      rw [reaches.leaf] at asked
      simp only [List.flatMap_cons, List.flatMap_nil, List.append_nil, asksBehind]
      exact ⟨asked.trans (List.prefix_append _ _), fun absent => nomatch absent⟩
  | @made before entries visits attempts complete visit entry attempt announced reaches makes _ ih =>
      have asked := (Attempt.forms_exchanges mute reaches.met).2 makes
      rw [reaches.leaf] at asked
      simp only [List.flatMap_cons, formsOf_append, asked, asksBehind]
      exact ⟨(List.prefix_append_right_inj _).2 ih.1, fun all => by rw [ih.2 all]⟩

/-- The check phase asks the model nothing. If nobody else changes the pool, then a plan announces the
visited leaves in order, and the generate phase asks for what is to be written of them: for all of it
if it returns, and for a first part of it if it fails. A caller may add messages to the prompts by code
that neither asks the model nor draws. -/
theorem accounts_of_generate (respects : environment.Respects (.undisturbed fun _ => True))
    (mute : making.IsMute) (keepsDraws : making.KeepsDraws fun _ => True) {root : Item}
    (drawing : root.WrittenIn .drawing) (seed rowIndex : Option Int) (stream : Random.Stream)
    (metadata : Entries) (before between : Shared × μ)
    (samePool : between.1.pool = before.1.pool) :
    (check root seed rowIndex stream metadata).exchanges environment before = [] ∧
      ∀ plan walk, ((check root seed rowIndex stream metadata).run environment before).1 =
          .ok (plan, walk) →
        let visits := (root.script .done).visits stream.reset before.1.pool
        let generating := generate making root seed rowIndex walk.context.stream plan
        List.Forall₂ Visit.AnnouncedBy visits plan.entries ∧
          formsOf (generating.exchanges environment between) <+:
            asksBehind [] visits plan.entries ∧
          ((generating.run environment between).1.isOk = true →
            formsOf (generating.exchanges environment between) =
              asksBehind [] visits plan.entries) := by
  have silent := (Item.writtenIn_script drawing .done).silent
  refine ⟨(silent_check silent seed rowIndex stream metadata).exchanges environment before, ?_⟩
  intro plan walk checked visits generating
  obtain ⟨complete, chain, returned⟩ :=
    chain_of_check respects keepsDraws drawing samePool checked
  obtain ⟨first, all⟩ := chain.forms mute
  have asked : generating.exchanges environment between = _ :=
    exchanges_generate silent seed rowIndex walk.context.stream plan between
  rw [asked]
  exact ⟨(announced_of_check respects drawing checked).1, first, fun ends => all (returned ends)⟩

end

theorem Making.isMute_of_none {making : Making} (absent : making.extras = none) :
    making.IsMute := by
  intro target walk
  rw [absent]
  trivial

def placeShape : Shape := ⟨"Place", none, [(.unbounded "city", .text)]⟩

def reportShape : Shape := ⟨"Report", none, [(.unbounded "result", .text)]⟩

def reporter : ToolDefinition := ⟨"report", "Reports", some placeShape, some reportShape⟩

/-- A question, a call and its result, all of which the model writes, and the call again. -/
def repeatedReport : Item :=
  .list [.node (.leaf (.written (.text "user") (.text "Ask for a report"))),
    .node (.leaf (.call ⟨reporter, .text "a", .null, .null, .null⟩)),
    .node (.leaf (.result ⟨reporter, .text "a", none, .null⟩)),
    .node (.leaf (.call ⟨reporter, .text "a-FINAL", .null, .null, .null⟩)),
    .node (.leaf (.result ⟨reporter, .text "a-FINAL", some (.text "sunny"), .null⟩))]

theorem accounts_of_generate_repeatedReport :
    ∃ plan walk,
      ((check repeatedReport (some 7) none (.ofSource (.scripted [])) []).run .quiet
        (⟨.fresh, #[]⟩, ())).1 = .ok (plan, walk) ∧ plan.entries.length = 5 ∧
      formsOf ((generate ⟨true, none, true, false⟩ repeatedReport (some 7) none
        walk.context.stream plan).exchanges .quiet (⟨.fresh, #[]⟩, ())) <+:
          [.text, .object placeShape, .object reportShape] := by
  refine ⟨_, _, rfl, rfl, ?_⟩
  have mute : Making.IsMute ⟨true, none, true, false⟩ := Making.isMute_of_none rfl
  have drawing : repeatedReport.WrittenIn .drawing :=
    ⟨trivial, trivial, trivial, trivial, trivial, trivial⟩
  obtain ⟨_, accounts⟩ := accounts_of_generate (Environment.quiet_respects _) mute (.inl rfl) drawing
    (some 7) none (.ofSource (.scripted [])) [] (⟨.fresh, #[]⟩, ()) (⟨.fresh, #[]⟩, ()) rfl
  exact (accounts _ _ rfl).2.1

end Colloquy
