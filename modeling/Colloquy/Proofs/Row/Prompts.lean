import Colloquy.Model.Client
import Colloquy.Proofs.Resolution.Accounting
import Colloquy.Proofs.Resolution.Prompting
import Colloquy.Proofs.Row.Metadata

/-!
# The prompts of a row

A row calls the model in its two phases and nowhere else. In the check phase only code of the caller
calls it. In the generate phase each leaf is asked for by one call at most, which reaches the client
with its system prompt first and its user prompt last, and between them all that is collected for it,
the system messages ahead of the others.
-/

set_option autoImplicit false

namespace Colloquy

open Model (isSystem isHoisted hoistSystem)

variable {μ : Type}

namespace Process

variable {σ Q R ε ε' α β : Type}

/-- The process asks the beginning of what is expected, and all of it under a condition. -/
def AsksUpTo (process : Process σ Q R (Except ε α)) (environment : Environment σ μ Q R)
    (both : σ × μ) (expected : List (Q × R)) (condition : Prop) : Prop :=
  process.exchanges environment both <+: expected ∧
    (condition → process.exchanges environment both = expected)

theorem AsksUpTo.bind {process : Process σ Q R (Except ε α)}
    {next : Except ε α → Process σ Q R (Except ε' β)} {environment : Environment σ μ Q R}
    {both : σ × μ} {first rest : List (Q × R)} {condition : Prop}
    (starts : process.exchanges environment both = first)
    (stops : ∀ failure, ∃ error, next (.error failure) = .done (.error error))
    (fails : condition → ∀ failure later, process.run environment both = (.error failure, later) →
      rest = [])
    (goes : ∀ value later, process.run environment both = (.ok value, later) →
      (next (.ok value)).AsksUpTo environment later rest condition) :
    (process.bind next).AsksUpTo environment both (first ++ rest) condition := by
  unfold AsksUpTo
  rw [exchanges_bind, starts]
  rcases ran : process.run environment both with ⟨failure | value, later⟩
  · obtain ⟨error, stopped⟩ := stops failure
    dsimp only
    rw [stopped]
    constructor
    · exact (List.prefix_append_right_inj first).2 List.nil_prefix
    · intro holds
      rw [fails holds failure later ran]
      rfl
  · obtain ⟨begins, completes⟩ := goes value later ran
    constructor
    · exact (List.prefix_append_right_inj first).2 begins
    · exact fun holds => congrArg _ (completes holds)

theorem IsSilent.asksUpTo {process : Process σ Q R (Except ε α)} (silent : process.IsSilent)
    (environment : Environment σ μ Q R) (both : σ × μ) (condition : Prop) :
    process.AsksUpTo environment both [] condition := by
  unfold AsksUpTo
  rw [silent.exchanges]
  exact ⟨List.prefix_rfl, fun _ => rfl⟩

end Process

/-- Nobody but a row changes the state of the row. -/
structure Environment.KeepsState
    (environment : Environment RowWorld μ ModelCall (Except Error Reply)) : Prop where
  answer : ∀ call both, (environment.answer call both).2.1.state = both.1.state
  meanwhile : ∀ both, (environment.meanwhile both).1.state = both.1.state

theorem exchanges_check (root : Item) (seed rowIndex : Option Int) (stream : Random.Stream)
    (metadata : Entries) (environment : Environment Shared μ ModelCall (Except Error Reply))
    (both : Shared × μ) :
    (check root seed rowIndex stream metadata).exchanges environment both =
      match planMetadata metadata with
      | .error _ => []
      | .ok initial => ((root.script .done).follow Walk.planLeaf
          (.startCheck seed rowIndex stream initial)).exchanges environment both := by
  unfold check
  cases planMetadata metadata with
  | error error => rfl
  | ok initial =>
      dsimp only
      rw [Process.exchanges_bind]
      refine (congrArg _ ?_).trans (List.append_nil _)
      rcases ((root.script .done).follow Walk.planLeaf
        (.startCheck seed rowIndex stream initial)).run environment both with
          ⟨halt | ⟨⟨⟩, walk⟩, later⟩
      · rfl
      · rfl

namespace RowRecipe

variable {environment : Environment RowWorld μ ModelCall (Except Error Reply)}

/-- What a phase asks as a part of a row is what it asks on the view of the row. -/
theorem exchanges_onView {rule : Option Unique.UniqueBy → Prop} {α : Type} {process : RowProcess α}
    (made : process.MadeOf rule) (world : RowWorld) (memory : μ) :
    (onView process).exchanges environment (world, memory) =
      process.exchanges environment.seen (world.view, world.state, memory) := by
  induction made generalizing world memory with
  | done result => rfl
  | @choose options uniqueBy walk next allowed rest ih =>
      have selects := Walk.selects_chosen allowed options walk world.view
      have later := ih (walk.chosen options uniqueBy world.view).1
        (world.withView (walk.chosen options uniqueBy world.view).2) memory
      rw [(RowWorld.moves_withView selects).1] at later
      exact later
  | report rest ih => exact ih _ _
  | ask rest ih => exact congrArg _ (ih _ _ _)
  | pause rest ih => exact ih _ _

theorem state_onView (keeps : environment.KeepsState) {α : Type} (process : RowProcess α)
    (world : RowWorld) (memory : μ) :
    ((onView process).run environment (world, memory)).2.1.state = world.state := by
  induction process generalizing world memory with
  | done result => rfl
  | step update next ih => exact ih _ _ _
  | ask call next ih => exact (ih _ _ _).trans (keeps.answer call (world, memory))
  | pause next ih => exact (ih _ _).trans (keeps.meanwhile (world, memory))

variable (recipe : RowRecipe)

/-- The turns of the check phase of a row. -/
def rehearsed (environment : Environment RowWorld μ ModelCall (Except Error Reply))
    (both : RowWorld × μ) : List (Turn (RowState × μ)) :=
  match recipe.schema.resolve with
  | .error _ => []
  | .ok root =>
      match planMetadata recipe.metadata with
      | .error _ => []
      | .ok initial => (root.script .done).turns Walk.planLeaf environment.seen
          (.startCheck recipe.seed (some recipe.rowIndex) recipe.stream initial)
          (recipe.checking both)

/-- The turns of the generate phase of a row, if the row comes so far. -/
def performed (environment : Environment RowWorld μ ModelCall (Except Error Reply))
    (both : RowWorld × μ) : List (Turn (RowState × μ)) :=
  match recipe.begun environment both with
  | none => []
  | some (root, plan, world, memory) =>
      (root.script .done).turns (Walk.makeLeaf recipe.making) environment.seen
        (.startGenerate recipe.seed (some recipe.rowIndex) recipe.stream plan)
        (world.view, world.state, memory)

/-- What the model is asked in the turns of the two phases, one after the other. -/
def turnExchanges (environment : Environment RowWorld μ ModelCall (Except Error Reply))
    (both : RowWorld × μ) : List (ModelCall × Except Error Reply) :=
  (recipe.rehearsed environment both).flatMap (Turn.exchanges Walk.planLeaf environment.seen) ++
    (recipe.performed environment both).flatMap
      (Turn.exchanges (Walk.makeLeaf recipe.making) environment.seen)

theorem silent_transition (target : RowState) : (recipe.transition target).IsSilent := by
  intro world
  dsimp only
  split <;> trivial

theorem silent_countTokens (conversation : Generated) :
    (recipe.countTokens conversation).IsSilent := by
  unfold countTokens
  split
  · trivial
  · dsimp only
    split <;> split <;> first | trivial | exact fun _ => trivial

theorem exchanges_rehearsed {both : RowWorld × μ} {root : Item}
    (resolved : recipe.schema.resolve = .ok root) :
    (onView (check root recipe.seed (some recipe.rowIndex) recipe.stream
        recipe.metadata)).exchanges environment
      (both.1.tryEnter recipe.rowIndex .checking, both.2) =
      (recipe.rehearsed environment both).flatMap
        (Turn.exchanges Walk.planLeaf environment.seen) := by
  have chooses := madeOf_check (.any (root.script .done)) recipe.seed (some recipe.rowIndex)
    recipe.stream recipe.metadata
  rw [exchanges_onView chooses, exchanges_check]
  unfold rehearsed
  rw [resolved]
  dsimp only
  cases planMetadata recipe.metadata with
  | error error => rfl
  | ok initial => exact Script.exchanges_turns _ _ _ _ _

theorem exchanges_performed {both : RowWorld × μ} {root : Item} {plan : Plan}
    {ready : RowWorld × μ} (begun : recipe.begun environment both = some (root, plan, ready)) :
    (onView (generate recipe.making root recipe.seed (some recipe.rowIndex) recipe.stream
        plan)).exchanges environment ready =
      (recipe.performed environment both).flatMap
        (Turn.exchanges (Walk.makeLeaf recipe.making) environment.seen) := by
  obtain ⟨world, memory⟩ := ready
  have chooses := madeOf_generate (.any (root.script .done))
    (fun extras (_ : recipe.making.extras = some extras) => .any extras) recipe.seed
    (some recipe.rowIndex) recipe.stream plan
  rw [exchanges_onView chooses, exchanges_generate_script]
  unfold performed
  rw [begun]
  exact Script.exchanges_turns _ _ _ _ _

theorem asksUpTo_transition {β : Type} {target : RowState}
    {next : Except Error Unit → RowLife (Except Error β)} {both : RowWorld × μ}
    {expected : List (ModelCall × Except Error Reply)} {condition : Prop}
    (stops : ∀ failure, ∃ error, next (.error failure) = .done (.error error))
    (allowed : condition → target ∈ both.1.state.successors)
    (goes : ∀ value later, (recipe.transition target).run environment both = (.ok value, later) →
      (next (.ok value)).AsksUpTo environment later expected condition) :
    ((recipe.transition target).bind next).AsksUpTo environment both expected condition := by
  refine .bind ((recipe.silent_transition target).exchanges environment both) stops ?_ goes
  intro holds failure later ran
  unfold transition at ran
  rw [Process.run, if_pos (RowWorld.enters_of_allowed recipe.rowIndex (allowed holds)).1] at ran
  cases ran

theorem state_of_transition {target : RowState} {both later : RowWorld × μ}
    {outcome : Except Error Unit} (allowed : target ∈ both.1.state.successors)
    (ran : (recipe.transition target).run environment both = (outcome, later)) :
    later.1.state = target := by
  have entered : later = _ := (congrArg Prod.snd ran).symm.trans (recipe.run_transition target)
  rw [entered]
  exact (RowWorld.enters_of_allowed recipe.rowIndex allowed).2

/-- The model is called in the turns of the two phases, and nowhere else. Unless the row is stopped
because its state is not what it should be, it is called in all of them. -/
theorem asksUpTo_attempt (both : RowWorld × μ) :
    recipe.attempt.AsksUpTo environment both (recipe.turnExchanges environment both)
      (environment.KeepsState ∧ .checking ∈ both.1.state.successors) := by
  -- The parts of the attempt are taken off one after the other. Only the two phases ask anything, and
  -- once the row is being checked its state lets it go on, if nobody else changes that.
  refine recipe.asksUpTo_transition (fun _ => ⟨_, rfl⟩) And.right fun _ entered checking => ?_
  have entering : ((recipe.transition .checking).run environment both).2 = _ :=
    recipe.run_transition .checking
  rw [checking] at entering
  dsimp only at entering
  subst entering
  cases resolved : recipe.schema.resolve with
  | error error =>
      have nothing : recipe.turnExchanges environment both = [] := by
        simp only [turnExchanges, rehearsed, performed, begun, resolved, List.flatMap_nil,
          List.append_nil]
      rw [nothing]
      exact ⟨List.prefix_rfl, fun _ => rfl⟩
  | ok root =>
      refine .bind (recipe.exchanges_rehearsed resolved) (fun _ => ⟨_, rfl⟩) ?_
        fun result checked planned => ?_
      · intro _ halt later halted
        simp only [performed, begun, resolved, checking, halted, List.flatMap_nil]
      obtain ⟨plan, walk⟩ := result
      have ends (holds : environment.KeepsState ∧ .checking ∈ both.1.state.successors) :
          checked.1.state = .checking := by
        have kept := state_onView holds.1 (check root recipe.seed (some recipe.rowIndex)
          recipe.stream recipe.metadata) (both.1.tryEnter recipe.rowIndex .checking) both.2
        rw [planned] at kept
        exact kept.trans (recipe.state_of_transition holds.2 checking)
      refine recipe.asksUpTo_transition (fun _ => ⟨_, rfl⟩) (fun holds => ?_)
        fun _ ready isReady => ?_
      · simp [ends holds, RowState.successors]
      refine recipe.asksUpTo_transition (fun _ => ⟨_, rfl⟩) (fun holds => ?_)
        fun _ last generating => ?_
      · rw [recipe.state_of_transition (by simp [ends holds, RowState.successors]) isReady]
        decide
      have begun : recipe.begun environment both = some (root, plan, last) := by
        simp only [begun, resolved, checking, planned, isReady, generating]
      rw [← List.append_nil ((recipe.performed environment both).flatMap _)]
      refine .bind (recipe.exchanges_performed begun) (fun _ => ⟨_, rfl⟩) (fun _ _ _ _ => rfl) ?_
      intro result later generated
      obtain ⟨conversation, made⟩ := result
      refine Process.IsSilent.asksUpTo ?_ environment later _
      refine (recipe.silent_countTokens conversation).bind fun tokens => ?_
      trivial

theorem asksUpTo_generateRow (both : RowWorld × μ) :
    recipe.generateRow.AsksUpTo environment both (recipe.turnExchanges environment both)
      (environment.KeepsState ∧ .checking ∈ both.1.state.successors) := by
  have same : recipe.generateRow.exchanges environment both =
      recipe.attempt.exchanges environment both := by
    refine (Process.exchanges_bind environment recipe.attempt _ both).trans ?_
    refine (congrArg _ ?_).trans (List.append_nil _)
    cases (recipe.attempt.run environment both).1 with
    | error error =>
        refine Process.IsSilent.exchanges ?_ environment _
        exact fun _ => trivial
    | ok row =>
        have silent := recipe.silent_transition .completed
        refine (silent.bind fun outcome => ?_).exchanges environment _
        cases outcome <;> trivial
  have attempted : recipe.attempt.AsksUpTo environment both _ _ := recipe.asksUpTo_attempt both
  unfold Process.AsksUpTo at attempted ⊢
  rw [same]
  exact attempted

/-- Who calls the model in a row: code of the caller in one of the phases or while extra messages are
collected for a leaf, or else a leaf of the generate phase, for which the call is delivered. -/
inductive Origin (environment : Environment RowWorld μ ModelCall (Except Error Reply))
    (both : RowWorld × μ) (exchange : ModelCall × Except Error Reply) : Prop where
  | checking (member : .aside exchange ∈ recipe.rehearsed environment both)
  | generating (member : .aside exchange ∈ recipe.performed environment both)
  | collecting {attempt : Attempt (RowState × μ)}
      (member : .leaf attempt ∈ recipe.performed environment both) (target : Datum)
      (asked : exchange ∈
        attempt.walk.collecting recipe.making environment.seen target attempt.both)
  | leaf {attempt : Attempt (RowState × μ)}
      (member : .leaf attempt ∈ recipe.performed environment both)
      (delivers : attempt.Delivers recipe.making environment.seen exchange.1)

theorem origin_of_exchange {recipe : RowRecipe} {both : RowWorld × μ}
    {exchange : ModelCall × Except Error Reply}
    (asked : exchange ∈ recipe.generateRow.exchanges environment both) :
    recipe.Origin environment both exchange := by
  have asks : recipe.generateRow.AsksUpTo environment both _ _ :=
    recipe.asksUpTo_generateRow both
  rcases List.mem_append.1 (asks.1.subset asked) with early | late
  · obtain ⟨turn, member, asked⟩ := List.mem_flatMap.1 early
    cases turn with
    | aside other =>
        cases List.mem_singleton.1 asked
        exact .checking member
    | leaf attempt =>
        have silent := attempt.walk.silent_planLeaf attempt.leaf
        rw [Turn.exchanges, silent.exchanges] at asked
        cases asked
  · obtain ⟨turn, member, asked⟩ := List.mem_flatMap.1 late
    cases turn with
    | aside other =>
        cases List.mem_singleton.1 asked
        exact .generating member
    | leaf attempt =>
        obtain ⟨others, own, all, collecting, _, sends⟩ :=
          attempt.sends_exchanges recipe.making environment.seen
        rw [Attempt.exchanges] at all
        rw [Turn.exchanges, Walk.exchanges_makeLeaf, all] at asked
        rcases List.mem_append.1 asked with other | mine
        · rcases collecting with rfl | ⟨target, rfl⟩
          · cases other
          · exact .collecting member target other
        · exact .leaf member (sends exchange mine).delivers

/-- If no code of the caller calls the model, then every call is for a leaf. -/
theorem Origin.delivers {recipe : RowRecipe} {both : RowWorld × μ}
    {exchange : ModelCall × Except Error Reply} (origin : recipe.Origin environment both exchange)
    (mute : recipe.making.IsMute)
    (checks : ∀ other, Turn.aside other ∉ recipe.rehearsed environment both)
    (generates : ∀ other, Turn.aside other ∉ recipe.performed environment both) :
    ∃ attempt, .leaf attempt ∈ recipe.performed environment both ∧
      attempt.Delivers recipe.making environment.seen exchange.1 := by
  cases origin with
  | checking member => exact absurd member (checks exchange)
  | generating member => exact absurd member (generates exchange)
  | @collecting attempt member target asked =>
      rw [Walk.collecting, (mute target attempt.walk).exchanges] at asked
      cases asked
  | @leaf attempt member delivers => exact ⟨attempt, member, delivers⟩

/-- Prompts reach the model in order and complete. Moving system messages to the front is a stable
partition of every list, also of one that is given back as it is, and done once it is done for good.
Every call of a row but those that code of the caller makes itself is the call for a leaf, and is
delivered with the system prompt of the leaf in front and its user prompt at the end. Between them are
all messages that its extra sources give, each once: those of the source for every call before those of
the source for its kind, among the system messages and among the others. If nobody else changes the
state of the row, then the calls are those of the turns of its phases, one after the other. -/
theorem prompts_of_generateRow :
    (∀ messages,
      hoistSystem messages =
        messages.filter isSystem ++ messages.filter (fun message => !isSystem message) ∧
      (isHoisted messages = true → messages =
        messages.filter isSystem ++ messages.filter fun message => !isSystem message) ∧
      Model.InOrder (hoistSystem messages) ∧
      hoistSystem (hoistSystem messages) = hoistSystem messages) ∧
    (∀ (ν : Type) (client : Client ν) (call : ModelCall) (delivered : List Datum),
      Model.hoist call.messages = .ok delivered → delivered = hoistSystem call.messages ∧
        client.hoisted.answer call = client.answer ⟨call.form, delivered⟩) ∧
    (∀ messages, (∀ message ∈ messages, message.IsMapping) →
      promptMessages (.list messages) = .ok messages) ∧
    ∀ (μ : Type) (recipe : RowRecipe)
      (environment : Environment RowWorld μ ModelCall (Except Error Reply)) (both : RowWorld × μ),
      (∀ exchange ∈ recipe.generateRow.exchanges environment both,
        recipe.Origin environment both exchange) ∧
      (environment.KeepsState ∧ .checking ∈ both.1.state.successors →
        recipe.generateRow.exchanges environment both = recipe.turnExchanges environment both) := by
  refine ⟨fun messages => ?_, ?_, ?_, ?_⟩
  · have same : hoistSystem messages = Model.partitioned messages := Model.hoistSystem_eq messages
    refine ⟨same, fun ordered => ?_, same ▸ Model.inOrder_partitioned messages,
      Model.hoistSystem_hoistSystem messages⟩
    exact (Model.partitioned_of_inOrder ((Model.isHoisted_iff messages).1 ordered)).symm
  · intro ν client call delivered hoisted
    refine ⟨Model.eq_of_hoist hoisted, ?_⟩
    simp only [Client.hoisted, hoisted]
  · intro messages mappings
    exact promptMessages_list mappings
  · intro μ recipe environment both
    constructor
    · intro exchange asked
      exact origin_of_exchange asked
    · exact (recipe.asksUpTo_generateRow both).2

end RowRecipe

/-- A note for every call, and a guide for assistant messages that knows the row. -/
def styledExtras : PromptExtras where
  common := some (.fixed (.list [promptMessage "user" "Global note"]))
  system := none
  user := none
  assistant := some (.computed (.observe fun context =>
    .done (.list [promptMessage "system" (s!"Row {shownIndex context.rowIndex} style guide")])))
  toolCall := none
  toolResult := none

def styledAnswer : RowRecipe :=
  { plainRecipe (.list [.node (.leaf (.fixed (.text "user") (.text "Hi"))),
      .node (.leaf (.written (.text "assistant") (.text "Answer")))]) with
    rowIndex := 4
    extras := some styledExtras }

theorem isMute_styledAnswer : styledAnswer.making.IsMute := by
  intro target walk
  show (((styledExtras.messagesFor target).follow walk)).IsSilent
  unfold PromptExtras.messagesFor PromptExtras.sourceFor
  split <;> trivial

theorem performed_styledAnswer : ∃ greeted answered,
    styledAnswer.performed (.answering fun _ => .ok ⟨.text "", .null⟩) (.fresh, ()) =
      [.leaf greeted, .leaf answered] ∧
    greeted.leaf = .fixed (.text "user") (.text "Hi") ∧
    answered.leaf = .written (.text "assistant") (.text "Answer") ∧
    answered.walk.context.rowIndex = some 4 := ⟨_, _, rfl, rfl, rfl, rfl⟩

theorem collects_styledAnswer
    {environment : Environment Shared μ ModelCall (Except Error Reply)} {walk : Walk}
    {both : Shared × μ} {common specific : List Datum} (row : walk.context.rowIndex = some 4)
    (collects : PromptExtras.Collects environment styledAnswer.making.extras (.text "assistant")
      walk both common specific) :
    common = [promptMessage "user" "Global note"] ∧
      specific = [promptMessage "system" "Row 4 style guide"] := by
  cases collects with
  | given found first second =>
      cases found
      cases first with
      | fixed read =>
          cases read
          cases second with
          | computed ran read =>
              cases ran
              rw [row] at read
              cases read
              exact ⟨rfl, rfl⟩

theorem RowRecipe.prompts_of_generateRow_styledAnswer : ∃ call reply system user,
    (call, reply) ∈ styledAnswer.generateRow.exchanges (.answering fun _ => .ok ⟨.text "", .null⟩)
      (.fresh, ()) ∧
    Model.hoist call.messages = .ok [promptMessage "system" system,
      promptMessage "system" "Row 4 style guide", promptMessage "user" "Global note",
      promptMessage "user" user] ∧
    Prompt.Carries user "Answer" := by
  have asks : (styledAnswer.generateRow.exchanges (.answering fun _ => .ok ⟨.text "", .null⟩)
      (.fresh, ())).length = 1 := by decide +kernel
  obtain ⟨⟨call, reply⟩, only⟩ := List.length_eq_one_iff.1 asks
  have asked := only ▸ List.mem_singleton_self (call, reply)
  obtain ⟨greeted, answered, performed, greeting, answer, row⟩ := performed_styledAnswer
  have rehearsed : ∃ first second, styledAnswer.rehearsed
      (.answering fun _ => .ok ⟨.text "", .null⟩) (.fresh, ()) = [.leaf first, .leaf second] :=
    ⟨_, _, rfl⟩
  obtain ⟨first, second, rehearsed⟩ := rehearsed
  obtain ⟨_, _, _, prompts⟩ := prompts_of_generateRow
  have origin := (prompts Unit styledAnswer _ (.fresh, ())).1 (call, reply) asked
  obtain ⟨attempt, member, request, flow, common, specific, requests, _, _, _, instructs, carried,
    collects, delivered⟩ := origin.delivers isMute_styledAnswer (by simp [rehearsed])
      (by simp [performed])
  have which : attempt = greeted ∨ attempt = answered := by simpa [performed] using member
  rcases which with rfl | rfl
  · rw [greeting] at requests
    cases requests
  · rw [answer] at instructs carried
    have target : request.target = .text "assistant" := (Except.ok.inj instructs.1).symm
    rw [target] at collects
    obtain ⟨rfl, rfl⟩ := collects_styledAnswer row collects
    refine ⟨call, reply, request.systemPrompt, request.userPrompt, asked, ?_, carried⟩
    rw [delivered]
    simp [Model.isSystem_promptMessage]

theorem schema_placeShape : placeShape.schema = [
    ("properties", .mapping [(.text "city",
      .mapping [(.text "title", .text "City"), (.text "type", .text "string")])]),
    ("required", .list [.text "city"]), ("title", .text "Place"), ("type", .text "object")] := by
  have members : shapeSchema placeShape.name placeShape.doc placeShape.fields = [
      ("type", .text "object"),
      ("properties", .mapping [(.text "city",
        .mapping [(.text "type", .text "string"), (.text "title", .text "City")])]),
      ("required", .list [.text "city"]), ("title", .text "Place")] := rfl
  have definitions : Fields.merge [] (FieldType.fieldDefinitions placeShape.fields) = [] := rfl
  unfold Shape.schema
  rw [members, definitions]
  simp [Fields.toDatum, Fields.toEntries, Datum.arranged, Datum.arrangedEntries,
    Datum.arrangedItems, orderedKeys, List.mergeSort, List.MergeSort.Internal.splitInTwo, List.splitAt, List.splitAt.go,
    Datum.spoken, Datum.fields?, Datum.text?]

/-- A report on a place that the model chooses, as its author wants it. -/
def briefCall : ToolCall := ⟨reporter, .text "1", .null, .null, .text "Be brief!"⟩

def briefReport : RowRecipe := plainRecipe (.node (.leaf (.call briefCall)))

theorem schemaText_placeShape :
    ∃ schema, schemaText placeShape = .ok schema ∧ '!' ∉ schema.toList := by
  have plain : ((schemaText placeShape).toOption.any fun schema =>
      !schema.toList.contains '!') = true := by
    unfold schemaText
    rw [schema_placeShape]
    decide +kernel
  cases written : schemaText placeShape with
  | error error =>
      rw [written] at plain
      cases plain
  | ok schema =>
      rw [written] at plain
      exact ⟨schema, rfl, by simpa [Except.toOption] using plain⟩

theorem Prompt.not_carries_argumentsUser {schema : String} (plain : '!' ∉ schema.toList) :
    ¬Carries (argumentsUser schema) "Be brief!" := by
  intro carried
  have exclaims : '!' ∈ (argumentsUser schema).toList := carried.subset (by decide)
  rcases mem_lines exclaims with newline | ⟨text, member, here⟩
  · exact absurd newline (by decide)
  · simp only [List.mem_cons, List.not_mem_nil, or_false] at member
    rcases member with rfl | rfl | rfl | rfl | rfl | rfl
    · exact absurd here (by decide +kernel)
    · exact absurd here (by decide +kernel)
    · exact absurd here (by decide +kernel)
    · exact absurd here (by decide +kernel)
    · exact absurd here (by decide +kernel)
    · exact plain here

/-- The schema is put in order by a sort that does not compute, so that the request is put together
from its text. -/
theorem requests_briefCall {context : Context} {flow : String}
    (source : briefCall.source context = .ok (.model placeShape))
    (flows : context.flowText = .ok flow) :
    ∃ request, (Leaf.call briefCall).request? context = some (.ok request) := by
  obtain ⟨schema, written, _⟩ := schemaText_placeShape
  simp only [Leaf.request?, source, argumentsRequest]
  rw [flows, written]
  exact ⟨_, rfl⟩

theorem performed_briefReport : ∃ called rest request,
    briefReport.performed (.answering fun _ => .ok ⟨.text "", .null⟩) (.fresh, ()) =
      .leaf called :: rest ∧
    called.leaf = .call briefCall ∧
    called.leaf.request? called.walk.context = some (.ok request) := by
  have performed : ∃ called rest,
      briefReport.performed (.answering fun _ => .ok ⟨.text "", .null⟩) (.fresh, ()) =
        .leaf called :: rest ∧
      called.leaf = .call briefCall ∧
      briefCall.source called.walk.context = .ok (.model placeShape) ∧
      called.walk.context.flowText.isOk = true := ⟨_, _, rfl, rfl, rfl, by decide +kernel⟩
  obtain ⟨called, rest, performed, leaf, source, shown⟩ := performed
  cases flows : called.walk.context.flowText with
  | error error =>
      rw [flows] at shown
      cases shown
  | ok flow =>
      obtain ⟨request, requests⟩ := requests_briefCall source flows
      exact ⟨called, rest, request, performed, leaf, leaf ▸ requests⟩

/-- What an author asks of a tool call stands in its system prompt. The user prompt, with which the
list ends, does not say it. -/
theorem RowRecipe.prompts_of_briefReport :
    ∃ exchange ∈ briefReport.generateRow.exchanges (.answering fun _ => .ok ⟨.text "", .null⟩)
        (.fresh, ()), ∃ system user,
      Model.hoist exchange.1.messages =
        .ok [promptMessage "system" system, promptMessage "user" user] ∧
      Prompt.Carries system "Be brief!" ∧ ¬Prompt.Carries user "Be brief!" := by
  let environment : Environment RowWorld Unit ModelCall (Except Error Reply) :=
    .answering fun _ => .ok ⟨.text "", .null⟩
  obtain ⟨called, rest, request, performed, leaf, requests⟩ := performed_briefReport
  have collected : ((extraMessages briefReport.making.extras request.target).follow
      called.walk).run environment.seen called.both =
        (.ok ([], called.walk), called.both) := rfl
  obtain ⟨answer, asked⟩ := Attempt.exchanges_of_request rfl requests collected
  have asks : briefReport.generateRow.AsksUpTo environment (.fresh, ()) _ _ :=
    briefReport.asksUpTo_generateRow (.fresh, ())
  have member : (⟨request.form, request.messages []⟩, answer) ∈
      briefReport.generateRow.exchanges environment (.fresh, ()) := by
    rw [asks.2 ⟨⟨fun _ _ => rfl, fun _ => rfl⟩, by decide⟩, turnExchanges, performed]
    refine List.mem_append_right _ (List.mem_append_left _ ?_)
    rw [Attempt.exchanges] at asked
    rw [Turn.exchanges, Walk.exchanges_makeLeaf, asked]
    exact List.mem_append_right _ (List.mem_singleton_self _)
  have sends : called.Sends briefReport.making environment.seen
      ⟨request.form, request.messages []⟩ :=
    ⟨request, [], called.walk, called.both, requests, collected, rfl⟩
  obtain ⟨sent, flow, common, specific, _, _, _, _, instructs, carried, collects, delivered⟩ :=
    sends.delivers
  rw [leaf] at instructs carried
  obtain ⟨_, shape, schema, ⟨⟩, written, user⟩ := instructs
  obtain ⟨text, known, plain⟩ := schemaText_placeShape
  cases known.symm.trans written
  generalize sent.target = target at collects
  cases collects with
  | absent =>
      refine ⟨_, member, sent.systemPrompt, sent.userPrompt, delivered, carried.1, ?_⟩
      rw [user]
      exact Prompt.not_carries_argumentsUser plain

end Colloquy
