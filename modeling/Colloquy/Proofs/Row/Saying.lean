import Colloquy.Proofs.Resolution.Footprints
import Colloquy.Proofs.Row.Taking

/-!
# Rows that say one message

The whole of a schema may be a choice from a stock of messages that are given, all by one speaker. A row
of such a schema is complete as long as others leave it something: whichever messages are chosen in
its two phases, what is made is what was planned.
-/

set_option autoImplicit false

namespace Colloquy

variable {stock : Unique.Stock} {answers : ModelCall → Except Error Reply → Prop} {α : Type}

theorem Walk.chosen_of_deals (deals : stock.Deals) {walk : Walk} {phase : Phase}
    (opens : walk.Opens phase) {shared : Shared} (left : ¬stock.Spent shared.pool) :
    ∃ place < stock.options.length, ∃ after : Walk,
      (walk.chosen stock.options (some stock.rule) shared).1 = .ok (place, after) ∧
        after.context = { walk.context with stream := walk.context.stream.next.2 } := by
  have left : ¬stock.Spent (walk.store shared.pool) := by
    simpa only [Unique.Stock.Spent, Unique.Stock.uses, Walk.has_store opens] using left
  obtain ⟨found, accepted, picks⟩ := deals _ left
  obtain ⟨candidate, picked⟩ := picks walk.context.stream.next.1
  have ran := Unique.run_choose stock.options (some stock.rule) (walk.store shared.pool)
    walk.context.stream
  simp only [accepted, picked] at ran
  obtain ⟨after, result⟩ : ∃ after : Walk,
      (walk.chosen stock.options (some stock.rule) shared).1 = .ok (candidate.item.1, after) := by
    simp only [Walk.chosen, ran]
    exact ⟨_, rfl⟩
  refine ⟨_, Unique.place_lt_of_run_choose ran, after, result, ?_⟩
  rw [Walk.context_chosen result, Walk.stream_chosen result]

theorem Context.draws_next {context after : Context}
    (drawn : after = { context with stream := context.stream.next.2 }) :
    after.draws = context.draws + 1 := by
  rw [drawn]
  exact Random.Stream.draws_next context.stream

theorem Role.read_name (role : Role) : Role.read (.text role.name) = .ok role := by
  cases role <;> rfl

/-- What is planned of a given message. -/
def PlanEntry.saying (role : Role) (content : Datum) (draws : Nat) : PlanEntry :=
  ⟨.message, role, content, none, none, .null, draws⟩

theorem Leaf.plan_fixed (context : Context) (role : Role) (content : Datum) :
    (Leaf.fixed (.text role.name) content).plan context = .ok (.saying role content context.draws) := by
  have read := role.read_name
  show EntryDraft.fit _ _ = _
  simp [EntryDraft.fit, read]
  rfl

theorem Walk.fixedMessage_text (walk : Walk) (role : Role) (content : Datum) :
    ∃ name, walk.fixedMessage (.text role.name) content =
      .ok (⟨role, content, none, none, none, name⟩, walk) := by
  have read := role.read_name
  refine ⟨generationId role.name walk.context.seed walk.context.stepIndex, ?_⟩
  simp only [fixedMessage, fitMessage, read]
  rfl

theorem Walk.objection?_of_planned (verifyDraws : Bool) (walk : Walk) {message : Message}
    {planned : PlanEntry} (there : walk.context.plan.entries[walk.context.messages.length]? =
      some planned) (kind : planned.kind = message.kind) (role : planned.role = message.role)
    (draws : planned.drawCount = walk.context.draws) :
    walk.objection? verifyDraws message = none := by
  simp [objection?, there, kind, role, draws]

namespace RowWorld

/-- The row has taken nothing yet, and something is left to it. -/
structure Awaits (stock : Unique.Stock) (world : RowWorld) : Prop where
  unmarked : world.marked = []
  hasLeft : world.HasLeft stock

variable {before after : RowWorld}

theorem Awaits.keep (awaits : before.Awaits stock)
    (kept : after.shared.pool = before.shared.pool ∧ after.marked = before.marked) :
    after.Awaits stock :=
  ⟨kept.2.trans awaits.unmarked, awaits.hasLeft.keep kept.1 kept.2⟩

theorem Awaits.relied (awaits : before.Awaits stock)
    (relied : (leaving stock answers).relies before after) : after.Awaits stock :=
  ⟨relied.2.1.trans awaits.unmarked, relied.2.2.2 awaits.hasLeft⟩

theorem Awaits.not_spent (awaits : before.Awaits stock) : ¬stock.Spent before.shared.pool := by
  intro spent
  obtain ⟨key, member, unused | marked⟩ := awaits.hasLeft
  · simp [spent key member] at unused
  · simp [awaits.unmarked] at marked

end RowWorld

namespace RowRecipe

variable {ends : α → RowWorld → Prop} {world : RowWorld}

theorem abides_transition_leaving (recipe : RowRecipe) {target : RowState}
    {next : Except Error Unit → RowLife α} (allowed : target ∈ world.state.successors)
    (rest : ∀ after : RowWorld, after.state = target → (world.Awaits stock → after.Awaits stock) →
      (next (.ok ())).Abides (RowWorld.leaving stock answers) ends after) :
    ((recipe.transition target).bind next).Abides (RowWorld.leaving stock answers) ends world := by
  intro now relied
  rw [← relied.1] at allowed
  obtain ⟨may, entered⟩ := RowWorld.enters_of_allowed recipe.rowIndex allowed
  have onward := rest _ entered fun awaits =>
    (awaits.relied relied).keep (RowWorld.pool_tryEnter recipe.rowIndex target now)
  exact ⟨trivial, by simpa [may] using onward⟩

theorem abides_countTokens_leaving (recipe : RowRecipe) (conversation : Generated)
    (world : RowWorld) :
    (recipe.countTokens conversation).Abides (RowWorld.leaving stock answers)
      (fun _ after => after.state = world.state) world := by
  have counted : (recipe.countTokens conversation).Abides (RowWorld.contract fun _ => True)
      (fun _ after => after.state = world.state) world := recipe.abides_countTokens conversation world
  refine counted.weaken ?_ ?_ ?_
  · exact fun _ _ relied => ⟨relied.1, relied.2.1⟩
  · exact fun _ _ _ => trivial
  · exact fun _ _ _ => trivial

/-- The choice of a row to which something is left. In the check phase it takes nothing. -/
theorem abides_choose_leaving (deals : stock.Deals) {phase : Phase} {walk : Walk}
    (opens : walk.Opens phase) {next : Walked Nat → RowLife α} (awaits : world.Awaits stock)
    (rest : ∀ place < stock.options.length, ∀ after : Walk,
      after.context = { walk.context with stream := walk.context.stream.next.2 } →
      ∀ later : RowWorld, later.state = world.state → (phase = .check → later.Awaits stock) →
        (next (.ok (place, after))).Abides (RowWorld.leaving stock answers) ends later) :
    ((onView (walk.choose stock.options (some stock.rule))).bind next).Abides
      (RowWorld.leaving stock answers) ends world := by
  intro now relied
  have awaits := awaits.relied relied
  have left : ¬stock.Spent now.view.pool := awaits.not_spent
  obtain ⟨place, inside, after, result, context⟩ := Walk.chosen_of_deals deals opens left
  have behind := world_of_chosen opens result
  refine ⟨trivial, ?_⟩
  show (next (walk.chosen stock.options (some stock.rule) now.view).1).Abides _ _ _
  rw [result]
  refine rest place inside after context _ relied.1 fun check => ?_
  subst check
  dsimp only at behind ⊢
  rwa [behind]

/-- What a row is that says one message: its schema chooses from a stock of messages that are given, all
by one speaker, and what is made of any two of them, one planned and one said, is a row that fits. -/
structure Utters (stock : Unique.Stock) (role : Role) (given : Datum → Prop) (fits : Row → Prop)
    (recipe : RowRecipe) (root : Item) (known : Entries) : Prop where
  resolved : recipe.schema.resolve = .ok root
  schema : ∃ next, root.script .done = .choose stock.options (some stock.rule) next ∧
    ∀ place < stock.options.length, ∃ content, given content ∧
      next place = .entry (.fixed (.text role.name) content) .done
  deals : stock.Deals
  spoken : role ≠ .tool
  metadata : planMetadata recipe.metadata = .ok known
  records : ∀ {planned said : Datum}, given planned → given said → ∀ name tokens,
    ∃ row, recipe.finish ⟨[.saying role planned 1], [], known⟩
      ⟨[⟨role, said, none, none, none, name⟩], [], known⟩ tokens = .ok row ∧ fits row

section

variable {role : Role} {given : Datum → Prop} {fits : Row → Prop} {recipe : RowRecipe}
variable {root : Item} {known : Entries}
variable (utters : recipe.Utters stock role given fits root known)

include utters

theorem Utters.check {next : Walked Plan → RowLife α} (awaits : world.Awaits stock)
    (rest : ∀ planned, given planned → ∀ walk (later : RowWorld), later.state = world.state →
      later.Awaits stock → (next (.ok (⟨[.saying role planned 1], [], known⟩, walk))).Abides
        (RowWorld.leaving stock answers) ends later) :
    ((onView (Colloquy.check root recipe.seed (some recipe.rowIndex) recipe.stream
      recipe.metadata)).bind next).Abides (RowWorld.leaving stock answers) ends world := by
  obtain ⟨further, script, entries⟩ := utters.schema
  unfold Colloquy.check
  simp only [utters.metadata, script, Script.follow]
  rw [Process.bind_assoc, onView_bind]
  refine abides_choose_leaving utters.deals ⟨rfl, fun _ => rfl⟩ awaits ?_
  intro place inside after context later state unmarked
  obtain ⟨content, among, entry⟩ := entries place inside
  have draws : after.context.draws = 1 := Context.draws_next context
  have plan : (after.within (after.context.addEntry (.saying role content 1))).finishedPlan =
      ⟨[.saying role content 1], [], known⟩ := by
    rw [context]
    rfl
  simp only [entry, Script.follow, Walk.planLeaf, Leaf.plan_fixed, draws]
  intro now relied
  have awaits := (unmarked rfl).relied relied
  refine ⟨trivial, ?_⟩
  show (next (.ok (Walk.finishedPlan _, _))).Abides _ _ _
  rw [plan]
  exact rest content among _ _ (relied.1.trans state) (awaits.keep ⟨rfl, rfl⟩)

theorem Utters.generate {next : Walked Generated → RowLife α} (awaits : world.Awaits stock)
    (planned : Datum)
    (rest : ∀ said, given said → ∀ name walk (later : RowWorld), later.state = world.state →
      (next (.ok (⟨[⟨role, said, none, none, none, name⟩], [], known⟩, walk))).Abides
        (RowWorld.leaving stock answers) ends later) :
    ((onView (Colloquy.generate recipe.making root recipe.seed (some recipe.rowIndex) recipe.stream
      ⟨[.saying role planned 1], [], known⟩)).bind next).Abides (RowWorld.leaving stock answers)
        ends world := by
  obtain ⟨further, script, entries⟩ := utters.schema
  unfold Colloquy.generate
  simp only [script, Script.follow]
  rw [Process.bind_assoc, onView_bind]
  have opens : (Walk.startGenerate recipe.seed (some recipe.rowIndex) recipe.stream
      ⟨[.saying role planned 1], [], known⟩).Opens .generate := ⟨rfl, fun check => by cases check⟩
  refine abides_choose_leaving utters.deals opens awaits ?_
  intro place inside after context later state _
  obtain ⟨content, among, entry⟩ := entries place inside
  obtain ⟨name, made⟩ := after.fixedMessage_text role content
  let message : Message := ⟨role, content, none, none, none, name⟩
  have there : after.context.plan.entries[after.context.messages.length]? =
      some (.saying role planned 1) := by
    rw [context]
    rfl
  have kind : EntryKind.message = message.kind := by simp [message, Message.kind, utters.spoken]
  have draws : after.context.draws = 1 := Context.draws_next context
  have accepted : after.objection? recipe.making.verifyDraws message = none :=
    after.objection?_of_planned _ there kind rfl (congrArg Nat.cast draws.symm)
  have full : (after.addMessage message).context.messages.length =
      (after.addMessage message).context.plan.entries.length := by
    simp only [Walk.addMessage, context]
    rfl
  have conversation : (after.addMessage message).conversation = ⟨[message], [], known⟩ := by
    simp only [Walk.conversation, Walk.addMessage, context]
    rfl
  have logs : recipe.making.logSteps = true := rfl
  simp only [entry, Script.follow, Walk.makeLeaf, Walk.makeMessage, made, Process.bind, Walk.append]
  simp only [message] at accepted full conversation
  simp only [accepted, Walk.join, logs, if_true, Process.bind, full, conversation]
  intro now relied
  exact ⟨trivial, rest content among name _ _ (relied.1.trans state)⟩

theorem Utters.attempt (start : world.state = .uninitialized) (awaits : world.Awaits stock) :
    recipe.attempt.Abides (RowWorld.leaving stock answers)
      (fun result after => after.state = .generating ∧ ∃ row, result = .ok row ∧ fits row) world := by
  refine recipe.abides_transition_leaving (by simp [start, RowState.successors]) ?_
  intro begun checking stays
  have awaits := stays awaits
  simp only [utters.resolved]
  refine utters.check awaits fun planned among _ checked state awaits => ?_
  have checking := state.trans checking
  refine recipe.abides_transition_leaving (by simp [checking, RowState.successors]) ?_
  intro kept state stays
  have awaits := stays awaits
  refine recipe.abides_transition_leaving (by simp [state, RowState.successors]) ?_
  intro opened generating stays
  have awaits := stays awaits
  refine utters.generate awaits planned fun said spoken name _ made state => ?_
  have generating := state.trans generating
  refine .bind ((recipe.abides_countTokens_leaving _ made).mono fun tokens counted state => ?_)
  obtain ⟨row, finished, fitting⟩ := utters.records among spoken name tokens
  exact fun ended relied => ⟨(relied.1.trans state).trans generating, row, finished, fitting⟩

/-- A row that says one message from a stock is complete, as long as others leave it something. -/
theorem Utters.completesIfLeft (stocked : stock.keys ≠ []) :
    recipe.CompletesIfLeft stock answers fits := by
  intro log
  obtain ⟨key, member⟩ := List.exists_mem_of_ne_nil _ stocked
  refine .bind (.bind ((utters.attempt rfl ⟨rfl, key, member, .inl rfl⟩).mono ?_))
  rintro result ended ⟨state, row, rfl, fitting⟩
  refine recipe.abides_transition_leaving (by simp [state, RowState.successors]) ?_
  exact fun _ _ _ _ _ _ _ => ⟨_, _, rfl, fitting⟩

end

end RowRecipe

end Colloquy
