import Colloquy.Proofs.Resolution.Frame
import Colloquy.Proofs.Schema.Vocabulary

/-!
# What both phases do to the pool

Apart from choices a row only writes to the log, asks the model and pauses. What holds of a choice
under each of the rules that a schema uses therefore holds of all that is done for it.
-/

set_option autoImplicit false

namespace Colloquy

open Selection (Choice)

/-- The computation consists of choices under certain rules, lines for the log, model calls and
pauses. -/
inductive Process.MadeOf (rule : Option Unique.UniqueBy → Prop) {α : Type} : RowProcess α → Prop where
  | done (result : α) : MadeOf rule (.done result)
  | choose {options : List (Choice Datum)} {uniqueBy : Option Unique.UniqueBy} {walk : Walk}
      {next : Walked Nat → RowProcess α} (allowed : rule uniqueBy)
      (rest : ∀ walked, MadeOf rule (next walked)) :
      MadeOf rule ((walk.choose options uniqueBy).bind next)
  | report {level : LogLevel} {text : String} {next : RowProcess α} (rest : MadeOf rule next) :
      MadeOf rule (.step (Shared.report level text) fun _ => next)
  | ask {call : ModelCall} {next : Except Error Reply → RowProcess α}
      (rest : ∀ reply, MadeOf rule (next reply)) : MadeOf rule (.ask call next)
  | pause {next : RowProcess α} (rest : MadeOf rule next) : MadeOf rule (.pause next)

/-- All choices of a decision are made under certain rules. -/
def Decision.ChoosesBy {α : Type} (rule : Option Unique.UniqueBy → Prop) : Decision α → Prop
  | done _ => True
  | fail _ => True
  | draw next => ∀ value, (next value).ChoosesBy rule
  | choose _ uniqueBy next => rule uniqueBy ∧ ∀ place, (next place).ChoosesBy rule
  | observe next => ∀ context, (next context).ChoosesBy rule
  | ask _ next => ∀ reply, (next reply).ChoosesBy rule
  | pause next => next.ChoosesBy rule

def PromptSource.ChoosesBy (rule : Option Unique.UniqueBy → Prop) : Option PromptSource → Prop
  | some (.computed messages) => messages.ChoosesBy rule
  | _ => True

/-- All choices of the code that collects extra messages are made under certain rules. -/
structure PromptExtras.ChoosesBy (rule : Option Unique.UniqueBy → Prop) (extras : PromptExtras) :
    Prop where
  common : PromptSource.ChoosesBy rule extras.common
  system : PromptSource.ChoosesBy rule extras.system
  user : PromptSource.ChoosesBy rule extras.user
  assistant : PromptSource.ChoosesBy rule extras.assistant
  toolCall : PromptSource.ChoosesBy rule extras.toolCall
  toolResult : PromptSource.ChoosesBy rule extras.toolResult

/-- All that can be resolved makes its choices under certain rules; leaves and decisions are free. -/
def Vocabulary.choosing (rule : Option Unique.UniqueBy → Prop) : Vocabulary :=
  ⟨fun _ => True, rule, True⟩

variable {rule : Option Unique.UniqueBy → Prop}

namespace Process.MadeOf

variable {α β : Type}

theorem bind {process : RowProcess β} {next : β → RowProcess α} (made : process.MadeOf rule)
    (rest : ∀ result, (next result).MadeOf rule) : (process.bind next).MadeOf rule := by
  induction made with
  | done result => exact rest result
  | choose allowed _ ih =>
      rw [Process.bind_assoc]
      exact .choose allowed ih
  | report _ ih => exact .report ih
  | ask _ ih => exact .ask ih
  | pause _ ih => exact .pause ih

end Process.MadeOf

namespace Decision

variable {α β : Type}

theorem ChoosesBy.any (decision : Decision α) : decision.ChoosesBy fun _ => True := by
  induction decision with
  | done result => trivial
  | fail error => trivial
  | draw next ih => exact ih
  | choose options uniqueBy next ih => exact ⟨trivial, ih⟩
  | observe next ih => exact ih
  | ask call next ih => exact ih
  | pause next ih => exact ih

theorem ChoosesBy.bind {decision : Decision β} {next : β → Decision α}
    (first : decision.ChoosesBy rule) (rest : ∀ result, (next result).ChoosesBy rule) :
    (decision.bind next).ChoosesBy rule := by
  induction decision with
  | done result => exact rest result
  | fail error => trivial
  | draw further ih => exact fun value => ih value (first value)
  | choose options uniqueBy further ih => exact ⟨first.1, fun place => ih place (first.2 place)⟩
  | observe further ih => exact fun context => ih context (first context)
  | ask call further ih => exact fun reply => ih reply (first reply)
  | pause further ih => exact ih first

theorem ChoosesBy.ofExcept (result : Except Error α) :
    (Decision.ofExcept result).ChoosesBy rule := by
  cases result <;> trivial

theorem madeOf_follow {decision : Decision α} (chooses : decision.ChoosesBy rule) (walk : Walk) :
    (decision.follow walk).MadeOf rule := by
  induction decision generalizing walk with
  | done result => exact .done _
  | fail error => exact .done _
  | draw next ih => exact ih _ (chooses _) _
  | choose options uniqueBy next ih =>
      rw [Decision.follow]
      refine .choose chooses.1 fun walked => ?_
      rcases walked with halt | ⟨place, after⟩
      · exact .done _
      · exact ih place (chooses.2 place) after
  | observe next ih => exact ih _ (chooses _) walk
  | ask call next ih => exact .ask fun reply => ih reply (chooses reply) walk
  | pause next ih => exact .pause (ih chooses walk)

end Decision

theorem PromptSource.choosesBy_messages {source : Option PromptSource}
    (chooses : PromptSource.ChoosesBy rule source) :
    (PromptSource.messages source).ChoosesBy rule := by
  rcases source with _ | ⟨messages | messages⟩
  · trivial
  · exact .ofExcept _
  · exact Decision.ChoosesBy.bind chooses fun _ => .ofExcept _

theorem PromptExtras.ChoosesBy.source {extras : PromptExtras} (chooses : extras.ChoosesBy rule)
    {target : Datum} {source : Option PromptSource} (found : extras.sourceFor target = .ok source) :
    PromptSource.ChoosesBy rule source := by
  unfold sourceFor at found
  split at found <;> cases found
  · exact chooses.system
  · exact chooses.user
  · exact chooses.assistant
  · exact chooses.toolCall
  · exact chooses.toolResult
  · exact chooses.common
  · trivial

theorem PromptExtras.ChoosesBy.messagesFor {extras : PromptExtras}
    (chooses : extras.ChoosesBy rule) (target : Datum) :
    (extras.messagesFor target).ChoosesBy rule := by
  show (Decision.bind (Decision.ofExcept (extras.sourceFor target)) fun source =>
    Decision.bind (PromptSource.messages extras.common) fun common =>
      Decision.bind (PromptSource.messages source) fun more =>
        .done (common ++ more)).ChoosesBy rule
  cases found : extras.sourceFor target with
  | error error => trivial
  | ok source =>
      change (Decision.bind (PromptSource.messages extras.common) fun common =>
        Decision.bind (PromptSource.messages source) fun more =>
          .done (common ++ more)).ChoosesBy rule
      refine .bind (PromptSource.choosesBy_messages chooses.common) fun common => ?_
      refine .bind (PromptSource.choosesBy_messages (chooses.source found)) fun more => ?_
      trivial

theorem PromptExtras.ChoosesBy.any (extras : PromptExtras) : extras.ChoosesBy fun _ => True := by
  have free (source : Option PromptSource) : PromptSource.ChoosesBy (fun _ => True) source := by
    rcases source with _ | ⟨messages | messages⟩
    · trivial
    · trivial
    · exact .any messages
  exact ⟨free _, free _, free _, free _, free _, free _⟩

theorem Script.WrittenIn.any (script : Script) :
    script.WrittenIn (.choosing fun _ => True) := by
  induction script with
  | done => exact .done
  | fail error => exact .fail error
  | draw next ih => exact .draw ih
  | choose options uniqueBy next ih => exact .choose trivial ih
  | entry leaf next ih => exact .entry trivial ih
  | list tool next ih => exact .list ih
  | update change next ih => exact .update ih
  | observe next ih => exact .observe trivial ih
  | ask call next ih => exact .ask trivial ih
  | pause next ih => exact .pause ih

theorem Script.madeOf_follow {emit : Leaf → Walk → RowProcess (Walked Unit)}
    (emits : ∀ leaf walk, (emit leaf walk).MadeOf rule) {script : Script}
    (written : script.WrittenIn (.choosing rule)) (walk : Walk) :
    (script.follow emit walk).MadeOf rule := by
  induction written generalizing walk with
  | done => exact .done _
  | fail error => exact .done _
  | draw _ ih => exact ih _ _
  | choose allowed _ ih =>
      rw [Script.follow]
      refine .choose allowed fun walked => ?_
      rcases walked with halt | ⟨place, after⟩
      · exact .done _
      · exact ih place after
  | entry _ _ ih =>
      rw [Script.follow]
      refine .bind (emits _ walk) fun walked => ?_
      rcases walked with halt | ⟨⟨⟩, after⟩
      · exact .done _
      · exact ih after
  | list _ ih => exact ih _
  | update _ ih =>
      unfold Script.follow
      split
      · exact ih _
      · exact .done _
  | observe _ _ ih => exact ih _ walk
  | ask _ _ ih => exact .ask fun reply => ih reply walk
  | pause _ ih => exact .pause (ih walk)

theorem Walk.madeOf_planLeaf (leaf : Leaf) (walk : Walk) : (walk.planLeaf leaf).MadeOf rule := by
  unfold Walk.planLeaf
  split <;> exact .done _

theorem madeOf_check {root : Item} (written : (root.script .done).WrittenIn (.choosing rule))
    (seed rowIndex : Option Int) (stream : Random.Stream) (metadata : Entries) :
    (check root seed rowIndex stream metadata).MadeOf rule := by
  unfold check
  split
  · exact .done _
  · refine .bind (Script.madeOf_follow Walk.madeOf_planLeaf written _) fun walked => ?_
    rcases walked with halt | ⟨⟨⟩, walk⟩
    · exact .done _
    · exact .report (.done _)

section

variable {making : Making}

theorem madeOf_extraMessages
    (chooses : ∀ extras, making.extras = some extras → extras.ChoosesBy rule) (target : Datum)
    (walk : Walk) : ((extraMessages making.extras target).follow walk).MadeOf rule := by
  cases given : making.extras with
  | none => exact .done _
  | some extras => exact Decision.madeOf_follow ((chooses extras given).messagesFor target) walk

theorem Walk.madeOf_withReply
    (chooses : ∀ extras, making.extras = some extras → extras.ChoosesBy rule)
    (make : Context → Except Error ModelRequest) (next : Reply → Walk → Walked Message)
    (walk : Walk) : (walk.withReply making make next).MadeOf rule := by
  refine .bind ?_ fun walked => ?_
  · unfold Walk.request
    split
    · split
      · refine .bind (madeOf_extraMessages chooses _ walk) fun walked => ?_
        rcases walked with halt | ⟨extra, after⟩
        · exact .done _
        · exact .report (.ask fun reply => .done _)
      · exact .done _
    · exact .done _
  · rcases walked with halt | ⟨reply, after⟩
    · exact .done _
    · exact .done _

theorem Walk.madeOf_makeMessage
    (chooses : ∀ extras, making.extras = some extras → extras.ChoosesBy rule) (leaf : Leaf)
    (walk : Walk) : (walk.makeMessage making leaf).MadeOf rule := by
  cases leaf with
  | fixed role content => exact .done _
  | written role prompt => exact walk.madeOf_withReply chooses _ _
  | call use =>
      simp only [Walk.makeMessage]
      split
      · exact .done _
      · exact .done _
      · exact walk.madeOf_withReply chooses _ _
  | result answer =>
      simp only [Walk.makeMessage]
      split
      · exact .done _
      · exact .done _
      · exact walk.madeOf_withReply chooses _ _

theorem Walk.madeOf_makeLeaf
    (chooses : ∀ extras, making.extras = some extras → extras.ChoosesBy rule) (leaf : Leaf)
    (walk : Walk) : (walk.makeLeaf making leaf).MadeOf rule := by
  refine .bind (walk.madeOf_makeMessage chooses leaf) fun walked => ?_
  rcases walked with halt | ⟨message, after⟩
  · exact .done _
  · dsimp only
    unfold Walk.append Walk.join
    split
    · exact .done _
    · split
      · exact .report (.done _)
      · exact .done _

/-- The generate phase makes the choices of the schema and those of the extra messages. -/
theorem madeOf_generate {root : Item} (written : (root.script .done).WrittenIn (.choosing rule))
    (chooses : ∀ extras, making.extras = some extras → extras.ChoosesBy rule)
    (seed rowIndex : Option Int) (stream : Random.Stream) (plan : Plan) :
    (generate making root seed rowIndex stream plan).MadeOf rule := by
  refine .bind (Script.madeOf_follow (Walk.madeOf_makeLeaf chooses) written _) fun walked => ?_
  rcases walked with halt | ⟨⟨⟩, walk⟩
  · exact .done _
  · dsimp only
    split <;> exact .done _

end

/-- The pool is as it was, or one identifier that was not used is marked under a rule. -/
def Shared.Selects (rule : Option Unique.UniqueBy → Prop) (before after : Shared) : Prop :=
  after.pool = before.pool ∨
    ∃ given key, rule (some given) ∧ before.pool.has given.collection key = false ∧
      after.pool = before.pool.mark given.collection key

theorem Walk.selects_chosen {uniqueBy : Option Unique.UniqueBy} (allowed : rule uniqueBy)
    (options : List (Choice Datum)) (walk : Walk) (shared : Shared) :
    shared.Selects rule (walk.chosen options uniqueBy shared).2 := by
  rcases ran : (Unique.choose options uniqueBy (some (walk.store shared.pool))).run
    walk.context.stream with ⟨⟨outcome, marked⟩, stream⟩
  cases outcome with
  | error error => exact .inl (by simp [chosen, ran])
  | ok choice =>
      cases phase : walk.context.phase with
      | check => exact .inl (by simp [chosen, ran, keepShared, phase])
      | generate =>
          have pool : walk.store shared.pool = shared.pool := by simp [store, phase]
          rw [pool] at ran
          obtain ⟨_, ⟨_, rfl⟩ | ⟨given, key, rfl, unused, rfl⟩⟩ := Unique.marks_of_run_choose ran
          · exact .inl (by simp [chosen, pool, ran, keepShared, phase])
          · exact .inr ⟨given, key, allowed, unused, by simp [chosen, pool, ran, keepShared, phase]⟩

theorem Walk.chosen_congr (options : List (Choice Datum)) (uniqueBy : Option Unique.UniqueBy)
    (walk : Walk) {left right : Shared} (same : left.pool = right.pool) :
    (walk.chosen options uniqueBy left).1 = (walk.chosen options uniqueBy right).1 ∧
      (walk.chosen options uniqueBy left).2.pool = (walk.chosen options uniqueBy right).2.pool := by
  simp only [Walk.chosen, same]
  split
  · exact ⟨rfl, same⟩
  · refine ⟨rfl, ?_⟩
    unfold Walk.keepShared
    split
    · exact same
    · rfl

/-- A choice that may be repeated does not look at the pool, and leaves it as it is. -/
theorem Walk.chosen_none (options : List (Choice Datum)) (walk : Walk) (left right : Shared) :
    (walk.chosen options none left).1 = (walk.chosen options none right).1 ∧
      (walk.chosen options none left).2 = left := by
  simp only [Walk.chosen, Unique.run_choose, Unique.candidatesIn, Option.map_none,
    Unique.Chosen.markIn]
  cases (Selection.candidates (Unique.numbered options) none :
      Except Error (List (Selection.Candidate (Nat × Datum) Float))) with
  | error error => exact ⟨rfl, rfl⟩
  | ok found =>
      dsimp only
      cases Selection.pick found walk.context.stream.next.1 with
      | error error => exact ⟨rfl, rfl⟩
      | ok candidate =>
          cases phase : walk.context.phase with
          | check => simp [keep, keepShared, drawn, within, store, Unique.Store.own, phase]
          | generate => simp [keep, keepShared, drawn, within, store, phase]

end Colloquy
