import Colloquy.Proofs.Resolution.Announcements

/-!
# Attempts

The generate phase attempts one announced leaf after another, until all are made or an attempt fails.
An attempt finds one message for each entry before it, and a leaf that is made leaves the stream and
the pool as the check phase has found them, unless what collects extra messages draws and nobody
verifies the draws.
-/

set_option autoImplicit false

namespace Colloquy

open Selection (Choice)

variable {μ : Type}

/-- A leaf whose turn has come in the generate phase, and what it finds. -/
structure Attempt (μ : Type) where
  leaf : Leaf
  walk : Walk
  both : Shared × μ

namespace Attempt

variable (making : Making) (environment : Environment Shared μ ModelCall (Except Error Reply))

/-- What the model is asked on account of the leaf. -/
def exchanges (attempt : Attempt μ) : List (ModelCall × Except Error Reply) :=
  (attempt.walk.makeMessage making attempt.leaf).exchanges environment attempt.both

/-- A message is made for the leaf, which may be other than planned. -/
def Makes (attempt : Attempt μ) : Prop :=
  ∃ message after, ((attempt.walk.makeMessage making attempt.leaf).run environment
    attempt.both).1 = .ok (message, after)

end Attempt

/-- The leaves that a script comes to in an environment. A leaf that fails is the last. -/
def Script.attempts (making : Making)
    (environment : Environment Shared μ ModelCall (Except Error Reply)) :
    Script → Walk → Shared × μ → List (Attempt μ)
  | done, _, _ => []
  | fail _, _, _ => []
  | draw next, walk, both =>
      (next walk.context.draw.1).attempts making environment (walk.within walk.context.draw.2) both
  | choose options uniqueBy next, walk, both =>
      match (walk.choose options uniqueBy).run environment both with
      | (.ok (place, walk), both) => (next place).attempts making environment walk both
      | (.error _, _) => []
  | entry leaf next, walk, both =>
      ⟨leaf, walk, both⟩ ::
        match (walk.makeLeaf making leaf).run environment both with
        | (.ok (_, walk), both) => next.attempts making environment walk both
        | (.error _, _) => []
  | list tool next, walk, both =>
      next.attempts making environment (walk.within (walk.context.addTool tool)) both
  | update change next, walk, both =>
      match walk.context.update change with
      | .ok context => next.attempts making environment (walk.within context) both
      | .error _ => []
  | observe next, walk, both => (next walk.context).attempts making environment walk both
  | ask call next, walk, both =>
      (next (environment.answer call both).1).attempts making environment walk
        (environment.answer call both).2
  | pause next, walk, both => next.attempts making environment walk (environment.meanwhile both)

section

variable {making : Making} {environment : Environment Shared μ ModelCall (Except Error Reply)}
variable {raised : Error → Prop}

theorem Walk.silent_append (message : Message) (walk : Walk) :
    (walk.append making message).IsSilent := by
  unfold append join
  split
  · trivial
  · split
    · exact fun _ => trivial
    · trivial

theorem Walk.exchanges_makeLeaf (leaf : Leaf) (walk : Walk) (both : Shared × μ) :
    (walk.makeLeaf making leaf).exchanges environment both =
      (walk.makeMessage making leaf).exchanges environment both := by
  unfold makeLeaf
  rw [Process.exchanges_bind]
  rcases (walk.makeMessage making leaf).run environment both with ⟨halt | ⟨message, after⟩, later⟩
  · exact List.append_nil _
  · exact (congrArg _ ((after.silent_append message).exchanges environment later)).trans
      (List.append_nil _)

/-- A script that asks nothing of its own asks what its leaves ask. -/
theorem Script.exchanges_follow {script : Script} (silent : script.IsSilent) (walk : Walk)
    (both : Shared × μ) :
    (script.follow (Walk.makeLeaf making) walk).exchanges environment both =
      (script.attempts making environment walk both).flatMap
        (Attempt.exchanges making environment) := by
  induction script generalizing walk both with
  | done => rfl
  | fail error => rfl
  | draw next ih => exact ih _ (silent _) _ _
  | choose options uniqueBy next ih =>
      simp only [follow, attempts, Process.exchanges_bind]
      rcases chosen : (walk.choose options uniqueBy).run environment both with
        ⟨halt | ⟨place, after⟩, later⟩
      · rfl
      · exact ih place (silent place) after later
  | entry leaf next ih =>
      simp only [follow, attempts, Process.exchanges_bind, Walk.exchanges_makeLeaf,
        List.flatMap_cons]
      refine congrArg _ ?_
      rcases made : (walk.makeLeaf making leaf).run environment both with
        ⟨halt | ⟨⟨⟩, after⟩, later⟩
      · rfl
      · exact ih silent after later
  | list tool next ih => exact ih silent _ _
  | update change next ih =>
      simp only [follow, attempts]
      cases walk.context.update change with
      | error error => rfl
      | ok context => exact ih silent _ _
  | observe next ih => exact ih _ (silent _) _ _
  | ask call next ih => exact silent.elim
  | pause next ih => exact ih silent _ _

theorem Walk.eq_of_lift {α : Type} {walk last : Walk} {result : Except Error α} {value : α}
    (lifted : walk.lift result = .ok (value, last)) : last = walk := by
  cases result with
  | error error => cases lifted
  | ok result =>
      cases lifted
      rfl

section Collected

variable {good : Walk → Shared → Prop} {walk : Walk} {shared : Shared}

/-- What holds of a walk once the extra messages are collected holds once the reply is read. -/
theorem Walk.good_withReply
    (stable : ∀ walk before after, after.pool = before.pool → good walk before → good walk after)
    (collected : ∀ target, ((extraMessages making.extras target).follow walk).Abides
      (.undisturbed raised) (fun walked after =>
        ∀ extra last, walked = .ok (extra, last) → good last after) shared)
    (make : Context → Except Error ModelRequest) {next : Reply → Walk → Walked Message}
    (reads : ∀ reply walk message last, next reply walk = .ok (message, last) → last = walk) :
    (walk.withReply making make next).Abides (.undisturbed raised)
      (fun walked after => ∀ message last, walked = .ok (message, last) → good last after)
      shared := by
  have failed {α : Type} (halt : Halt) (state : Shared) :
      (Process.done (.error halt) : RowProcess (Walked α)).Abides (.undisturbed raised)
        (fun walked after => ∀ value last, walked = .ok (value, last) → good last after) state :=
    fun _ _ _ _ returned => nomatch returned
  have requested : (walk.request making make).Abides (.undisturbed raised)
      (fun walked after => ∀ reply last, walked = .ok (reply, last) → good last after) shared := by
    unfold request
    split
    · split
      next request _ =>
        refine .bind ((collected request.target).mono fun walked state known => ?_)
        rcases walked with halt | ⟨extra, after⟩
        · exact failed halt state
        · intro now same
          refine ⟨trivial, fun answer _ later sameLater reply last returned => ?_⟩
          rw [Walk.eq_of_lift returned]
          exact stable _ _ _ (sameLater.trans same) (known extra after rfl)
      next error _ => exact failed ⟨error, walk⟩ shared
    · exact failed ⟨_, walk⟩ shared
  refine .bind (requested.mono fun walked state known => ?_)
  rcases walked with halt | ⟨reply, after⟩
  · exact failed halt state
  · intro now same message last returned
    rw [reads reply after message last returned]
    exact stable _ _ _ same (known reply after rfl)

/-- What holds of a walk once the extra messages are collected holds once a message is made. -/
theorem Walk.good_makeMessage
    (stable : ∀ walk before after, after.pool = before.pool → good walk before → good walk after)
    (start : good walk shared)
    (collected : ∀ target, ((extraMessages making.extras target).follow walk).Abides
      (.undisturbed raised) (fun walked after =>
        ∀ extra last, walked = .ok (extra, last) → good last after) shared)
    (leaf : Leaf) :
    (walk.makeMessage making leaf).Abides (.undisturbed raised)
      (fun walked after => ∀ message last, walked = .ok (message, last) → good last after)
      shared := by
  have lifted (result : Except Error Message) :
      (Process.done (walk.lift result) : RowProcess (Walked Message)).Abides (.undisturbed raised)
        (fun walked after => ∀ message last, walked = .ok (message, last) → good last after)
        shared := by
    intro after same message last returned
    rw [Walk.eq_of_lift returned]
    exact stable _ _ _ same start
  cases leaf with
  | fixed role content => exact lifted _
  | written role prompt =>
      exact Walk.good_withReply stable collected _ fun _ _ _ _ returned => Walk.eq_of_lift returned
  | call use =>
      simp only [makeMessage]
      split
      · exact lifted (.error _)
      · exact lifted _
      · exact Walk.good_withReply stable collected _ fun _ _ _ _ returned => Walk.eq_of_lift returned
  | result answer =>
      simp only [makeMessage]
      split
      · exact lifted (.error _)
      · exact lifted _
      · exact Walk.good_withReply stable collected _ fun _ _ _ _ returned => Walk.eq_of_lift returned

end Collected

/-- Nothing that a caller adds to the prompts draws from the stream of a row, or a draw would be
noticed. -/
def Making.KeepsDraws (raised : Error → Prop) (making : Making) : Prop :=
  making.verifyDraws = true ∨
    ∀ given, making.extras = some given → given.Steady raised

/-- A message that is made without a draw leaves the pool as it was. -/
theorem Walk.pool_makeMessage (making : Making) (leaf : Leaf) (walk : Walk) (shared : Shared) :
    (walk.makeMessage making leaf).Abides (.undisturbed raised)
      (fun walked after => ∀ message last, walked = .ok (message, last) →
        last.context.draws = walk.context.draws → after.pool = shared.pool) shared := by
  refine Walk.good_makeMessage ?_ (fun _ => rfl) ?_ leaf
  · exact fun _ _ _ same kept drawn => same.trans (kept drawn)
  · exact fun target => (extraMessages making.extras target).pool_follow walk shared

theorem Walk.draws_makeMessage
    (steady : ∀ given, making.extras = some given → given.Steady raised) (leaf : Leaf)
    {walk : Walk} (phase : walk.context.phase = .generate) (shared : Shared) :
    (walk.makeMessage making leaf).Abides (.undisturbed raised)
      (fun walked _ => ∀ message last, walked = .ok (message, last) →
        last.context.draws = walk.context.draws) shared := by
  refine Walk.good_makeMessage (fun _ _ _ _ kept => kept) rfl (fun target => ?_) leaf
  refine (stays_extraMessages steady target phase shared).mono fun walked after stays => ?_
  rintro extra last rfl
  exact congrArg Context.draws stays.2.1.context

/-- The message is of the kind that is planned, and a call that it makes is planned under its id. -/
structure PlanEntry.MetBy (entry : PlanEntry) (message : Message) : Prop where
  kind : message.kind = entry.kind
  call : entry.kind = .toolCall →
    ∃ call, message.Calls call ∧ entry.toolCallId = some call.id

theorem Fit.nullable_text_of_text {value : Datum} {id : String} {read : Option String}
    (named : Fit.text value = .ok id) (planned : Fit.nullable Fit.text value = .ok read) :
    read = some id := by
  unfold nullable at planned
  split at planned
  next null =>
    cases value with
    | null => cases named
    | _ => cases null
  next =>
    rw [named] at planned
    cases planned
    rfl

/-- The call that is made for an announced leaf has the id that was announced. -/
theorem PlanEntry.metBy_of_makes {leaf : Leaf} {draws : Nat} {entry : PlanEntry}
    (announced : Visit.AnnouncedBy ⟨leaf, draws⟩ entry) {walk after : Walk} {both : Shared × μ}
    {message : Message}
    (made : ((walk.makeMessage making leaf).run environment both).1 = .ok (message, after))
    (kind : entry.kind = message.kind) : entry.MetBy message := by
  refine ⟨kind.symm, fun calls => ?_⟩
  have emission : Emission.Made making environment ⟨leaf, walk.context, message,
      (walk.makeMessage making leaf).exchanges environment both⟩ := ⟨walk, both, after, rfl, made, rfl⟩
  cases leaf with
  | call use =>
      obtain ⟨call, arguments, ⟨makes, _, named, _, _⟩, _⟩ := emission.call rfl
      exact ⟨call, makes, Fit.nullable_text_of_text named announced.call⟩
  | fixed role content => exact nomatch calls.symm.trans announced.kind
  | written role prompt => exact nomatch calls.symm.trans announced.kind
  | result answer => exact nomatch calls.symm.trans announced.kind

theorem Walk.append_eq_ok {message : Message} {walk last : Walk} {both later : Shared × μ}
    (appended : (walk.append making message).run environment both = (.ok ((), last), later)) :
    walk.objection? making.verifyDraws message = none ∧ last = walk.addMessage message ∧
      later.1.pool = both.1.pool := by
  unfold append at appended
  cases objection : walk.objection? making.verifyDraws message with
  | some error =>
      rw [objection] at appended
      cases appended
  | none =>
      rw [objection] at appended
      unfold join at appended
      dsimp only at appended
      split at appended
      · cases appended
        exact ⟨rfl, rfl, rfl⟩
      · cases appended
        exact ⟨rfl, rfl, rfl⟩

theorem Walk.planned_of_no_objection {walk : Walk} {verifyDraws : Bool} {message : Message}
    {entry : PlanEntry} (accepted : walk.objection? verifyDraws message = none)
    (next : walk.context.plan.entries[walk.context.messages.length]? = some entry) :
    entry.kind = message.kind ∧
      (verifyDraws = true → entry.drawCount = walk.context.draws) := by
  simp only [objection?, next] at accepted
  split at accepted
  · cases accepted
  next alike =>
    split at accepted
    · cases accepted
    next drawn =>
      simp only [ne_eq, not_or, Decidable.not_not] at alike
      simp only [ne_eq, not_and, Decidable.not_not] at drawn
      exact ⟨alike.1, drawn⟩

/-- A leaf that is made as it was announced adds one message, and leaves the stream and the pool as
they were. -/
theorem Walk.makeLeaf_announced (respects : environment.Respects (.undisturbed raised))
    (keepsDraws : making.KeepsDraws raised) {leaf : Leaf} {entry : PlanEntry} {walk last : Walk}
    {both later : Shared × μ} (phase : walk.context.phase = .generate)
    (announced : Visit.AnnouncedBy ⟨leaf, walk.context.draws⟩ entry)
    (next : walk.context.plan.entries[walk.context.messages.length]? = some entry)
    (ran : (walk.makeLeaf making leaf).run environment both = (.ok ((), last), later)) :
    (∃ message after, ((walk.makeMessage making leaf).run environment both).1 =
        .ok (message, after) ∧ entry.MetBy message ∧
      last.context = { walk.context with messages := walk.context.messages ++ [message] }) ∧
    later.1.pool = both.1.pool := by
  unfold makeLeaf at ran
  rw [Process.run_bind] at ran
  have aside := (walk.aside_makeMessage making leaf).run environment both
  have kept := (walk.pool_makeMessage making leaf both.1).run respects
  have drawn (steady : ∀ given, making.extras = some given → given.Steady raised) :=
    (Walk.draws_makeMessage steady leaf phase both.1).run respects
  rcases made : (walk.makeMessage making leaf).run environment both with
    ⟨halt | ⟨message, after⟩, middle⟩
  · rw [made] at ran
    cases ran
  · rw [made] at ran aside kept drawn
    obtain ⟨accepted, rfl, pool⟩ := Walk.append_eq_ok ran
    have aside : walk.Aside after := aside
    rw [← aside.plan, ← aside.messages] at next
    obtain ⟨kind, verified⟩ := Walk.planned_of_no_objection accepted next
    have same : after.context.draws = walk.context.draws := by
      rcases keepsDraws with verify | steady
      · have counted := (verified verify).symm.trans announced.draws
        exact Int.ofNat.inj counted
      · exact drawn steady message after rfl
    have still := aside.still same
    refine ⟨⟨message, after, rfl, PlanEntry.metBy_of_makes announced (by rw [made]) kind, ?_⟩,
      pool.trans (kept message after rfl same)⟩
    simp only [addMessage, still.context]

namespace Attempt

/-- The attempt is at the visited leaf, by the plan, with one message for each entry before it. -/
structure Reaches (plan : Plan) (before : List PlanEntry) (visit : Visit) (attempt : Attempt μ) :
    Prop where
  leaf : attempt.leaf = visit.leaf
  plan : attempt.walk.context.plan = plan
  met : List.Forall₂ PlanEntry.MetBy before attempt.walk.context.messages

/-- Attempts at announced leaves, behind the entries `before`. They end with one that fails, unless
all leaves are made, in which case the walk may be complete. -/
inductive Chain (making : Making)
    (environment : Environment Shared μ ModelCall (Except Error Reply)) (plan : Plan) :
    List PlanEntry → List Visit → List PlanEntry → List (Attempt μ) → Bool → Prop where
  | ended (before : List PlanEntry) (complete : Bool) :
      Chain making environment plan before [] [] [] complete
  | failed {before entries : List PlanEntry} {visits : List Visit} {visit : Visit}
      {entry : PlanEntry} {attempt : Attempt μ} (announced : visit.AnnouncedBy entry)
      (reaches : attempt.Reaches plan before visit) :
      Chain making environment plan before (visit :: visits) (entry :: entries) [attempt] false
  | made {before entries : List PlanEntry} {visits : List Visit} {attempts : List (Attempt μ)}
      {complete : Bool} {visit : Visit} {entry : PlanEntry} {attempt : Attempt μ}
      (announced : visit.AnnouncedBy entry) (reaches : attempt.Reaches plan before visit)
      (makes : attempt.Makes making environment)
      (later : Chain making environment plan (before ++ [entry]) visits entries attempts complete) :
      Chain making environment plan before (visit :: visits) (entry :: entries)
        (attempt :: attempts) complete

end Attempt

namespace Walk

theorem run_choose_error {options : List (Selection.Choice Datum)} {uniqueBy : Option Unique.UniqueBy}
    {walk : Walk} (phase : walk.context.phase = .generate) {both : Shared × μ} {error : Error}
    {marked : Option Unique.Store} {stream : Random.Stream}
    (ran : (Unique.choose options uniqueBy (some both.1.pool)).run walk.context.stream =
      ((.error error, marked), stream)) :
    (walk.choose options uniqueBy).run environment both =
      (.error ⟨error, walk.drawn stream⟩, both) := by
  simp [choose, Process.run, chosen, store, phase, ran, halt]

/-- A choice of the generate phase marks in the pool. -/
theorem run_choose_ok {options : List (Selection.Choice Datum)} {uniqueBy : Option Unique.UniqueBy}
    {walk : Walk} (phase : walk.context.phase = .generate) {both : Shared × μ} {chosen : Unique.Chosen}
    {marked : Option Unique.Store} {stream : Random.Stream}
    (ran : (Unique.choose options uniqueBy (some both.1.pool)).run walk.context.stream =
      ((.ok chosen, marked), stream)) :
    (walk.choose options uniqueBy).run environment both =
      (.ok (chosen.place, walk.drawn stream),
        ({ both.1 with pool := marked.getD both.1.pool }, both.2)) := by
  simp [choose, Process.run, chosen_generate phase ran]

/-- The walk makes the leaves of a plan: there is one message for each entry before it. -/
structure KeepsPace (plan : Plan) (before : List PlanEntry) (walk : Walk) : Prop where
  phase : walk.context.phase = .generate
  plan : walk.context.plan = plan
  met : List.Forall₂ PlanEntry.MetBy before walk.context.messages

namespace KeepsPace

variable {plan : Plan} {before : List PlanEntry} {walk : Walk}

theorem drawn (pace : walk.KeepsPace plan before) (stream : Random.Stream) :
    (walk.drawn stream).KeepsPace plan before :=
  ⟨pace.phase, pace.plan, pace.met⟩

theorem addTool (pace : walk.KeepsPace plan before) (tool : ToolSpec) :
    (walk.within (walk.context.addTool tool)).KeepsPace plan before := by
  have kept := walk.context.keeps_addTool tool
  exact ⟨kept.phase.trans pace.phase, (kept.plan pace.phase).trans pace.plan,
    kept.messages.symm ▸ pace.met⟩

theorem next (pace : walk.KeepsPace plan before) {entry : PlanEntry} {entries : List PlanEntry}
    (ahead : plan.entries = before ++ entry :: entries) :
    walk.context.plan.entries[walk.context.messages.length]? = some entry := by
  rw [pace.plan, ahead, ← pace.met.length_eq]
  simp

theorem made (pace : walk.KeepsPace plan before) {entry : PlanEntry} {message : Message}
    (meets : entry.MetBy message) {last : Walk}
    (context : last.context = { walk.context with messages := walk.context.messages ++ [message] }) :
    last.KeepsPace plan (before ++ [entry]) := by
  constructor
  · rw [context]
    exact pace.phase
  · rw [context]
    exact pace.plan
  · rw [context]
    exact List.rel_append pace.met (.cons meets .nil)

end KeepsPace

end Walk

/-- On the announced leaves, a walk of the generate phase is a chain of attempts. -/
theorem Script.chain_attempts (respects : environment.Respects (.undisturbed raised))
    (keepsDraws : making.KeepsDraws raised) {script : Script} (drawing : script.WrittenIn .drawing)
    {plan : Plan} {before entries : List PlanEntry} {walk : Walk} {both : Shared × μ}
    (pace : walk.KeepsPace plan before) (ahead : plan.entries = before ++ entries)
    (announced : List.Forall₂ Visit.AnnouncedBy
      (script.visits walk.context.stream both.1.pool) entries) :
    Attempt.Chain making environment plan before
      (script.visits walk.context.stream both.1.pool) entries
      (script.attempts making environment walk both)
      ((script.follow (Walk.makeLeaf making) walk).run environment both).1.isOk := by
  induction drawing generalizing before entries walk both with
  | done =>
      cases announced
      exact .ended before _
  | fail error =>
      cases announced
      exact .ended before _
  | draw rest ih =>
      have drawn : (walk.within walk.context.draw.2).KeepsPace plan before :=
        ⟨pace.phase, pace.plan, pace.met⟩
      exact ih _ drawn ahead announced
  | @choose options uniqueBy next _ rest ih =>
      rcases ran : (Unique.choose options uniqueBy (some both.1.pool)).run walk.context.stream with
        ⟨⟨error | chosen, marked⟩, stream⟩
      · simp only [visits, ran, attempts, follow, Process.run_bind,
          Walk.run_choose_error pace.phase ran] at announced ⊢
        cases announced
        exact .ended before _
      · simp only [visits, ran, attempts, follow, Process.run_bind,
          Walk.run_choose_ok pace.phase ran] at announced ⊢
        let later : Shared × μ := ({ both.1 with pool := marked.getD both.1.pool }, both.2)
        have announced : List.Forall₂ Visit.AnnouncedBy ((next chosen.place).visits
          (walk.drawn stream).context.stream later.1.pool) entries := announced
        exact ih chosen.place (pace.drawn stream) ahead announced
  | @entry leaf next _ rest ih =>
      simp only [visits] at announced ⊢
      cases announced with
      | @cons visit entry visits entries here later =>
          have reaches : Attempt.Reaches plan before ⟨leaf, walk.context.stream.draws⟩
              ⟨leaf, walk, both⟩ := ⟨rfl, pace.plan, pace.met⟩
          simp only [attempts, follow, Process.run_bind]
          rcases ran : (walk.makeLeaf making leaf).run environment both with
            ⟨halt | ⟨⟨⟩, last⟩, both'⟩
          · exact .failed here reaches
          · obtain ⟨⟨message, after, made, meets, context⟩, pool⟩ := Walk.makeLeaf_announced respects
              keepsDraws pace.phase here (pace.next ahead) ran
            refine .made here reaches ⟨message, after, made⟩ ?_
            have stream : last.context.stream = walk.context.stream := by rw [context]
            rw [← stream, ← pool] at later ⊢
            exact ih (pace.made meets context) (by rw [ahead, List.append_cons]) later
  | @list tool next rest ih =>
      have stream := (walk.context.keeps_addTool tool).stream
      simp only [visits, attempts, follow] at announced ⊢
      rw [← stream] at announced ⊢
      exact ih (pace.addTool tool) ahead announced
  | @update change next rest ih =>
      have unchanged : walk.context.update change = .ok walk.context := by
        unfold Context.update
        rw [pace.phase]
      simp only [attempts, follow, unchanged]
      exact ih pace ahead announced
  | observe looks => exact looks.elim
  | ask looks => exact looks.elim
  | @pause next rest ih =>
      have same : (environment.meanwhile both).1.pool = both.1.pool := respects.meanwhile both
      simp only [visits, attempts, follow, Process.run] at announced ⊢
      rw [← same] at announced ⊢
      exact ih pace ahead announced

/-- What the generate phase attempts of a tree by a plan. -/
def attemptsOf (making : Making)
    (environment : Environment Shared μ ModelCall (Except Error Reply)) (root : Item)
    (seed rowIndex : Option Int) (stream : Random.Stream) (plan : Plan) (both : Shared × μ) :
    List (Attempt μ) :=
  (root.script .done).attempts making environment (.startGenerate seed rowIndex stream plan) both

theorem exchanges_generate_script (root : Item) (seed rowIndex : Option Int)
    (stream : Random.Stream) (plan : Plan) (both : Shared × μ) :
    (generate making root seed rowIndex stream plan).exchanges environment both =
      ((root.script .done).follow (Walk.makeLeaf making)
        (.startGenerate seed rowIndex stream plan)).exchanges environment both := by
  unfold generate
  rw [Process.exchanges_bind]
  refine (congrArg _ ?_).trans (List.append_nil _)
  rcases ((root.script .done).follow (Walk.makeLeaf making)
    (.startGenerate seed rowIndex stream plan)).run environment both with
      ⟨halt | ⟨⟨⟩, walk⟩, later⟩
  · rfl
  · dsimp only
    split <;> rfl

theorem exchanges_generate {root : Item} (silent : (root.script .done).IsSilent)
    (seed rowIndex : Option Int) (stream : Random.Stream) (plan : Plan) (both : Shared × μ) :
    (generate making root seed rowIndex stream plan).exchanges environment both =
      (attemptsOf making environment root seed rowIndex stream plan both).flatMap
        (Attempt.exchanges making environment) := by
  rw [exchanges_generate_script, Script.exchanges_follow silent]
  rfl

/-- By a plan of the check phase, the generate phase attempts the leaves that are visited. -/
theorem chain_of_check (respects : environment.Respects (.undisturbed raised))
    (keepsDraws : making.KeepsDraws raised) {root : Item} (drawing : root.WrittenIn .drawing)
    {seed rowIndex : Option Int} {stream : Random.Stream} {metadata : Entries}
    {before between : Shared × μ} (samePool : between.1.pool = before.1.pool) {plan : Plan}
    {walk : Walk} (checked : ((check root seed rowIndex stream metadata).run environment before).1 =
      .ok (plan, walk)) :
    ∃ complete, Attempt.Chain making environment plan []
        ((root.script .done).visits stream.reset before.1.pool) plan.entries
        (attemptsOf making environment root seed rowIndex walk.context.stream plan between)
        complete ∧
      (((generate making root seed rowIndex walk.context.stream plan).run environment
        between).1.isOk = true → complete = true) := by
  obtain ⟨announced, source⟩ := announced_of_check respects drawing checked
  have again : stream.reset =
      (Walk.startGenerate seed rowIndex walk.context.stream plan).context.stream := by
    simp only [Walk.startGenerate, Random.Stream.reset, source]
  rw [again, ← samePool] at announced ⊢
  refine ⟨_, Script.chain_attempts respects keepsDraws (Item.writtenIn_script drawing .done)
    ⟨rfl, rfl, .nil⟩ rfl announced, fun returned => ?_⟩
  unfold generate at returned
  rw [Process.run_bind] at returned
  rcases ran : ((root.script .done).follow (Walk.makeLeaf making)
    (.startGenerate seed rowIndex walk.context.stream plan)).run environment between with
      ⟨halt | ⟨⟨⟩, last⟩, later⟩
  · rw [ran] at returned
    cases returned
  · rfl

end

end Colloquy
