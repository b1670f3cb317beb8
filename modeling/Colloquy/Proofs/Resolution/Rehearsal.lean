import Colloquy.Proofs.Resolution.Emissions
import Colloquy.Proofs.Resolution.Lockstep
import Colloquy.Proofs.Row.Alone
import Colloquy.Resolution.Session

/-!
# Rehearsals

A check is a rehearsal: it asks the model nothing and leaves the pool as it is, whether it ends with
a plan or with an error. On one stream it can therefore be repeated, and a generation that follows
does not notice how often it was.
-/

set_option autoImplicit false

namespace Colloquy

open Selection (Choice)

variable {μ : Type}

namespace Process

variable {σ ν Q R α β : Type}

/-- The process asks nothing. -/
def IsSilent : Process σ Q R α → Prop
  | done _ => True
  | step _ next => ∀ state, (next state).IsSilent
  | ask _ _ => False
  | pause next => next.IsSilent

theorem IsSilent.bind {process : Process σ Q R α} {next : α → Process σ Q R β}
    (silent : process.IsSilent) (rest : ∀ result, (next result).IsSilent) :
    (process.bind next).IsSilent := by
  induction process with
  | done result => exact rest result
  | step update further ih => exact fun state => ih state (silent state)
  | ask query further ih => exact silent.elim
  | pause further ih => exact ih silent

theorem IsSilent.exchanges {process : Process σ Q R α} (silent : process.IsSilent)
    (environment : Environment σ μ Q R) (both : σ × μ) :
    process.exchanges environment both = [] := by
  induction process generalizing both with
  | done result => rfl
  | step update next ih => exact ih _ (silent _) _
  | ask query next ih => exact silent.elim
  | pause next ih => exact ih silent _

end Process

/-- The environment knows of the state only what can be seen, and leaves that as it is. It answers by
that and by its memory, which it keeps at the pauses. -/
structure Environment.SeesOnly {σ ν Q R : Type} (environment : Environment σ μ Q R)
    (view : σ → ν) : Prop where
  idle : ∀ both, view (environment.meanwhile both).1 = view both.1 ∧
    (environment.meanwhile both).2 = both.2
  keeps : ∀ query both, view (environment.answer query both).2.1 = view both.1
  answer : ∀ query left right memory, view left = view right →
    (environment.answer query (left, memory)).1 = (environment.answer query (right, memory)).1 ∧
      (environment.answer query (left, memory)).2.2 = (environment.answer query (right, memory)).2.2

theorem Environment.SeesOnly.undisturbed
    {environment : Environment Shared μ ModelCall (Except Error Reply)}
    (sees : environment.SeesOnly Shared.pool) :
    environment.Respects (.undisturbed fun _ => True) :=
  ⟨fun both => (sees.idle both).1, fun _ _ _ _ => trivial, sees.keeps⟩

namespace Environment.SeesOnly

variable {σ ν Q R α β : Type} {environment : Environment σ μ Q R} {view : σ → ν}

/-- Processes that are alike come to the same from states that look the same, and ask the same. -/
theorem run_alike (sees : environment.SeesOnly view) {related : α → β → Prop}
    {process : Process σ Q R α} {process' : Process σ Q R β}
    (alike : process.Alike view related process') {left right : σ × μ}
    (same : view left.1 = view right.1) (memory : left.2 = right.2) :
    related (process.run environment left).1 (process'.run environment right).1 ∧
      view (process.run environment left).2.1 = view (process'.run environment right).2.1 ∧
      process.exchanges environment left = process'.exchanges environment right := by
  induction alike generalizing left right with
  | done related => exact ⟨related, same, rfl⟩
  | step seen _ ih => exact ih _ _ same (seen _ _ same) memory
  | @ask query next next' _ ih =>
      obtain ⟨left, kept⟩ := left
      obtain ⟨right, kept'⟩ := right
      cases memory
      obtain ⟨reply, remembers⟩ := sees.answer query left right kept same
      have looks := (sees.keeps query (left, kept)).trans
        (same.trans (sees.keeps query (right, kept)).symm)
      obtain ⟨results, states, exchanged⟩ :=
        ih (environment.answer query (left, kept)).1 looks remembers
      simp only [Process.run, Process.exchanges, ← reply]
      exact ⟨results, states, congrArg _ exchanged⟩
  | pause _ ih =>
      obtain ⟨looks, remembers⟩ := sees.idle left
      obtain ⟨looks', remembers'⟩ := sees.idle right
      exact ih (looks.trans (same.trans looks'.symm))
        (remembers.trans (memory.trans remembers'.symm))

theorem memory_run (sees : environment.SeesOnly view) {process : Process σ Q R α}
    (silent : process.IsSilent) (both : σ × μ) : (process.run environment both).2.2 = both.2 := by
  induction process generalizing both with
  | done result => rfl
  | step update next ih => exact ih _ (silent _) _
  | ask query next ih => exact silent.elim
  | pause next ih => exact (ih silent _).trans (sees.idle both).2

end Environment.SeesOnly

/-- Nothing in the script asks the model: the code of its author only draws, chooses and looks. -/
def Script.IsSilent : Script → Prop
  | done => True
  | fail _ => True
  | draw next => ∀ value, (next value).IsSilent
  | choose _ _ next => ∀ place, (next place).IsSilent
  | entry _ next => next.IsSilent
  | list _ next => next.IsSilent
  | update _ next => next.IsSilent
  | observe next => ∀ context, (next context).IsSilent
  | ask _ _ => False
  | pause next => next.IsSilent

theorem Script.silent_follow {emit : Leaf → Walk → RowProcess (Walked Unit)}
    (emits : ∀ leaf walk, (emit leaf walk).IsSilent) {script : Script} (silent : script.IsSilent)
    (walk : Walk) : (script.follow emit walk).IsSilent := by
  induction script generalizing walk with
  | done => trivial
  | fail error => trivial
  | draw next ih => exact ih _ (silent _) _
  | choose options uniqueBy next ih =>
      rw [Script.follow]
      refine .bind (fun _ => trivial) fun walked => ?_
      rcases walked with halt | ⟨place, after⟩
      · trivial
      · exact ih place (silent place) after
  | entry leaf next ih =>
      rw [Script.follow]
      refine .bind (emits leaf walk) fun walked => ?_
      rcases walked with halt | ⟨⟨⟩, after⟩
      · trivial
      · exact ih silent after
  | list tool next ih => exact ih silent _
  | update change next ih =>
      unfold Script.follow
      split
      · exact ih silent _
      · trivial
  | observe next ih => exact ih _ (silent _) walk
  | ask call next ih => exact silent.elim
  | pause next ih => exact ih silent walk

theorem Walk.silent_planLeaf (leaf : Leaf) (walk : Walk) : (walk.planLeaf leaf).IsSilent := by
  unfold Walk.planLeaf
  split <;> trivial

theorem silent_check {root : Item} (silent : (root.script .done).IsSilent)
    (seed rowIndex : Option Int) (stream : Random.Stream) (metadata : Entries) :
    (check root seed rowIndex stream metadata).IsSilent := by
  unfold check
  split
  · trivial
  · refine .bind (Script.silent_follow Walk.silent_planLeaf silent _) fun walked => ?_
    rcases walked with halt | ⟨⟨⟩, walk⟩
    · trivial
    · exact fun _ => trivial

/-- The process leaves the pool as it finds it, whatever others do to the pool and answer. -/
def Contract.sparing : Contract Shared ModelCall (Except Error Reply) where
  relies _ _ := True
  guarantees before after := after.pool = before.pool
  answers _ _ := True
  relies_refl _ := trivial
  relies_trans _ _ := trivial

/-- An update of the metadata in the check phase changes nothing else. -/
theorem Walk.update_check {walk : Walk} (phase : walk.context.phase = .check)
    {change : MetadataUpdate} {context : Context} (updated : walk.context.update change = .ok context) :
    (walk.within context).context.phase = .check ∧
      (walk.within context).context.stream = walk.context.stream ∧
      (walk.within context).store = walk.store := by
  unfold Context.update at updated
  rw [phase] at updated
  obtain ⟨metadata, _, updated⟩ := bind_eq_ok.1 updated
  cases updated
  refine ⟨rfl, rfl, funext fun pool => ?_⟩
  simp only [Walk.store, Walk.within, phase]

theorem Script.sparing_follow (script : Script) {walk : Walk}
    (phase : walk.context.phase = .check) (shared : Shared) :
    (script.follow Walk.planLeaf walk).Abides .sparing (fun _ _ => True) shared := by
  induction script generalizing walk shared with
  | done => exact fun _ _ => trivial
  | fail error => exact fun _ _ => trivial
  | draw next ih =>
      have drawn : (walk.within walk.context.draw.2).context.phase = .check := phase
      exact ih _ drawn shared
  | choose options uniqueBy next ih =>
      simp only [Script.follow, Walk.choose, Process.bind]
      -- The marks of a choice go to the walk: the overlay is all that the check phase writes to.
      intro now _
      refine ⟨congrArg Shared.pool (Walk.chosen_check_shared phase options uniqueBy now), ?_⟩
      have aside := walk.aside_chosen options uniqueBy now
      dsimp only
      cases result : (walk.chosen options uniqueBy now).1 with
      | error halt => exact fun _ _ => trivial
      | ok chosen =>
          obtain ⟨place, after⟩ := chosen
          rw [result] at aside
          have kept : after.context.phase = .check := by
            rw [show after.context = _ from aside.context]
            exact phase
          exact ih place kept _
  | entry leaf next ih =>
      simp only [Script.follow, Walk.planLeaf]
      cases leaf.plan walk.context with
      | error error => exact fun _ _ => trivial
      | ok entry =>
          have added : (walk.within (walk.context.addEntry entry)).context.phase = .check := phase
          exact ih added shared
  | list tool next ih =>
      have listed : (walk.within (walk.context.addTool tool)).context.phase = .check := by
        rw [Context.addTool_eq]
        exact phase
      exact ih listed shared
  | update change next ih =>
      unfold Script.follow
      cases updated : walk.context.update change with
      | error error => exact fun _ _ => trivial
      | ok context =>
          exact ih (Walk.update_check phase updated).1 shared
  | observe next ih => exact ih _ phase shared
  | ask call next ih => exact fun reply _ => ih reply phase shared
  | pause next ih => exact ih phase shared

theorem sparing_check (root : Item) (seed rowIndex : Option Int) (stream : Random.Stream)
    (metadata : Entries) (shared : Shared) :
    (check root seed rowIndex stream metadata).Abides .sparing (fun _ _ => True) shared := by
  unfold check
  split
  · exact fun _ _ => trivial
  · refine .bind ((Script.sparing_follow _ rfl shared).mono fun walked after _ => ?_)
    rcases walked with halt | ⟨⟨⟩, walk⟩
    · exact fun _ _ => trivial
    · exact fun _ _ => ⟨rfl, fun _ _ => trivial⟩

/-- What a check comes to has drawn from the stream that it was given, started over. -/
theorem check_source (root : Item) (seed rowIndex : Option Int) (stream : Random.Stream)
    (metadata : Entries) :
    (check root seed rowIndex stream metadata).Yields fun walked =>
      (Walked.walk walked).context.stream.source = stream.source := by
  unfold check
  split
  · exact .done rfl
  · refine .bind ((Script.lasting_follow Walk.lasting_plansOn Walk.plansOn_planLeaf _ _).mono ?_)
    intro walked later
    rcases walked with halt | ⟨⟨⟩, walk⟩
    · exact .done later.stream.source
    · exact .step fun _ => .done later.stream.source

/-- A check starts its stream over. -/
theorem check_congr {stream again : Random.Stream} (same : again.source = stream.source)
    (root : Item) (seed rowIndex : Option Int) (metadata : Entries) :
    check root seed rowIndex again metadata = check root seed rowIndex stream metadata := by
  simp only [check, Walk.startCheck, Random.Stream.reset, same]

/-- Of all that rows share, a row sees nothing but the pool. -/
theorem Process.MadeOf.alike_pool {α : Type} {process : RowProcess α}
    (made : process.MadeOf fun _ => True) : process.Alike Shared.pool Eq process :=
  (Sight.whole fun _ => True).alike_madeOf made

namespace Session

/-- Checks a tree a number of times, one time after the other. -/
def rehearse (root : Item) : Nat → Session → RowProcess (List (Except Error Plan) × Session)
  | 0, session => .done ([], session)
  | count + 1, session =>
      (session.check root).bind fun (outcome, session) =>
        (rehearse root count session).bind fun (outcomes, session) =>
          .done (outcome :: outcomes, session)

variable {root : Item}

theorem silent_check (silent : (root.script .done).IsSilent) (session : Session) :
    (session.check root).IsSilent := by
  refine .bind (Colloquy.silent_check silent _ _ _ _) fun walked => ?_
  rcases walked with halt | ⟨plan, walk⟩ <;> trivial

theorem sparing_check (root : Item) (session : Session) (shared : Shared) :
    (session.check root).Abides .sparing (fun _ _ => True) shared := by
  refine .bind ((Colloquy.sparing_check root _ _ _ _ shared).mono fun walked after _ => ?_)
  rcases walked with halt | ⟨plan, walk⟩ <;> exact fun _ _ => trivial

/-- The session after a check differs from the one before in its plan and in how far its stream is. -/
structure Rehearsed (before after : Session) : Prop where
  same : after = { before with stream := after.stream, plan := after.plan }
  source : after.stream.source = before.stream.source

theorem rehearsed_check (root : Item) (session : Session) :
    (session.check root).Yields fun result => session.Rehearsed result.2 := by
  refine .bind ((check_source root session.seed session.rowIndex session.stream
    session.metadata).mono fun walked source => ?_)
  rcases walked with halt | ⟨plan, walk⟩ <;> exact .done ⟨rfl, source⟩

/-- A session is checked as it was before it was checked. -/
theorem Rehearsed.check {before after : Session} (rehearsed : before.Rehearsed after)
    (root : Item) : after.check root = before.check root := by
  rw [rehearsed.same]
  unfold Session.check
  rw [check_congr rehearsed.source]

theorem madeOf_check (root : Item) (session : Session) :
    (session.check root).MadeOf fun _ => True := by
  refine .bind (Colloquy.madeOf_check (.any _) _ _ _ _) fun walked => ?_
  rcases walked with halt | ⟨plan, walk⟩ <;> exact .done _

theorem madeOf_generate (root : Item) (session : Session) :
    (session.generate root).MadeOf fun _ => True := by
  unfold Session.generate
  split
  · exact .done _
  · refine .bind (.bind (Colloquy.madeOf_generate (.any _) (fun extras _ => .any extras) _ _ _ _)
      fun walked => ?_) fun result => .done _
    rcases walked with halt | ⟨conversation, walk⟩ <;> exact .done _

variable {environment : Environment Shared μ ModelCall (Except Error Reply)}

/-- A check that nobody disturbs leaves the pool as it was. -/
theorem pool_check {raised : Error → Prop} (respects : environment.Respects (.undisturbed raised))
    (root : Item) (session : Session) (both : Shared × μ) :
    ((session.check root).run environment both).2.1.pool = both.1.pool := by
  have respects : environment.Respects (.preserving Shared.pool fun _ _ => True) :=
    ⟨respects.meanwhile, fun _ _ => trivial, respects.relies⟩
  have sparing : (session.check root).Abides (.preserving Shared.pool fun _ _ => True)
      (fun _ _ => True) both.1 := by
    refine (session.sparing_check root both.1).weaken ?_ ?_ ?_
    · exact fun _ _ _ => trivial
    · exact fun _ _ kept => kept
    · exact fun _ _ _ => trivial
  have kept := sparing.within fun before after => after.pool = before.pool
  refine ((kept ?_ ?_ ?_ ?_).run respects).2
  · exact fun _ => rfl
  · exact fun first second => second.trans first
  · exact fun relied => relied
  · exact fun owed => owed

/-- A check comes to the same wherever the pool and the memory of the environment are the same. -/
theorem check_again (sees : environment.SeesOnly Shared.pool) (session : Session)
    {before after : Shared × μ} (pool : after.1.pool = before.1.pool)
    (memory : after.2 = before.2) :
    ((((session.check root).run environment before).1.2.check root).run environment after).1 =
      ((session.check root).run environment before).1 := by
  have rehearsed := (session.rehearsed_check root).run environment before
  rw [rehearsed.check root]
  exact (sees.run_alike (session.madeOf_check root).alike_pool pool memory).1

theorem run_rehearse_succ (root : Item) (count : Nat) (session : Session) (both : Shared × μ) :
    let first := (session.check root).run environment both
    let rest := (rehearse root count first.1.2).run environment first.2
    (rehearse root (count + 1) session).run environment both =
      ((first.1.1 :: rest.1.1, rest.1.2), rest.2) := by
  intro first rest
  rw [rehearse, Process.run_bind]
  exact Process.run_bind _ _ environment first.2

theorem run_rehearse (sees : environment.SeesOnly Shared.pool)
    (silent : (root.script .done).IsSilent) (count : Nat) (session : Session)
    (both : Shared × μ) :
    let once := (session.check root).run environment both
    let often := (rehearse root (count + 1) session).run environment both
    often.1 = (List.replicate (count + 1) once.1.1, once.1.2) ∧
      often.2.1.pool = both.1.pool ∧ often.2.2 = both.2 := by
  induction count generalizing session both with
  | zero =>
      intro once often
      have same : often = (([once.1.1], once.1.2), once.2) := run_rehearse_succ root 0 session both
      rw [same]
      exact ⟨rfl, pool_check sees.undisturbed root session both,
        sees.memory_run (session.silent_check silent) both⟩
  | succ count ih =>
      intro once often
      have pool := pool_check sees.undisturbed root session both
      have memory := sees.memory_run (session.silent_check silent) both
      have again : ((once.1.2.check root).run environment once.2).1 = once.1 :=
        check_again sees session pool memory
      obtain ⟨outcomes, pool', memory'⟩ := ih once.1.2 once.2
      rw [again] at outcomes
      have same : often = _ := run_rehearse_succ root (count + 1) session both
      rw [same]
      refine ⟨?_, pool'.trans pool, memory'.trans memory⟩
      show (once.1.1 :: _, _) = _
      rw [outcomes]
      rfl

/-- Whether a check ends with a plan or with an error, it asks the model nothing, and each of its steps
leaves the pool as it finds it. If nobody else touches the pool, then all checks of a session on its
stream come to the same, and a generation that follows returns, asks and marks the same, however often
the schema was checked before. -/
theorem rehearsals_agree {μ : Type}
    (environment : Environment Shared μ ModelCall (Except Error Reply)) (root : Item)
    (silent : (root.script .done).IsSilent) (session : Session) (both : Shared × μ) :
    (session.check root).exchanges environment both = [] ∧
      (session.check root).Abides .sparing (fun _ _ => True) both.1 ∧
      (environment.Respects (.undisturbed fun _ => True) →
        ((session.check root).run environment both).2.1.pool = both.1.pool) ∧
      (environment.SeesOnly Shared.pool → ∀ count,
        let once := (session.check root).run environment both
        let often := (rehearse root (count + 1) session).run environment both
        let made := (once.1.2.generate root).run environment once.2
        let madeLater := (often.1.2.generate root).run environment often.2
        often.1 = (List.replicate (count + 1) once.1.1, once.1.2) ∧
          often.2.1.pool = both.1.pool ∧
          madeLater.1 = made.1 ∧ madeLater.2.1.pool = made.2.1.pool ∧
          (often.1.2.generate root).exchanges environment often.2 =
            (once.1.2.generate root).exchanges environment once.2) := by
  refine ⟨(session.silent_check silent).exchanges environment both,
    session.sparing_check root both.1, fun respects => pool_check respects root session both, ?_⟩
  intro sees count once often made madeLater
  obtain ⟨outcomes, pool, memory⟩ := run_rehearse sees silent count session both
  have poolOnce := pool_check sees.undisturbed root session both
  have memoryOnce := sees.memory_run (session.silent_check silent) both
  have same : often.1.2 = once.1.2 := congrArg Prod.snd outcomes
  have later := sees.run_alike (once.1.2.madeOf_generate root).alike_pool
    (pool.trans poolOnce.symm) (memory.trans memoryOnce.symm)
  refine ⟨outcomes, pool, ?_⟩
  rw [← same] at later
  simp only [made, madeLater, ← same]
  exact later

end Session

/-- Code that looks at the context and draws, and then one of two greetings, each for one use. -/
def rehearsedGreeting : Item :=
  .list [
    .node (.dynamic (.observe fun context => .draw fun _ =>
      .done (.node (.leaf (.fixed (.text "system") (.int context.draws)))))),
    .node (.oneOf [
      .plain (.node (.leaf (.fixed (.text "user") (.text "Hello")))),
      .plain (.node (.leaf (.fixed (.text "user") (.text "Good day"))))]
      (some ⟨"greetings", some (.named (.text "content"))⟩))]

theorem silent_rehearsedGreeting : (rehearsedGreeting.script .done).IsSilent := by
  intro context value place
  match place with
  | 0 => trivial
  | 1 => trivial
  | _ + 2 => trivial

theorem Environment.quiet_seesOnly : Environment.quiet.SeesOnly Shared.pool :=
  ⟨fun _ => ⟨rfl, rfl⟩, fun _ _ => rfl, fun _ _ _ _ _ => ⟨rfl, rfl⟩⟩

/-- A session that has resolved nothing yet. -/
def firstSession : Session :=
  ⟨⟨true, none, true, true⟩, some 7, none, [], .ofSource (.seeded 7), none⟩

/-- A view of a store that has marked one of two greetings. -/
def greetedView : Shared :=
  ⟨.tracking [("greetings", "str:Hello")] (.mark .fresh "greetings" "str:Hello"), #[]⟩

theorem Session.rehearsals_agree_greeting :
    (rehearsedGreeting.script .done).IsSilent ∧ Environment.quiet.SeesOnly Shared.pool ∧
      ((Session.rehearse rehearsedGreeting 3 firstSession).run .quiet (greetedView, ())).1.1 =
        List.replicate 3 ((firstSession.check rehearsedGreeting).run .quiet (greetedView, ())).1.1 ∧
      ((Session.rehearse rehearsedGreeting 3 firstSession).run .quiet (greetedView, ())).2.1.pool =
        greetedView.pool := by
  obtain ⟨_, _, _, agree⟩ := Session.rehearsals_agree .quiet rehearsedGreeting
    silent_rehearsedGreeting firstSession (greetedView, ())
  obtain ⟨outcomes, pool, _⟩ := agree Environment.quiet_seesOnly 2
  exact ⟨silent_rehearsedGreeting, Environment.quiet_seesOnly, congrArg Prod.fst outcomes, pool⟩

end Colloquy
