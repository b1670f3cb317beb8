import Colloquy.Proofs.Resolution.Verdict
import Colloquy.Proofs.Row.Marks
import Colloquy.Proofs.Unique.Stock

/-!
# Rows that pick from a stock

If the schema of a row makes one choice from a stock, then the row makes two: one in the check phase,
and one in the generate phase, which marks the identifier. Apart from them nothing that the row does
depends on the pool.
-/

set_option autoImplicit false

namespace Colloquy

open Selection (Choice)

/-- One choice is made from the stock, whichever way the script takes. All others may be repeated. -/
inductive Script.PicksOne (stock : Unique.Stock) : Script → Prop where
  | fail (error : Error) : PicksOne stock (.fail error)
  | draw {next : Float → Script} (rest : ∀ value, PicksOne stock (next value)) :
      PicksOne stock (.draw next)
  | pick {next : Nat → Script} (rest : ∀ place, (next place).WrittenIn (.choosing (· = none))) :
      PicksOne stock (.choose stock.options (some stock.rule) next)
  | choose {options : List (Choice Datum)} {next : Nat → Script}
      (rest : ∀ place, PicksOne stock (next place)) : PicksOne stock (.choose options none next)
  | entry {leaf : Leaf} {next : Script} (rest : PicksOne stock next) :
      PicksOne stock (.entry leaf next)
  | list {tool : ToolSpec} {next : Script} (rest : PicksOne stock next) :
      PicksOne stock (.list tool next)
  | update {change : MetadataUpdate} {next : Script} (rest : PicksOne stock next) :
      PicksOne stock (.update change next)
  | observe {next : Context → Script} (rest : ∀ context, PicksOne stock (next context)) :
      PicksOne stock (.observe next)
  | ask {call : ModelCall} {next : Except Error Reply → Script}
      (rest : ∀ reply, PicksOne stock (next reply)) : PicksOne stock (.ask call next)
  | pause {next : Script} (rest : PicksOne stock next) : PicksOne stock (.pause next)

/-- The walk is in a phase, and sees the identifiers that the pool has and no others. -/
structure Walk.Opens (phase : Phase) (walk : Walk) : Prop where
  inPhase : walk.context.phase = phase
  provisional : phase = .check → walk.provisional = .empty

/-- The phase that follows a phase. -/
def Phase.following : Phase → Option Phase
  | .check => some .generate
  | .generate => none

/-- The life makes a choice from the stock in the phase that is ahead and in those that follow, unless it
fails before. For the rest it goes on alike whatever the pool is, and leaves the pool as it is. -/
inductive RowRecipe.Picks (stock : Unique.Stock) {α : Type} :
    Option Phase → RowLife (Except Error α) → Prop where
  | done (value : α) : Picks stock none (.done (.ok value))
  | fail (ahead : Option Phase) (error : Error) : Picks stock ahead (.done (.error error))
  | step {ahead : Option Phase} {update : RowWorld → RowWorld}
      {next : RowWorld → RowLife (Except Error α)}
      (blind : ∀ left right : RowWorld, left.state = right.state →
        (update left).state = (update right).state ∧ next left = next right)
      (keeps : ∀ world, (update world).shared.pool = world.shared.pool ∧
        (update world).marked = world.marked)
      (rest : ∀ world, Picks stock ahead (next world)) : Picks stock ahead (.step update next)
  | ask {ahead : Option Phase} {call : ModelCall}
      {next : Except Error Reply → RowLife (Except Error α)}
      (rest : ∀ reply, Picks stock ahead (next reply)) : Picks stock ahead (.ask call next)
  | pause {ahead : Option Phase} {next : RowLife (Except Error α)} (rest : Picks stock ahead next) :
      Picks stock ahead (.pause next)
  | pick {phase : Phase} {walk : Walk} {next : Walked Nat → RowLife (Except Error α)}
      (opens : walk.Opens phase) (halts : ∀ halt, next (.error halt) = .done (.error halt.error))
      (rest : ∀ place after, Picks stock phase.following (next (.ok (place, after)))) :
      Picks stock (some phase)
        ((RowRecipe.onView (walk.choose stock.options (some stock.rule))).bind next)

theorem Context.phase_update {context after : Context} {change : MetadataUpdate}
    (updated : context.update change = .ok after) : after.phase = context.phase := by
  unfold Context.update at updated
  split at updated
  · cases updated
    rfl
  · obtain ⟨metadata, _, updated⟩ := bind_eq_ok.1 updated
    cases updated
    rfl

theorem RowWorld.withView_view (world : RowWorld) : world.withView world.view = world := rfl

namespace Walk

variable {phase : Phase} {walk : Walk}

theorem Opens.within (opens : walk.Opens phase) {context : Context}
    (same : context.phase = walk.context.phase) : (walk.within context).Opens phase :=
  ⟨same.trans opens.inPhase, opens.provisional⟩

theorem has_store (opens : walk.Opens phase) (pool : Unique.Store) (collection key : String) :
    (walk.store pool).has collection key = pool.has collection key := by
  unfold store
  rw [opens.inPhase]
  cases phase with
  | check =>
      rw [opens.provisional rfl]
      rfl
  | generate => rfl

/-- A choice that may be repeated leaves a walk as it opened. -/
theorem opens_of_chosen_none (opens : walk.Opens phase) {options : List (Choice Datum)}
    {after : Walk} {shared : Shared} {place : Nat}
    (result : (walk.chosen options none shared).1 = .ok (place, after)) : after.Opens phase := by
  have aside := walk.aside_chosen options none shared
  rw [result, Walked.walk_ok] at aside
  refine ⟨by rw [aside.context]; exact opens.inPhase, fun check => ?_⟩
  have same := opens.inPhase
  rw [check] at same
  rcases ran : (Unique.choose options none (some (walk.store shared.pool))).run
    walk.context.stream with ⟨⟨outcome, marked⟩, stream⟩
  cases outcome with
  | error error => simp [chosen, ran, halt] at result
  | ok choice =>
      obtain ⟨_, ⟨_, rfl⟩ | ⟨_, _, given, _⟩⟩ := Unique.marks_of_run_choose ran
      · simp only [chosen, ran, Except.ok.injEq, Prod.mk.injEq] at result
        rw [← result.2, ← opens.provisional check]
        simp [keep, store, drawn, within, Unique.Store.own, same]
      · cases given

theorem Opens.yields_choose_none (opens : walk.Opens phase) (options : List (Choice Datum)) :
    (walk.choose options none).Yields fun walked =>
      ∀ place after, walked = .ok (place, after) → after.Opens phase :=
  .step fun _ => .done fun _ _ result => opens_of_chosen_none opens result

theorem madeOf_choose_none (walk : Walk) (options : List (Choice Datum)) :
    (walk.choose options none).MadeOf (· = none) := by
  rw [← Process.bind_done (walk.choose options none)]
  exact .choose rfl fun _ => .done _

/-- The walk goes on as it opened, if it goes on. -/
def StaysOpen (phase : Phase) (walked : Walked Unit) : Prop :=
  ∀ after, walked = .ok ((), after) → after.Opens phase

theorem staysOpen_planLeaf (opens : walk.Opens .check) (leaf : Leaf) :
    (walk.planLeaf leaf).Yields (StaysOpen .check) := by
  unfold planLeaf
  split
  · refine .done ?_
    rintro after ⟨⟩
    exact opens.within rfl
  · refine .done ?_
    rintro after ⟨⟩

theorem staysOpen_makeLeaf (opens : walk.Opens .generate) (making : Making) (leaf : Leaf) :
    (walk.makeLeaf making leaf).Yields (StaysOpen .generate) := by
  refine .bind ((walk.aside_makeMessage making leaf).mono fun walked aside => ?_)
  rcases walked with halt | ⟨message, made⟩
  · refine .done ?_
    rintro after ⟨⟩
  · rw [Walked.walk_ok] at aside
    have generating : made.context.phase = .generate := by
      rw [aside.context]
      exact opens.inPhase
    dsimp only
    unfold append
    split
    · refine .done ?_
      rintro after ⟨⟩
    · refine (made.yields_join making message).mono fun walked joined => ?_
      subst joined
      rintro after ⟨⟩
      exact ⟨generating, fun check => by cases check⟩

end Walk

theorem RowRecipe.onView_bind {α β γ : Type} (process : RowProcess α) (further : α → RowProcess β)
    (next : β → RowLife γ) :
    (onView (process.bind further)).bind next =
      (onView process).bind fun result => (onView (further result)).bind next := by
  unfold onView
  rw [Process.zoom_bind, Process.bind_assoc]

namespace RowRecipe.Picks

variable {stock : Unique.Stock} {α β : Type} {ahead : Option Phase}

/-- What is done on the view of the pool makes no choice from the stock if its choices may be
repeated. -/
theorem onView {process : RowProcess β} (made : process.MadeOf (· = none)) {ends : β → Prop}
    (yields : process.Yields ends) {next : β → RowLife (Except Error α)}
    (rest : ∀ result, ends result → Picks stock ahead (next result)) :
    Picks stock ahead ((RowRecipe.onView process).bind next) := by
  induction made with
  | done result => exact rest result (yields ⟨.fresh, #[]⟩ ⟨.fresh, #[]⟩ trivial)
  | @choose options uniqueBy walk further allowed _ ih =>
      obtain rfl : uniqueBy = none := allowed
      refine .step ?_ ?_ fun world => ih _ (yields.of_step world.view)
      · intro left right same
        refine ⟨same, ?_⟩
        dsimp only
        rw [(walk.chosen_none options left.view right.view).1]
      · intro world
        dsimp only
        rw [(walk.chosen_none options world.view world.view).2]
        exact ⟨rfl, rfl⟩
  | report _ ih =>
      refine .step ?_ ?_ fun world => ih (yields.of_step world.view)
      · exact fun _ _ same => ⟨same, rfl⟩
      · exact fun _ => ⟨rfl, rfl⟩
  | ask _ ih => exact .ask fun reply => ih reply fun state => yields state reply trivial
  | pause _ ih => exact .pause (ih yields)

theorem halted {life : RowLife (Except Error α)} {error : Error}
    (ends : life = .done (.error error)) : Picks stock ahead life :=
  ends ▸ .fail ahead error

/-- A script that makes one choice from the stock makes it when it is followed in a phase. -/
theorem follow {phase : Phase} {script : Script} (picks : script.PicksOne stock)
    {emit : Leaf → Walk → RowProcess (Walked Unit)}
    (emits : ∀ leaf walk, (emit leaf walk).MadeOf (· = none))
    (stays : ∀ leaf {walk : Walk}, walk.Opens phase →
      (emit leaf walk).Yields (Walk.StaysOpen phase))
    {next : Walked Unit → RowLife (Except Error α)}
    (halts : ∀ halt, next (.error halt) = .done (.error halt.error))
    (rest : ∀ walk, Picks stock phase.following (next (.ok ((), walk)))) {walk : Walk}
    (opens : walk.Opens phase) :
    Picks stock (some phase) ((RowRecipe.onView (script.follow emit walk)).bind next) := by
  induction picks generalizing walk with
  | fail error => exact halted (halts _)
  | draw _ ih => exact ih _ (opens.within rfl)
  | @pick further written =>
      rw [Script.follow, onView_bind]
      refine .pick opens halts fun place after => ?_
      have free : ((further place).follow emit after).Yields fun _ => True :=
        fun _ => .of_free (fun _ _ => trivial) _ _
      refine onView (Script.madeOf_follow emits (written place) after) free fun walked _ => ?_
      rcases walked with halt | ⟨⟨⟩, last⟩
      · exact halted (halts halt)
      · exact rest last
  | @choose options further _ ih =>
      rw [Script.follow, onView_bind]
      refine onView (Walk.madeOf_choose_none walk options) (opens.yields_choose_none options)
        fun walked goesOn => ?_
      rcases walked with halt | ⟨place, after⟩
      · exact halted (halts halt)
      · exact ih place (goesOn place after rfl)
  | @entry leaf further _ ih =>
      rw [Script.follow, onView_bind]
      refine onView (emits leaf walk) (stays leaf opens) fun walked goesOn => ?_
      rcases walked with halt | ⟨⟨⟩, after⟩
      · exact halted (halts halt)
      · exact ih (goesOn after rfl)
  | @list tool _ _ ih =>
      refine ih (opens.within ?_)
      rw [Context.addTool_eq]
  | update _ ih =>
      unfold Script.follow
      split
      next context updated => exact ih (opens.within (Context.phase_update updated))
      next error failed => exact halted (halts _)
  | observe _ ih => exact ih _ opens
  | ask _ ih => exact .ask fun reply => ih reply opens
  | pause _ ih => exact .pause (ih opens)

theorem transition (recipe : RowRecipe) (target : RowState)
    {next : Except Error Unit → RowLife (Except Error α)}
    (refused : ∀ error, next (.error error) = .done (.error error))
    (entered : Picks stock ahead (next (.ok ()))) :
    Picks stock ahead ((recipe.transition target).bind next) := by
  refine .step ?_ (RowWorld.pool_tryEnter recipe.rowIndex target) fun world => ?_
  · rintro ⟨shared, state, marked⟩ ⟨shared', state', marked'⟩ same
    obtain rfl : state = state' := same
    refine ⟨?_, rfl⟩
    by_cases may : state.successors.contains target
    · simp only [RowWorld.tryEnter, RowWorld.mayEnter, RowWorld.enter, may, if_true]
    · simp only [RowWorld.tryEnter, RowWorld.mayEnter, may, if_false, Bool.false_eq_true]
  · dsimp only
    split
    · exact entered
    · exact halted (refused _)

theorem countTokens (recipe : RowRecipe) (conversation : Generated)
    {next : Option TokenCount → RowLife (Except Error α)}
    (rest : ∀ tokens, Picks stock ahead (next tokens)) :
    Picks stock ahead ((recipe.countTokens conversation).bind next) := by
  have perhaps (suspends : Bool) {process : RowLife (Option TokenCount)}
      (picks : Picks stock ahead (process.bind next)) :
      Picks stock ahead ((if suspends then .pause process else process).bind next) := by
    split
    · exact .pause picks
    · exact picks
  unfold RowRecipe.countTokens
  split
  · exact rest none
  · refine perhaps _ ?_
    split
    · exact rest _
    · refine .step ?_ ?_ fun _ => rest none
      · exact fun _ _ same => ⟨same, rfl⟩
      · exact fun _ => ⟨rfl, rfl⟩

theorem finish (recipe : RowRecipe) (plan : Plan) (conversation : Generated)
    (tokens : Option TokenCount) :
    Picks stock none (.done (recipe.finish plan conversation tokens)) := by
  cases recipe.finish plan conversation tokens with
  | ok row => exact .done row
  | error error => exact .fail none error

variable {root : Item} (picks : (root.script .done).PicksOne stock)

include picks

theorem check (seed rowIndex : Option Int) (stream : Random.Stream) (metadata : Entries)
    {next : Walked Plan → RowLife (Except Error α)}
    (halts : ∀ halt, next (.error halt) = .done (.error halt.error))
    (rest : ∀ planned, Picks stock (some .generate) (next (.ok planned))) :
    Picks stock (some .check)
      ((RowRecipe.onView (Colloquy.check root seed rowIndex stream metadata)).bind next) := by
  unfold Colloquy.check
  split
  next error failed => exact halted (halts _)
  next known _ =>
    rw [onView_bind]
    refine follow picks Walk.madeOf_planLeaf (fun leaf _ opens => Walk.staysOpen_planLeaf opens leaf)
      halts (fun walk => ?_) ⟨rfl, fun _ => rfl⟩
    refine .step ?_ ?_ fun _ => rest _
    · exact fun _ _ same => ⟨same, rfl⟩
    · exact fun _ => ⟨rfl, rfl⟩

theorem generate {making : Making}
    (chooses : ∀ extras, making.extras = some extras → extras.ChoosesBy (· = none))
    (seed rowIndex : Option Int) (stream : Random.Stream) (plan : Plan)
    {next : Walked Generated → RowLife (Except Error α)}
    (halts : ∀ halt, next (.error halt) = .done (.error halt.error))
    (rest : ∀ generated, Picks stock none (next (.ok generated))) :
    Picks stock (some .generate)
      ((RowRecipe.onView (Colloquy.generate making root seed rowIndex stream plan)).bind next) := by
  unfold Colloquy.generate
  rw [onView_bind]
  refine follow picks (Walk.madeOf_makeLeaf chooses)
    (fun leaf _ opens => Walk.staysOpen_makeLeaf opens making leaf) halts (fun walk => ?_)
    ⟨rfl, fun check => by cases check⟩
  dsimp only
  split
  · exact rest _
  · exact halted (halts _)

end RowRecipe.Picks

/-- What a row is made of that makes one choice from a stock. -/
structure RowRecipe.PicksFrom (stock : Unique.Stock) (recipe : RowRecipe) : Prop where
  schema : ∀ root, recipe.schema.resolve = .ok root → (root.script .done).PicksOne stock
  extras : ∀ extras, recipe.extras = some extras → extras.ChoosesBy (· = none)

theorem RowRecipe.PicksFrom.attempt {stock : Unique.Stock} {recipe : RowRecipe}
    (picks : recipe.PicksFrom stock) : Picks stock (some .check) recipe.attempt := by
  refine .transition recipe .checking (fun _ => rfl) ?_
  dsimp only
  split
  next error _ => exact .fail _ error
  next root resolved =>
    have one := picks.schema root resolved
    refine .check one recipe.seed (some recipe.rowIndex) recipe.stream recipe.metadata
      (fun _ => rfl) fun planned => ?_
    refine .transition recipe .checked (fun _ => rfl) ?_
    refine .transition recipe .generating (fun _ => rfl) ?_
    refine .generate one picks.extras recipe.seed (some recipe.rowIndex) recipe.stream planned.1
      (fun _ => rfl) fun generated => ?_
    exact .countTokens recipe generated.1 fun tokens =>
      .finish recipe planned.1 generated.1 tokens

end Colloquy
