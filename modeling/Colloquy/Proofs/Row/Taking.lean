import Colloquy.Proofs.Row.Picking

/-!
# Rows that take from a stock

A row that picks from a stock fails if the stock is spent at the moment of one of its choices. If that is
the only way in which it fails, then among rows that take from the stock as well it either takes one
identifier and is complete, or it takes none and has found the stock spent.
-/

set_option autoImplicit false

namespace Colloquy

variable {stock : Unique.Stock} {answers : ModelCall → Except Error Reply → Prop} {α : Type}

namespace RowWorld

/-- The row has taken from the stock, or may still take from it. -/
def HasLeft (stock : Unique.Stock) (world : RowWorld) : Prop :=
  ∃ key ∈ stock.keys, stock.uses world.shared.pool key = false ∨
    (stock.collection, key) ∈ world.marked

theorem HasLeft.keep {before after : RowWorld} (hasLeft : before.HasLeft stock)
    (pool : after.shared.pool = before.shared.pool) (marked : after.marked = before.marked) :
    after.HasLeft stock := by
  unfold HasLeft
  rw [pool, marked]
  exact hasLeft

theorem hasLeft_of_not_spent {world : RowWorld} (left : ¬stock.Spent world.shared.pool) :
    world.HasLeft stock := by
  simp only [Unique.Stock.Spent, Classical.not_forall, Bool.not_eq_true] at left
  obtain ⟨key, member, unused⟩ := left
  exact ⟨key, member, .inl unused⟩

/-- Others take from the stock and leave something to the row. -/
def leaving (stock : Unique.Stock) (answers : ModelCall → Except Error Reply → Prop) :
    Contract RowWorld ModelCall (Except Error Reply) where
  relies before after := after.state = before.state ∧ after.marked = before.marked ∧
    stock.Dwindles before.shared.pool after.shared.pool ∧
    (before.HasLeft stock → after.HasLeft stock)
  guarantees _ _ := True
  answers := answers
  relies_refl _ := ⟨rfl, rfl, .refl _, id⟩
  relies_trans first second := ⟨second.1.trans first.1, second.2.1.trans first.2.1,
    first.2.2.1.trans second.2.2.1, fun held => second.2.2.2 (first.2.2.2 held)⟩

/-- Others take from the stock, and so may the row, which marks unused identifiers only. -/
def taking (stock : Unique.Stock) (answers : ModelCall → Except Error Reply → Prop) :
    Contract RowWorld ModelCall (Except Error Reply) where
  relies before after := after.state = before.state ∧ after.marked = before.marked ∧
    stock.Dwindles before.shared.pool after.shared.pool
  guarantees before after := Moves (fun _ => True) before after ∧
    stock.Dwindles before.shared.pool after.shared.pool
  answers := answers
  relies_refl _ := ⟨rfl, rfl, .refl _⟩
  relies_trans first second := ⟨second.1.trans first.1, second.2.1.trans first.2.1,
    first.2.2.trans second.2.2⟩

theorem taking_keep {before after : RowWorld} (pool : after.shared.pool = before.shared.pool)
    (marked : after.marked = before.marked) : (taking stock answers).guarantees before after :=
  ⟨.keep pool marked, .of_eq pool⟩

end RowWorld

namespace RowRecipe

/-- What the choice that is ahead adds to the marks of a row. -/
def Takes (stock : Unique.Stock) (ahead : Option Phase) (before after : List (String × String)) :
    Prop :=
  match ahead with
  | none => after = before
  | some _ => ∃ key ∈ stock.keys, after = before ++ [(stock.collection, key)]

/-- How a part of the life of a row ends: without its choice since the stock is spent, or as it may end
in a world that looks the same to the row and has something left. -/
inductive Sought (stock : Unique.Stock) (ends : Except Error α → RowWorld → Prop)
    (ahead : Option Phase) (marked : List (String × String)) (result : Except Error α)
    (after : RowWorld) : Prop where
  | spent (choosing : ahead.isSome) (failed : result = .error (.exhausted stock.collection))
      (kept : after.marked = marked) (spent : stock.Spent after.shared.pool)
  | ended (other : RowWorld) (state : other.state = after.state) (ends : ends result other)
      (takes : ∀ value, result = .ok value → Takes stock ahead marked after.marked)

/-- A choice from a spent stock fails in the same way whatever is used, or since the stock is spent. -/
theorem chosen_of_spent {walk : Walk} {phase : Phase} (opens : walk.Opens phase) {shared : Shared}
    (spent : stock.Spent shared.pool) :
    (∃ halt, ∀ other, walk.chosen stock.options (some stock.rule) other = (.error halt, other)) ∨
      ∃ halt : Halt, halt.error = .exhausted stock.collection ∧
        walk.chosen stock.options (some stock.rule) shared = (.error halt, shared) := by
  have spent : stock.Spent (walk.store shared.pool) := by
    intro key member
    have known := spent key member
    unfold Unique.Stock.uses at known ⊢
    rw [Walk.has_store opens]
    exact known
  rcases Unique.Stock.candidatesIn_of_spent spent with ⟨error, failed⟩ | exhausted
  · refine .inl ⟨⟨error, walk.drawn walk.context.stream⟩, fun other => ?_⟩
    simp only [Walk.chosen, Unique.run_choose, failed]
    rfl
  · refine .inr ⟨⟨_, walk.drawn walk.context.stream⟩, rfl, ?_⟩
    simp only [Walk.chosen, Unique.run_choose, exhausted]
    rfl

theorem chosen_of_error {options : List (Selection.Choice Datum)}
    {uniqueBy : Option Unique.UniqueBy} {walk : Walk} {shared : Shared} {halt : Halt}
    (failed : (walk.chosen options uniqueBy shared).1 = .error halt) :
    (walk.chosen options uniqueBy shared).2 = shared := by
  rcases ran : (Unique.choose options uniqueBy (some (walk.store shared.pool))).run
    walk.context.stream with ⟨⟨outcome, marked⟩, stream⟩
  cases outcome with
  | error error => simp [Walk.chosen, ran]
  | ok choice => simp [Walk.chosen, ran] at failed

/-- What a choice from the stock does to the world of a row: in the check phase nothing, and in the
generate phase it marks an identifier of the stock that was unused. -/
theorem world_of_chosen {walk after : Walk} {phase : Phase} (opens : walk.Opens phase)
    {world : RowWorld} {place : Nat}
    (result : (walk.chosen stock.options (some stock.rule) world.view).1 = .ok (place, after)) :
    match phase with
    | .check => world.withView (walk.chosen stock.options (some stock.rule) world.view).2 = world
    | .generate => ∃ key ∈ stock.keys, stock.uses world.shared.pool key = false ∧
        world.withView (walk.chosen stock.options (some stock.rule) world.view).2 =
          { world with
            shared := { world.shared with pool := world.shared.pool.mark stock.collection key }
            marked := world.marked ++ [(stock.collection, key)] } := by
  rcases ran : (Unique.choose stock.options (some stock.rule) (some (walk.store world.view.pool))).run
    walk.context.stream with ⟨⟨outcome, marked⟩, stream⟩
  have same := opens.inPhase
  cases outcome with
  | error error => simp [Walk.chosen, ran, Walk.halt] at result
  | ok choice =>
      cases phase with
      | check => simp [Walk.chosen, ran, Walk.keepShared, same, RowWorld.withView_view]
      | generate =>
          have pool : walk.store world.view.pool = world.view.pool := by simp [Walk.store, same]
          rw [pool] at ran
          obtain ⟨key, member, unused, rfl⟩ := Unique.Stock.takes_of_run_choose ran
          refine ⟨key, member, unused, ?_⟩
          simp only [Walk.chosen, pool, ran, Walk.keepShared, same]
          rfl

variable {ends : Except Error α → RowWorld → Prop}

/-- A part of the life of a row that ends in a certain way as long as others leave the row something
ends so too where they do not, or has found the stock spent. The two worlds look the same to the row. -/
def Perseveres (stock : Unique.Stock) (answers : ModelCall → Except Error Reply → Prop)
    (ends : Except Error α → RowWorld → Prop) (ahead : Option Phase)
    (life : RowLife (Except Error α)) : Prop :=
  ∀ ⦃left world : RowWorld⦄, left.state = world.state → left.marked = world.marked →
    stock.Dwindles left.shared.pool world.shared.pool → left.HasLeft stock →
    life.Abides (RowWorld.leaving stock answers) ends left →
    life.Abides (RowWorld.taking stock answers) (Sought stock ends ahead world.marked) world

theorem perseveres_done {ahead : Option Phase} {result : Except Error α}
    (taken : ∀ value, result = .ok value → ahead = none) :
    Perseveres stock answers ends ahead (.done result) := by
  intro left world state _ _ _ abides after relied
  refine .ended left (state.trans relied.1.symm)
    (abides left ((RowWorld.leaving stock answers).relies_refl left)) fun value same => ?_
  rw [taken value same]
  exact relied.2.1

theorem perseveres_fail (ahead : Option Phase) (error : Error) :
    Perseveres stock answers ends ahead (.done (.error error)) :=
  perseveres_done fun _ failed => nomatch failed

theorem perseveres_step {ahead : Option Phase} {update : RowWorld → RowWorld}
    {next : RowWorld → RowLife (Except Error α)}
    (blind : ∀ left right : RowWorld, left.state = right.state →
      (update left).state = (update right).state ∧ next left = next right)
    (keeps : ∀ world, (update world).shared.pool = world.shared.pool ∧
      (update world).marked = world.marked)
    (rest : ∀ world, Perseveres stock answers ends ahead (next world)) :
    Perseveres stock answers ends ahead (.step update next) := by
  intro left world state marked dwindles hasLeft abides after relied
  obtain ⟨sameState, sameNext⟩ := blind left after (state.trans relied.1.symm)
  have onward := (abides left ((RowWorld.leaving stock answers).relies_refl left)).2
  rw [sameNext] at onward
  refine ⟨RowWorld.taking_keep (keeps after).1 (keeps after).2, ?_⟩
  have later := rest after sameState ?_ ?_ (hasLeft.keep (keeps left).1 (keeps left).2) onward
  · rwa [(keeps after).2.trans relied.2.1] at later
  · rw [(keeps left).2, (keeps after).2, marked, relied.2.1]
  · rw [(keeps left).1, (keeps after).1]
    exact dwindles.trans relied.2.2

/-- The row chooses in a world in which something is left. -/
theorem abides_pick {phase : Phase} {walk : Walk} {next : Walked Nat → RowLife (Except Error α)}
    (opens : walk.Opens phase) (halts : ∀ halt, next (.error halt) = .done (.error halt.error))
    (rest : ∀ place after, Perseveres stock answers ends phase.following (next (.ok (place, after))))
    {world : RowWorld} (hasLeft : world.HasLeft stock)
    (abides : (next (walk.chosen stock.options (some stock.rule) world.view).1).Abides
      (RowWorld.leaving stock answers) ends
      (world.withView (walk.chosen stock.options (some stock.rule) world.view).2)) :
    (RowWorld.taking stock answers).guarantees world
        (world.withView (walk.chosen stock.options (some stock.rule) world.view).2) ∧
      (next (walk.chosen stock.options (some stock.rule) world.view).1).Abides
        (RowWorld.taking stock answers) (Sought stock ends (some phase) world.marked)
        (world.withView (walk.chosen stock.options (some stock.rule) world.view).2) := by
  rcases result : (walk.chosen stock.options (some stock.rule) world.view).1 with halt | ⟨place, after⟩
  · rw [result, chosen_of_error result, halts] at abides
    rw [chosen_of_error result, halts]
    refine ⟨RowWorld.taking_keep rfl rfl, ?_⟩
    exact perseveres_fail _ halt.error rfl rfl (.refl _) hasLeft abides
  · have behind := world_of_chosen opens result
    rw [result] at abides
    cases phase with
    | check =>
        dsimp only at behind
        rw [behind] at abides ⊢
        refine ⟨RowWorld.taking_keep rfl rfl, ?_⟩
        refine (rest place after rfl rfl (.refl _) hasLeft abides).mono fun outcome last sought => ?_
        cases sought with
        | spent _ failed kept spent => exact .spent rfl failed kept spent
        | ended other state ends takes => exact .ended other state ends takes
    | generate =>
        obtain ⟨key, member, unused, behind⟩ := behind
        rw [behind] at abides ⊢
        refine ⟨⟨.mark trivial unused rfl rfl, Unique.Stock.dwindles_mark _ _ _⟩, ?_⟩
        have own : (stock.collection, key) ∈ world.marked ++ [(stock.collection, key)] := by simp
        refine (rest place after rfl rfl (.refl _) ⟨key, member, .inr own⟩ abides).mono
          fun outcome last sought => ?_
        cases sought with
        | spent choosing => cases choosing
        | ended other state ends takes =>
            exact .ended other state ends fun value same => ⟨key, member, takes value same⟩

theorem perseveres_pick {phase : Phase} {walk : Walk}
    {next : Walked Nat → RowLife (Except Error α)} (opens : walk.Opens phase)
    (halts : ∀ halt, next (.error halt) = .done (.error halt.error))
    (rest : ∀ place after,
      Perseveres stock answers ends phase.following (next (.ok (place, after)))) :
    Perseveres stock answers ends (some phase)
      ((onView (walk.choose stock.options (some stock.rule))).bind next) := by
  intro left world state marked dwindles hasLeft abides after relied
  have sameState := state.trans relied.1.symm
  have nowhere := (RowWorld.leaving stock answers).relies_refl
  by_cases spent : stock.Spent after.shared.pool
  · have seen : stock.Spent after.view.pool := spent
    rcases chosen_of_spent opens seen with ⟨halt, failed⟩ | ⟨halt, exhausted, failed⟩
    · have onward := (abides left (nowhere left)).2
      dsimp only at onward ⊢
      rw [failed] at onward ⊢
      refine ⟨RowWorld.taking_keep rfl rfl, ?_⟩
      change (next (.error halt)).Abides _ _ _ at onward
      change (next (.error halt)).Abides _ _ _
      rw [halts] at onward ⊢
      have ended := perseveres_fail (some phase) halt.error sameState
        (marked.trans relied.2.1.symm) (dwindles.trans relied.2.2) hasLeft onward
      rwa [relied.2.1] at ended
    · dsimp only
      rw [failed]
      refine ⟨RowWorld.taking_keep rfl rfl, ?_⟩
      change (next (.error halt)).Abides _ _ _
      rw [halts, exhausted]
      exact fun last later => .spent rfl rfl (later.2.1.trans relied.2.1) (later.2.2.spent spent)
  · -- Something is left in the world that the row finds, so that it goes on as it does there.
    have found := RowWorld.hasLeft_of_not_spent spent
    have here : (RowWorld.leaving stock answers).relies left after :=
      ⟨sameState.symm, relied.2.1.trans marked.symm, dwindles.trans relied.2.2, fun _ => found⟩
    have picked := abides_pick opens halts rest found (abides after here).2
    rwa [relied.2.1] at picked

theorem Picks.perseveres {life : RowLife (Except Error α)} {ahead : Option Phase}
    (picks : Picks stock ahead life) : Perseveres stock answers ends ahead life := by
  induction picks with
  | done value => exact perseveres_done fun _ _ => rfl
  | fail ahead error => exact perseveres_fail ahead error
  | step blind keeps _ ih => exact perseveres_step blind keeps ih
  | ask _ ih =>
      intro left world state marked dwindles hasLeft abides reply admitted
      exact ih reply state marked dwindles hasLeft (abides reply admitted)
  | pause _ ih => exact ih
  | pick opens halts _ ih => exact perseveres_pick opens halts ih

/-- A row that begins with a fresh pool is complete and fits, as long as others who take from the stock
leave it something. -/
def CompletesIfLeft (stock : Unique.Stock) (answers : ModelCall → Except Error Reply → Prop)
    (fits : Row → Prop) (recipe : RowRecipe) : Prop :=
  ∀ log, recipe.runRow.Abides (RowWorld.leaving stock answers)
    (fun result _ => ∃ index row, result = .success index row ∧ fits row)
    ⟨⟨.fresh, log⟩, .uninitialized, []⟩

/-- How a row stands that takes from a stock: it is complete, fits and has taken one identifier, or it
has taken none and has found the stock spent. -/
def Took (stock : Unique.Stock) (fits : Row → Prop) : RowResult → RowWorld → Prop
  | .success _ row, world => fits row ∧ ∃ key ∈ stock.keys, world.marked = [(stock.collection, key)]
  | .failure failure, world => failure.error = .exhausted stock.collection ∧ world.marked = [] ∧
      stock.Spent world.shared.pool

theorem settle_unmarked (rowIndex : Int) {world : RowWorld} (unmarked : world.marked = []) :
    (world.settle rowIndex).shared.pool = world.shared.pool ∧
      (world.settle rowIndex).marked = world.marked := by
  have same : world.releaseMarks rowIndex = world := by simp [RowWorld.releaseMarks, unmarked]
  unfold RowWorld.settle
  dsimp only
  rw [same]
  split <;> exact ⟨rfl, rfl⟩

/-- However others take from the stock, a row that fails in no other way takes one identifier, or it
finds the stock spent. -/
theorem abides_runRow_taking {fits : Row → Prop} {recipe : RowRecipe}
    (picks : recipe.PicksFrom stock) (completes : recipe.CompletesIfLeft stock answers fits)
    (stocked : stock.keys ≠ []) {world : RowWorld} (start : world.state = .uninitialized)
    (unmarked : world.marked = []) :
    recipe.runRow.Abides (RowWorld.taking stock answers) (Took stock fits) world := by
  obtain ⟨first, member⟩ := List.exists_mem_of_ne_nil _ stocked
  let begun : RowWorld := ⟨⟨.fresh, world.shared.log⟩, .uninitialized, []⟩
  have state : begun.state = world.state := start.symm
  have marked : begun.marked = world.marked := unmarked.symm
  have unused : stock.Dwindles begun.shared.pool world.shared.pool := fun _ _ used => nomatch used
  have sought := picks.attempt.perseveres state marked unused ⟨first, member, .inl rfl⟩
    (completes world.shared.log).of_bind.of_bind
  rw [unmarked] at sought
  refine .bind (.bind (sought.mono fun result tried sought => ?_))
  cases sought with
  | spent _ failed kept spent =>
      subst failed
      intro now relied
      have unmarked := relied.2.1.trans kept
      obtain ⟨pool, marked⟩ := settle_unmarked recipe.rowIndex unmarked
      refine ⟨RowWorld.taking_keep pool marked, fun ended first last second => ?_⟩
      have later := (RowWorld.taking stock answers).relies_trans first second
      refine ⟨rfl, later.2.1.trans (marked.trans unmarked), later.2.2.spent ?_⟩
      rw [pool]
      exact relied.2.2.spent spent
  | ended other state ends takes =>
      have nowhere := (RowWorld.leaving stock answers).relies_refl
      rcases result with error | row
      · obtain ⟨_, _, succeeded, _⟩ := (ends other (nowhere other)).2 _ (nowhere _) _ (nowhere _)
        cases succeeded
      · obtain ⟨key, member, marked⟩ := takes row rfl
        intro now relied
        obtain ⟨pool, kept⟩ := RowWorld.pool_tryEnter recipe.rowIndex .completed now
        refine ⟨RowWorld.taking_keep pool kept, ?_⟩
        -- The row may be completed, since it is completed in a world where it is in the same state.
        have same : now.mayEnter .completed = other.mayEnter .completed := by
          unfold RowWorld.mayEnter
          rw [relied.1, state]
        have onward := (ends other (nowhere other)).2
        dsimp only at onward ⊢
        rw [← same] at onward
        cases may : now.mayEnter .completed with
        | true =>
            rw [may] at onward
            obtain ⟨_, _, succeeded, fitting⟩ := onward _ (nowhere _) _ (nowhere _)
            cases succeeded
            intro ended first last second
            have later := (RowWorld.taking stock answers).relies_trans first second
            exact ⟨fitting, key, member, later.2.1.trans (kept.trans (relied.2.1.trans marked))⟩
        | false =>
            rw [may] at onward
            obtain ⟨_, _, succeeded, _⟩ := onward _ (nowhere _) _ (nowhere _)
            cases succeeded

end RowRecipe

end Colloquy
