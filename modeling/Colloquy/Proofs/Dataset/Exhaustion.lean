import Colloquy.Proofs.Dataset.Leftovers
import Colloquy.Proofs.Row.Saying

/-!
# Runs that use up a stock

The rows of a run may share a pool from which each takes one identifier of a stock. As many rows are
returned as there are identifiers, or all of them if these suffice, each with an identifier of its own.
The others fail since the stock is spent, and this happens only once every identifier is held by a row
that is returned.
-/

set_option autoImplicit false

namespace Colloquy

variable {μ π ω : Type} {stock : Unique.Stock}
variable {answers : ModelCall → Except Error Reply → Prop}

namespace Floor

/-- The contract of a row at a place that takes from a stock, as others do. -/
def taking (stock : Unique.Stock) (answers : ModelCall → Except Error Reply → Prop) (place : Nat) :
    Contract Floor ModelCall (Except Error Reply) where
  relies before after := (contract place).relies before after ∧
    stock.Dwindles before.shared.pool after.shared.pool
  guarantees before after := (contract place).guarantees before after ∧
    stock.Dwindles before.shared.pool after.shared.pool
  answers := answers
  relies_refl _ := ⟨rfl, .refl _⟩
  relies_trans first second := ⟨second.1.trans first.1, first.2.trans second.2⟩

theorem seats_taking (place : Nat) : Seats place (taking stock answers place) where
  desk relied := relied.1
  borne changed := ⟨congrFun changed.2 place, .of_eq changed.1⟩
  owed changed := ⟨guarantees_elsewhere place changed, .of_eq changed.1⟩

theorem abides_seated_taking {α : Type} {life : RowLife α} {ends : α → RowWorld → Prop} (place : Nat)
    {floor : Floor}
    (abides : life.Abides (RowWorld.taking stock answers) ends (floor.world place)) :
    (life.zoom (world place) (seat place)).Abides (taking stock answers place)
      (fun result floor => ends result (floor.world place)) floor := by
  refine Process.Abides.zoom ?_ ?_ ?_ abides
  · intro before after relied
    have desk : after.desks place = before.desks place := relied.1
    exact ⟨congrArg Desk.state desk, congrArg Desk.marked desk, relied.2⟩
  · intro before after owed
    have back : world place (seat place after before) = after := by simp [world, seat]
    refine ⟨back, ⟨?_, fun other differ => ?_⟩, owed.2⟩
    · rw [back]
      exact owed.1
    · simp [seat, differ]
  · exact fun _ _ admitted => admitted

end Floor

namespace Run

/-- What makes the rows of a run take from a stock and fail in no other way: they share a pool, the client
answers as it may, the outlet takes every row that fits once it is ready, the schema of each row makes
one choice from the stock and no other choice that is not to be repeated, and each row is complete and
fits if something is left. -/
structure TakesFrom (run : Run μ π ω) (stock : Unique.Stock)
    (answers : ModelCall → Except Error Reply → Prop) (ready : ω → Prop) (fits : Row → Prop) :
    Prop where
  scope : run.scope = .run
  stocked : stock.keys ≠ []
  replies : run.client.RepliesBy answers
  accepts : ∀ row state, fits row → ready state →
    (∃ after, (run.outlet.append row state).1 = .ok after) ∧ ready (run.outlet.append row state).2
  extras : ∀ extras, run.extras = some extras → extras.ChoosesBy (· = none)
  schemas : ∀ task ∈ run.tasks, ∀ root, task.schema.resolve = .ok root →
    (root.script .done).PicksOne stock
  completes : ∀ task ∈ run.tasks, ∃ recipe, run.recipe task = .ok recipe ∧
    recipe.CompletesIfLeft stock (Client.hoistedAnswers answers) fits

/-- How a task ends whose row takes from a stock: the row is returned with one identifier, or it has
found the stock spent. -/
inductive Takes (stock : Unique.Stock) (outcome : TaskOutcome) (desk : Desk) (pool : Unique.Store) :
    Prop where
  | returned {index : Int} {row : Row} {key : String}
      (ended : outcome = .ok (some (.success index row))) (member : key ∈ stock.keys)
      (marked : desk.marked = [(stock.collection, key)])
  | exhausted {failure : RowFailure} (ended : outcome = .ok (some (.failure failure)))
      (error : failure.error = .exhausted stock.collection) (marked : desk.marked = [])
      (spent : stock.Spent pool)

/-- The contract of a task whose row takes from a stock. Others keep the outlet ready, and so does it. -/
def takingContract (stock : Unique.Stock) (answers : ModelCall → Except Error Reply → Prop)
    (ready : ω → Prop) (position : Nat) : Contract (PostedWorld μ π ω) Empty Empty where
  relies before after := (Floor.taking stock answers position).relies before.floor after.floor ∧
    (ready before.1.outlet → ready after.1.outlet)
  guarantees before after :=
    (Floor.taking stock answers position).guarantees before.floor after.floor ∧
      (ready before.1.outlet → ready after.1.outlet)
  answers _ _ := True
  relies_refl both := ⟨(Floor.taking stock answers position).relies_refl both.floor, id⟩
  relies_trans first second :=
    ⟨(Floor.taking stock answers position).relies_trans first.1 second.1,
      fun held => second.2 (first.2 held)⟩

variable {run : Run μ π ω} {ready : ω → Prop} {fits : Row → Prop}

theorem TakesFrom.deliver (takes : run.TakesFrom stock answers ready fits) (task : RowTask)
    {row : Row} (fitting : fits row) {position : Nat} {key : String} (member : key ∈ stock.keys)
    {both : PostedWorld μ π ω} (held : ready both.1.outlet)
    (marked : (both.2 position).marked = [(stock.collection, key)]) :
    ((run.deliver task row).zoom Prod.fst fun world (both : PostedWorld μ π ω) =>
      (world, both.2)).Abides (takingContract stock (Client.hoistedAnswers answers) ready position)
        (fun outcome after => Takes stock outcome (after.2 position) after.1.shared.pool) both := by
  intro now first
  let contract := Floor.taking stock (Client.hoistedAnswers answers) position
  have aside : Floor.Seats position contract := Floor.seats_taking position
  obtain ⟨⟨kept, accepted⟩, still⟩ := takes.accepts row now.1.outlet fitting (first.2 held)
  have delivered : (now.1.deliver run.outlet row).1 = .ok kept := accepted
  refine ⟨⟨aside.owed ⟨rfl, rfl⟩, fun _ => still⟩, ?_⟩
  dsimp only
  rw [delivered]
  intro next second
  refine ⟨⟨aside.owed ⟨rfl, rfl⟩, id⟩, fun last third => .returned rfl member ?_⟩
  have desk : last.2 position = both.2 position :=
    (third.1.1.trans second.1.1).trans first.1.1
  rw [desk, marked]

theorem TakesFrom.execute (takes : run.TakesFrom stock answers ready fits) {task : RowTask}
    (member : task ∈ run.tasks) (position : Nat) {both : PostedWorld μ π ω}
    (held : ready both.1.outlet) (fresh : both.2 position = .fresh) :
    (run.executePosted task position).Abides
      (takingContract stock (Client.hoistedAnswers answers) ready position)
      (fun outcome after => Takes stock outcome (after.2 position) after.1.shared.pool) both := by
  obtain ⟨recipe, made, completes⟩ := takes.completes task member
  obtain ⟨schema, extras⟩ := recipe_eq_ok made
  have picks : recipe.PicksFrom stock :=
    ⟨fun root resolved => takes.schemas task member root (schema ▸ resolved),
      fun given same => takes.extras given (extras ▸ same)⟩
  have start : (both.floor.world position).state = .uninitialized := congrArg Desk.state fresh
  have unmarked : (both.floor.world position).marked = [] := congrArg Desk.marked fresh
  have life := Floor.abides_seated_taking position
    (RowRecipe.abides_runRow_taking picks completes takes.stocked start unmarked)
  let contract := Floor.taking stock (Client.hoistedAnswers answers) position
  let whole : Contract (PostedWorld μ π ω) Empty Empty :=
    takingContract stock (Client.hoistedAnswers answers) ready position
  have relies (before after : PostedWorld μ π ω) (relied : whole.relies before after) :
      contract.relies before.floor after.floor := relied.1
  have guarantees (before after : PostedWorld μ π ω)
      (owed : contract.guarantees before.floor after.floor)
      (same : after.1.outlet = before.1.outlet) : whole.guarantees before after :=
    ⟨owed, fun held => same ▸ held⟩
  have generated := abides_generatePosted takes.replies.hoisted (Floor.seats_taking position)
    relies guarantees fresh life
  have lasting := generated.lasting.within fun before after =>
    ready before.1.outlet → ready after.1.outlet
  unfold executePosted
  rw [made]
  refine .bind ((lasting (fun _ => id) (fun first second held => second (first held))
    (fun relied => relied.2) (fun owed => owed.2)).mono fun result ended took => ?_)
  obtain ⟨took, still⟩ := took
  cases result with
  | failure failure =>
      intro after relied
      obtain ⟨error, marked, spent⟩ := took after relied
      exact .exhausted rfl error marked spent
  | success index row =>
      obtain ⟨fitting, key, member, marked⟩ :=
        took ended ((takingContract stock _ ready position).relies_refl ended)
      exact takes.deliver task fitting member (still held) marked

/-- What tasks owe whose rows take from a stock: their marks are separate, the pool holds them, and the
outlet is ready. -/
def takingDuties (run : Run μ π ω) (stock : Unique.Stock)
    (answers : ModelCall → Except Error Reply → Prop) (ready : ω → Prop)
    (initial : Unique.Collections) : Surroundings.Duties (PostedWorld μ π ω) where
  contract := takingContract stock answers ready
  holds both := both.floor.Tidy initial run.tasks.length ∧ ready both.1.outlet
  waits position both := both.2 position = .fresh
  ends position outcome both := Takes stock outcome (both.2 position) both.1.shared.pool

theorem TakesFrom.dependable (takes : run.TakesFrom stock answers ready fits)
    (initial : Unique.Collections) :
    (run.surroundings.beside (Nat → Desk)).Dependable run.postedBatch
      (run.takingDuties stock (Client.hoistedAnswers answers) ready initial) where
  notify notice both := by
    rw [run.surroundings.notify_beside]
    obtain ⟨pool, outlet⟩ := run.keeps_notify notice both.1
    have still : ready both.1.outlet → ready (run.surroundings.notify notice both.1).outlet :=
      fun held => outlet ▸ held
    exact ⟨fun _ => ⟨⟨rfl, .of_eq pool⟩, still⟩,
      fun holds => ⟨holds.1.same pool rfl, still holds.2⟩⟩
  report _ _ _ :=
    ⟨fun _ => ⟨⟨rfl, .of_eq rfl⟩, id⟩, fun holds => ⟨holds.1.same rfl rfl, holds.2⟩⟩
  owed differ owed :=
    ⟨⟨(Floor.compatible initial run.tasks.length).others differ owed.1.1, owed.1.2⟩, owed.2⟩
  kept inside holds owed := by
    rw [postedBatch, List.length_map] at inside
    exact ⟨(Floor.compatible initial run.tasks.length).kept inside holds.1 owed.1.1,
      owed.2 holds.2⟩
  patient relied fresh := Eq.trans relied.1.1 fresh
  tasks := by
    intro position posted found both holds fresh
    simp only [postedBatch, List.getElem?_map, Option.map_eq_some_iff] at found
    obtain ⟨task, there, rfl⟩ := found
    exact takes.execute (List.mem_of_getElem? there) position holds.2 fresh

/-- The positions of the rows that are returned, in order. -/
def returnedAt (size : Nat) (outcomes : Nat → TaskOutcome) : List Nat :=
  (List.range size).filter fun position => (outcomes position).row?.isSome

/-- The row at a position is returned, and has taken an identifier of the stock and nothing else. -/
def Holds (stock : Unique.Stock) (outcome : TaskOutcome) (desk : Desk) (key : String) : Prop :=
  outcome.row?.isSome ∧ key ∈ stock.keys ∧ desk.marked = [(stock.collection, key)]

section

variable {initial : Unique.Collections} {size : Nat} {floor : Floor} {outcomes : Nat → TaskOutcome}

theorem mem_returnedAt {position : Nat} :
    position ∈ returnedAt size outcomes ↔ position < size ∧ (outcomes position).row?.isSome := by
  simp [returnedAt]

theorem Takes.holds {outcome : TaskOutcome} {desk : Desk} {pool : Unique.Store}
    (takes : Takes stock outcome desk pool) (returned : outcome.row?.isSome) :
    ∃ key, Holds stock outcome desk key := by
  cases takes with
  | @returned _ _ key _ member marked => exact ⟨key, returned, member, marked⟩
  | exhausted ended => simp [ended, TaskOutcome.row?] at returned

/-- The marks of the rows that are returned. -/
def heldMarks (size : Nat) (outcomes : Nat → TaskOutcome) (floor : Floor) : List (String × String) :=
  (returnedAt size outcomes).flatMap fun position => (floor.desks position).marked

variable (tidy : floor.Tidy initial size)
variable (takes : ∀ position < size,
  Takes stock (outcomes position) (floor.desks position) floor.shared.pool)
variable (untouched : ∀ key ∈ stock.keys, key ∉ initial.used stock.collection)

include takes

theorem length_heldMarks :
    (heldMarks size outcomes floor).length = (returnedAt size outcomes).length := by
  have ones : ∀ position ∈ returnedAt size outcomes, (floor.desks position).marked.length = 1 := by
    intro position member
    obtain ⟨inside, returned⟩ := mem_returnedAt.1 member
    obtain ⟨key, _, _, marked⟩ := (takes position inside).holds returned
    rw [marked]
    rfl
  rw [heldMarks, List.length_flatMap, List.map_eq_replicate_iff.2 ones, List.sum_replicate_nat,
    Nat.mul_one]

theorem heldMarks_subset :
    heldMarks size outcomes floor ⊆ stock.keys.dedup.map (Prod.mk stock.collection) := by
  intro mark member
  obtain ⟨position, member, marked⟩ := List.mem_flatMap.1 member
  obtain ⟨inside, returned⟩ := mem_returnedAt.1 member
  obtain ⟨key, _, known, same⟩ := (takes position inside).holds returned
  rw [same, List.mem_singleton] at marked
  exact marked ▸ List.mem_map_of_mem (List.mem_dedup.2 known)

include tidy

theorem subperm_heldMarks :
    (heldMarks size outcomes floor).Subperm (stock.keys.dedup.map (Prod.mk stock.collection)) := by
  refine List.subperm_of_subset ?_ (heldMarks_subset takes)
  have each : (returnedAt size outcomes).Nodup := List.nodup_range.filter _
  refine List.nodup_flatMap.2 ⟨fun position _ => tidy.nodup position, ?_⟩
  exact each.pairwise_of_forall_ne fun _ _ _ _ differ _ here there => tidy.apart differ here there

/-- The rows that are returned hold different identifiers of the stock. -/
theorem length_returnedAt_le : (returnedAt size outcomes).length ≤ stock.size := by
  have counted := (subperm_heldMarks tidy takes).length_le
  rwa [length_heldMarks takes, List.length_map] at counted

/-- If as many rows are returned as there are identifiers, then each identifier is held by one of them. -/
theorem exists_holds (many : stock.size ≤ (returnedAt size outcomes).length) {key : String}
    (member : key ∈ stock.keys) :
    ∃ position < size, Holds stock (outcomes position) (floor.desks position) key := by
  have enough : (stock.keys.dedup.map (Prod.mk stock.collection)).length ≤
      (heldMarks size outcomes floor).length := by
    rw [length_heldMarks takes, List.length_map]
    exact many
  have whole := (subperm_heldMarks tidy takes).perm_of_length_le enough
  have held : (stock.collection, key) ∈ heldMarks size outcomes floor :=
    whole.mem_iff.2 (List.mem_map_of_mem (List.mem_dedup.2 member))
  obtain ⟨position, at', marked⟩ := List.mem_flatMap.1 held
  obtain ⟨inside, returned⟩ := mem_returnedAt.1 at'
  obtain ⟨other, holds⟩ := (takes position inside).holds returned
  rw [holds.2.2, List.mem_singleton, Prod.mk.injEq] at marked
  exact ⟨position, inside, marked.2 ▸ holds⟩

include untouched

/-- An identifier of the stock is used if it is held by a row that is returned, and only then. -/
theorem uses_iff_holds {key : String} (member : key ∈ stock.keys) :
    stock.uses floor.shared.pool key = true ↔
      ∃ position < size, Holds stock (outcomes position) (floor.desks position) key := by
  obtain ⟨own, plain, used⟩ := tidy.pool
  rw [plain]
  have known : stock.uses (.plain own) key = true ↔ key ∈ own.used stock.collection := by
    simp [Unique.Stock.uses, Unique.Store.has, Unique.Collections.has]
  rw [known, used]
  constructor
  · rintro (initially | ⟨position, marked⟩)
    · exact absurd initially (untouched key member)
    · have inside : position < size := by
        by_contra outside
        rw [tidy.vacant (Nat.not_lt.1 outside)] at marked
        cases marked
      cases takes position inside with
      | returned ended _ same =>
          rw [same, List.mem_singleton, Prod.mk.injEq] at marked
          refine ⟨position, inside, by simp [ended, TaskOutcome.row?], member, ?_⟩
          rw [same, marked.2]
      | exhausted _ _ unmarked =>
          rw [unmarked] at marked
          cases marked
  · rintro ⟨position, _, _, _, marked⟩
    exact .inr ⟨position, by rw [marked]; exact List.mem_singleton_self _⟩

theorem size_le_of_spent (spent : stock.Spent floor.shared.pool) :
    stock.size ≤ (returnedAt size outcomes).length := by
  have listed : stock.keys.dedup.map (Prod.mk stock.collection) ⊆ heldMarks size outcomes floor := by
    intro mark member
    obtain ⟨key, known, rfl⟩ := List.mem_map.1 member
    have known := List.mem_dedup.1 known
    obtain ⟨position, inside, returned, _, marked⟩ :=
      (uses_iff_holds tidy takes untouched known).1 (spent key known)
    refine List.mem_flatMap.2 ⟨position, mem_returnedAt.2 ⟨inside, returned⟩, ?_⟩
    rw [marked]
    exact List.mem_singleton_self _
  have nodup : (stock.keys.dedup.map (Prod.mk stock.collection)).Nodup :=
    (List.nodup_dedup _).map fun _ _ same => (Prod.mk.inj same).2
  have counted := (List.subperm_of_subset nodup listed).length_le
  rwa [List.length_map, length_heldMarks takes] at counted

/-- As many rows are returned as there are identifiers, or all of them if these suffice. -/
theorem length_returnedAt : (returnedAt size outcomes).length = min size stock.size := by
  have few := length_returnedAt_le tidy takes
  by_cases all : ∀ position ∈ List.range size, (outcomes position).row?.isSome
  · have whole : returnedAt size outcomes = List.range size := List.filter_eq_self.2 all
    rw [whole, List.length_range] at few ⊢
    omega
  · simp only [Classical.not_forall, List.mem_range] at all
    obtain ⟨position, inside, failed⟩ := all
    have spent : stock.Spent floor.shared.pool := by
      cases takes position inside with
      | returned ended => simp [ended, TaskOutcome.row?] at failed
      | exhausted _ _ _ spent => exact spent
    have many := size_le_of_spent tidy takes untouched spent
    have within : (returnedAt size outcomes).length ≤ size := by
      simpa [returnedAt] using List.length_filter_le (fun position => (outcomes position).row?.isSome)
        (List.range size)
    omega

end

/-- How a run has shared out a stock: each row or failure is that of one task, as many rows are returned
as there are identifiers or tasks, and all others fail since the stock is spent. The returned rows hold
different identifiers, which are those that are used, and all of them if there are tasks enough. -/
structure SharesOut (run : Run μ π ω) (stock : Unique.Stock) (pool : Unique.Store) (board : Board)
    (desks : Nat → Desk) (outcomes : Nat → TaskOutcome) : Prop where
  rows : run.rows board = run.tasks.zipIdx.filterMap fun entry => (outcomes entry.2).row?
  failures : board.failures.Perm (run.tasks.zipIdx.filterMap fun entry =>
    (outcomes entry.2).failure? entry.2 entry.1.seed)
  returned : (run.rows board).length = min run.tasks.length stock.size
  failed : board.failures.length = run.tasks.length - min run.tasks.length stock.size
  exhausted : ∀ failure ∈ board.failures, failure.kind = .uniqueExhausted
  holds : ∀ position < run.tasks.length, (outcomes position).row?.isSome →
    ∃ key, Holds stock (outcomes position) (desks position) key
  apart : ∀ {position other key}, Holds stock (outcomes position) (desks position) key →
    Holds stock (outcomes other) (desks other) key → position = other
  used : ∀ key ∈ stock.keys, stock.uses pool key = true ↔
    ∃ position < run.tasks.length, Holds stock (outcomes position) (desks position) key
  all : stock.size ≤ run.tasks.length → ∀ key ∈ stock.keys,
    ∃ position < run.tasks.length, Holds stock (outcomes position) (desks position) key

theorem length_rows_eq (tasks : List RowTask) (outcomes : Nat → TaskOutcome) :
    (tasks.zipIdx.filterMap fun entry => (outcomes entry.2).row?).length =
      (returnedAt tasks.length outcomes).length := by
  rw [List.length_filterMap_eq_countP, returnedAt, ← List.countP_eq_length_filter,
    List.range_eq_range', ← List.zipIdx_map_snd 0 tasks, List.countP_map]
  rfl

theorem Takes.failure {outcome : TaskOutcome} {desk : Desk} {pool : Unique.Store}
    (takes : Takes stock outcome desk pool) {position : Nat} {seed : Option Int}
    {failure : RowFailure} (failed : outcome.failure? position seed = some failure) :
    failure.kind = .uniqueExhausted := by
  cases takes with
  | returned ended => simp [ended, TaskOutcome.failure?] at failed
  | exhausted ended error =>
      rw [ended] at failed
      cases failed
      rw [RowFailure.kind, error]
      rfl

theorem Takes.ne_none {outcome : TaskOutcome} {desk : Desk} {pool : Unique.Store}
    (takes : Takes stock outcome desk pool) : outcome ≠ .ok none := by
  cases takes with
  | returned ended => simp [ended]
  | exhausted ended => simp [ended]

/-- A run has shared out the stock if its tasks have ended as they should on a tidy floor. -/
theorem sharesOut_of_takes {initial : Unique.Collections} {floor : Floor} {board : Board}
    {outcomes : Nat → TaskOutcome} (tidy : floor.Tidy initial run.tasks.length)
    (takes : ∀ position < run.tasks.length,
      Takes stock (outcomes position) (floor.desks position) floor.shared.pool)
    (untouched : ∀ key ∈ stock.keys, key ∉ initial.used stock.collection)
    (rows : run.rows board = run.tasks.zipIdx.filterMap fun entry => (outcomes entry.2).row?)
    (failures : board.failures.Perm (run.tasks.zipIdx.filterMap fun entry =>
      (outcomes entry.2).failure? entry.2 entry.1.seed)) :
    run.SharesOut stock floor.shared.pool board floor.desks outcomes := by
  have length := length_returnedAt tidy takes untouched
  have returned : (run.rows board).length = min run.tasks.length stock.size := by
    rw [rows, length_rows_eq, length]
  have inside (entry : RowTask × Nat) (member : entry ∈ run.tasks.zipIdx) :
      entry.2 < run.tasks.length := by
    obtain ⟨_, inside, _⟩ := List.mem_zipIdx member
    simpa using inside
  have whole : (run.rows board).length + board.failures.length = run.tasks.length := by
    rw [rows, failures.length_eq, Surroundings.length_filterMap_add, List.length_zipIdx]
    exact fun entry member =>
      TaskOutcome.isSome_row?_ne _ _ (takes entry.2 (inside entry member)).ne_none
  refine ⟨rows, failures, returned, by omega, fun failure member => ?_, fun position inside => ?_,
    fun here there => ?_, fun key => uses_iff_holds tidy takes untouched, fun enough key member => ?_⟩
  · obtain ⟨entry, listed, failed⟩ := List.mem_filterMap.1 (failures.mem_iff.1 member)
    exact (takes entry.2 (inside entry listed)).failure failed
  · exact (takes position inside).holds
  · by_contra differ
    refine tidy.apart differ (by rw [here.2.2]; exact List.mem_singleton_self _) ?_
    rw [there.2.2]
    exact List.mem_singleton_self _
  · refine exists_holds tidy takes ?_ member
    rw [length]
    omega

/-- Messages that say different things are told apart. -/
def greetingRule : Unique.UniqueBy := ⟨"greetings", some (.named (.text "content"))⟩

/-- Two greetings, each of which is said once. -/
def greetingStock : Unique.Stock where
  options := [saying "Hi", saying "Hello"].map (Selection.Choice.map Item.describe)
  rule := greetingRule
  keys := ["str:Hi", "str:Hello"]
  identified := rfl

/-- One of the two greetings. -/
def greeting : Item := .node (.oneOf [saying "Hi", saying "Hello"] (some greetingRule))

/-- Three rows for which there are two greetings. -/
def partings : Run Unit Unit Archive :=
  { greetings with
    entries := [⟨.tree greeting, 3, some 7⟩]
    concurrency := 2
    scope := .run }

/-- The row has the form in which it is kept. -/
def HasForm (row : Row) : Prop := ∃ after, ExportFormat.messages.accept row = .ok after

theorem deals_greetingStock : greetingStock.Deals := by
  have weighed : greetingStock.weights = .ok [0.5, 0.5] := rfl
  exact Unique.Stock.deals_of_weights weighed (by decide)

theorem tasks_partings {task : RowTask} (member : task ∈ partings.tasks) :
    task.schema = .tree greeting ∧ ∃ seed, task.seed = some seed := by
  have listed : partings.tasks = [⟨0, .tree greeting, some 7, 0⟩, ⟨1, .tree greeting, some 8, 0⟩,
    ⟨2, .tree greeting, some 9, 0⟩] := rfl
  rw [listed] at member
  simp only [List.mem_cons, List.not_mem_nil, or_false] at member
  rcases member with rfl | rfl | rfl <;> exact ⟨rfl, _, rfl⟩

theorem utters_partings {task : RowTask} (member : task ∈ partings.tasks) :
    ∃ recipe, partings.recipe task = .ok recipe ∧
      recipe.Utters greetingStock .user (fun content => ∃ text, content = .text text)
        HasForm greeting [] := by
  obtain ⟨schema, seed, seeded⟩ := tasks_partings member
  refine ⟨_, rfl, ?_, ?_, deals_greetingStock, by decide, rfl, ?_⟩
  · show task.schema.resolve = _
    rw [schema]
    rfl
  · refine ⟨fun place => Node.scriptOption [saying "Hi", saying "Hello"] place .done, rfl, ?_⟩
    intro place inside
    match place, inside with
    | 0, _ => exact ⟨_, ⟨"Hi", rfl⟩, rfl⟩
    | 1, _ => exact ⟨_, ⟨"Hello", rfl⟩, rfl⟩
  · rintro _ _ ⟨planned, rfl⟩ ⟨said, rfl⟩ name tokens
    simp only [RowRecipe.finish, RowRecipe.mergedMetadata, seeded]
    refine ⟨_, rfl, ?_⟩
    cases tokens with
    | none => exact ⟨_, rfl⟩
    | some count => exact ⟨_, rfl⟩

theorem takesFrom_partings : partings.TakesFrom greetingStock (fun _ _ => True)
    (fun archive => archive.writer.medium = .memory ∧ archive.writer.format = .messages)
    HasForm where
  scope := rfl
  stocked := by decide
  replies _ _ _ _ := trivial
  accepts := by
    rintro row archive ⟨after, taken⟩ ready
    obtain ⟨appended, still⟩ := (Archive.reliable_memory "rows" .messages).append row archive ready
    exact ⟨⟨after, appended.trans taken⟩, still⟩
  extras _ given := nomatch given
  schemas := by
    intro task member root resolved
    rw [(tasks_partings member).1] at resolved
    cases resolved
    exact .pick (Node.writtenIn_scriptOption .done _ ⟨trivial, trivial, trivial⟩)
  completes := by
    intro task member
    obtain ⟨recipe, made, utters⟩ := utters_partings member
    exact ⟨recipe, made, utters.completesIfLeft (by decide)⟩

end Run

end Colloquy
