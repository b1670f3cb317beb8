import Colloquy.Proofs.Dataset.Records
import Colloquy.Proofs.Row.Posting

/-!
# What a run leaves in the pool

The rows of a run may choose from one pool. A row that fails gives its marks back; one that is
complete keeps them, also if the outlet refuses it, and then nobody gives them back. Behind a run an
identifier is therefore used if it was used before, or was marked by a row that was returned or
refused.
-/

set_option autoImplicit false

namespace Colloquy

variable {μ π ω : Type}

/-- The world of a run whose rows post their marks, and the desks at which they do. -/
abbrev PostedWorld (μ π ω : Type) := RunWorld μ π ω × (Nat → Desk)

namespace PostedWorld

def floor (both : PostedWorld μ π ω) : Floor := ⟨both.1.shared, both.2⟩

def service (both : PostedWorld μ π ω) : Floor × μ := (both.floor, both.1.model)

end PostedWorld

namespace Run

section

variable (run : Run μ π ω)

def servePosted (recipe : RowRecipe) (position : Nat) :
    Process (Floor × μ) Empty Empty RowResult :=
  (run.client.hoisted.serveFloor
    (Floor.posted position .fresh recipe.runRow)).bind fun result => .done result.1

def generatePosted (recipe : RowRecipe) (position : Nat) :
    Process (PostedWorld μ π ω) Empty Empty RowResult :=
  (run.servePosted recipe position).zoom PostedWorld.service fun inner both =>
    ({ both.1 with shared := inner.1.shared, model := inner.2 }, inner.1.desks)

def executePosted (task : RowTask) (position : Nat) :
    Process (PostedWorld μ π ω) Empty Empty TaskOutcome :=
  match run.recipe task with
  | .error error => .done (.error error)
  | .ok recipe =>
      (run.generatePosted recipe position).bind fun
        | .failure failure => .done (.ok (some (.failure failure)))
        | .success _ row => (run.deliver task row).zoom Prod.fst fun world both => (world, both.2)

def postedBatch : List (BatchTask (PostedWorld μ π ω)) :=
  run.tasks.map fun task => ⟨task.seed, run.executePosted task⟩

/-- One of the ways in which the run may go if its rows post their marks, and the desks behind it. -/
def Posts (elapsed : String) (world : RunWorld μ π ω)
    (last : Except Error Board × RunWorld μ π ω) (desks : Nat → Desk) : Prop :=
  ∃ outlet both, run.outlet.start world.outlet = .ok outlet ∧
    (run.surroundings.beside (Nat → Desk)).Batched run.postedBatch run.concurrency
      (run.opened world outlet, fun _ => .fresh) ((both.1, desks), both.2) ∧
    last = run.close elapsed both

/-- The row of the task was complete when the outlet refused it. -/
def Refused (outcome : TaskOutcome) (desk : Desk) : Prop :=
  desk.state = .completed ∧ ∃ error row outlet,
    (run.outlet.append row outlet).1 = .error error ∧ outcome = .error error

/-- How a task ends: its row is returned, or is refused, or has no marks. -/
def Settles (outcome : TaskOutcome) (desk : Desk) : Prop :=
  outcome.row?.isSome ∨ run.Refused outcome desk ∨ desk.marked = []

end

variable {run : Run μ π ω}

theorem annotatedBy_serve (scope : run.scope = .run) (recipe : RowRecipe) (position : Nat) :
    (run.serve recipe).AnnotatedBy (fun both => (both.1.shared, both.2))
      (run.servePosted recipe position) := by
  unfold Run.serve
  rw [scope]
  have life := Floor.annotatedBy_posted position recipe.runRow
  exact .bind (run.client.hoisted.annotatedBy_serveFloor life) fun result => .done result.1

theorem annotatedBy_execute (scope : run.scope = .run) (task : RowTask) (position : Nat) :
    (run.execute task).AnnotatedBy Prod.fst (run.executePosted task position) := by
  unfold Run.execute executePosted
  cases run.recipe task with
  | error error => exact .done _
  | ok recipe =>
      refine .bind (.zoom ?_ ?_ ?_ (annotatedBy_serve scope recipe position)) fun result => ?_
      · exact fun _ => rfl
      · exact fun _ _ => rfl
      · exact fun _ => rfl
      · cases result with
        | failure failure => exact .done _
        | success index row => exact .zoomed (fun _ _ => rfl) (run.deliver task row)

/-- However a run goes, it can go so with rows that post their marks. -/
theorem Executes.posts (scope : run.scope = .run) {elapsed : String} {world : RunWorld μ π ω}
    {last : Except Error Board × RunWorld μ π ω} (executes : run.Executes elapsed world last)
    {board : Board} (ended : last.1 = .ok board) :
    ∃ desks, run.Posts elapsed world last desks :=
  executes.recorded (annotatedBy_execute scope) (fun _ => .fresh) ended

def deskContract (position : Nat) : Contract (PostedWorld μ π ω) Empty Empty :=
  (Floor.contract position).along PostedWorld.floor

section

variable {contract : Contract Floor ModelCall (Except Error Reply)} {position : Nat}
variable (replies : run.client.hoisted.RepliesBy contract.answers)
variable (seats : Floor.Seats position contract) {recipe : RowRecipe}
variable {ends : RowResult → Floor → Prop}

include replies seats

theorem abides_servePosted {both : Floor × μ} (fresh : both.1.desks position = .fresh)
    (life : (recipe.runRow.zoom (Floor.world position) (Floor.seat position)).Abides contract ends
      both.1) :
    (run.servePosted recipe position).Abides (contract.along Prod.fst)
      (fun result after => ends result after.1) both := by
  have served := replies.abides_serveFloor seats (Floor.abides_posted seats life fresh)
  exact .bind (served.lasting.mono fun _ _ ended => ended)

/-- The rule for a row that posts its marks, which touches neither the observer nor the outlet. -/
theorem abides_generatePosted {whole : Contract (PostedWorld μ π ω) Empty Empty}
    (relies : ∀ before after, whole.relies before after → contract.relies before.floor after.floor)
    (guarantees : ∀ before after, contract.guarantees before.floor after.floor →
      after.1.outlet = before.1.outlet → whole.guarantees before after)
    {both : PostedWorld μ π ω} (fresh : both.2 position = .fresh)
    (life : (recipe.runRow.zoom (Floor.world position) (Floor.seat position)).Abides contract ends
      both.floor) :
    (run.generatePosted recipe position).Abides whole
      (fun result after => ends result after.floor) both := by
  have served : (run.servePosted recipe position).Abides _ _ both.service :=
    abides_servePosted replies seats fresh life
  refine Process.Abides.zoom ?_ ?_ ?_ served
  · exact fun _ _ relied => relies _ _ relied
  · exact fun _ _ owed => ⟨rfl, guarantees _ _ owed rfl⟩
  · exact fun _ _ _ => trivial

end

theorem abides_deliverPosted (task : RowTask) (row : Row) (position : Nat)
    {both : PostedWorld μ π ω} (complete : (both.2 position).state = .completed) :
    ((run.deliver task row).zoom Prod.fst fun world (both : PostedWorld μ π ω) =>
      (world, both.2)).Abides (deskContract position)
        (fun outcome after => run.Settles outcome (after.2 position)) both := by
  intro now relied
  have complete : (now.2 position).state = .completed := by
    rw [show now.2 position = both.2 position from relied, complete]
  refine ⟨Floor.guarantees_elsewhere position ⟨rfl, rfl⟩, ?_⟩
  dsimp only
  cases delivered : (now.1.deliver run.outlet row).1 with
  | error error =>
      intro after relied
      have same : after.2 position = now.2 position := relied
      exact .inr (.inl ⟨same ▸ complete, error, row, now.1.outlet, delivered, rfl⟩)
  | ok kept =>
      exact fun _ _ => ⟨Floor.guarantees_elsewhere position ⟨rfl, rfl⟩, fun _ _ => .inl rfl⟩

theorem abides_executePosted (aloof : run.client.Aloof) (task : RowTask) (position : Nat)
    {both : PostedWorld μ π ω} (fresh : both.2 position = .fresh) :
    (run.executePosted task position).Abides (deskContract position)
      (fun outcome after => run.Settles outcome (after.2 position)) both := by
  unfold executePosted
  cases run.recipe task with
  | error error =>
      intro after relied
      have same : after.2 position = both.2 position := relied
      refine .inr (.inr ?_)
      rw [same, fresh]
      rfl
  | ok recipe =>
      have start : (both.floor.world position).state = .uninitialized := congrArg Desk.state fresh
      have life := Floor.abides_seated position (RowRecipe.abides_runRow (.any recipe) start)
      have generated : (run.generatePosted recipe position).Abides (deskContract position) _ both :=
        abides_generatePosted aloof.repliesBy (Floor.seats_contract position)
          (fun _ _ relied => relied) (fun _ _ owed _ => owed) fresh life
      refine .bind (generated.lasting.mono ?_)
      intro result ended stands
      cases result with
      | failure failure => exact fun after relied => .inr (.inr (stands after relied).2)
      | success index row =>
          have complete := stands ended ((deskContract position).relies_refl ended)
          exact abides_deliverPosted task row position complete

/-- What tasks owe whose rows post their marks: the marks are separate, and the pool holds them and
nothing else beside what was used before. -/
def deskDuties (run : Run μ π ω) (initial : Unique.Collections) :
    Surroundings.Duties (PostedWorld μ π ω) where
  contract := deskContract
  holds both := both.floor.Tidy initial run.tasks.length
  waits position both := both.2 position = .fresh
  ends position outcome both := run.Settles outcome (both.2 position)

theorem dependable_posted (aloof : run.client.Aloof) (initial : Unique.Collections) :
    (run.surroundings.beside (Nat → Desk)).Dependable run.postedBatch
      (run.deskDuties initial) where
  notify notice both := by
    rw [run.surroundings.notify_beside]
    exact ⟨fun _ => rfl, fun tidy => tidy.same (run.keeps_notify notice both.1).1 rfl⟩
  report _ _ _ := ⟨fun _ => rfl, fun tidy => tidy.same rfl rfl⟩
  owed differ owed := (Floor.compatible initial run.tasks.length).others differ owed
  kept inside tidy owed := by
    rw [postedBatch, List.length_map] at inside
    exact (Floor.compatible initial run.tasks.length).kept inside tidy owed
  patient relied fresh := Eq.trans relied fresh
  tasks := by
    intro position posted found both _ fresh
    simp only [postedBatch, List.getElem?_map, Option.map_eq_some_iff] at found
    obtain ⟨task, _, rfl⟩ := found
    exact abides_executePosted aloof task position fresh

section

variable {initial : Unique.Collections} {elapsed : String} {world : RunWorld μ π ω}
variable {last : Except Error Board × RunWorld μ π ω} {desks : Nat → Desk} {board : Board}

/-- A run whose rows post their marks has done what its tasks owe, and each row or failure is that of one
task. -/
theorem Posts.complete {duties : Surroundings.Duties (PostedWorld μ π ω)}
    (dependable : (run.surroundings.beside (Nat → Desk)).Dependable run.postedBatch duties)
    (positive : 1 ≤ run.concurrency)
    (holding : ∀ outlet, run.outlet.start world.outlet = .ok outlet →
      duties.holds (run.opened world outlet, fun _ => .fresh))
    (waiting : ∀ outlet position, duties.waits position (run.opened world outlet, fun _ => .fresh))
    (posts : run.Posts elapsed world last desks) (ended : last.1 = .ok board) :
    ∃ (ending : RunWorld μ π ω) (outcomes : Nat → TaskOutcome),
      ending.shared.pool = last.2.shared.pool ∧ duties.holds (ending, desks) ∧
      (∀ position < run.tasks.length,
        duties.ends position (outcomes position) (ending, desks)) ∧
      run.rows board = run.tasks.zipIdx.filterMap (fun entry => (outcomes entry.2).row?) ∧
      board.failures.Perm (run.tasks.zipIdx.filterMap fun entry =>
        (outcomes entry.2).failure? entry.2 entry.1.seed) := by
  have recorded : run.Records (run.recordedBatch run.executePosted) (fun _ => .fresh) elapsed world
    last desks := posts
  obtain ⟨ending, outcomes, rfl, done⟩ := recorded.complete dependable positive holding waiting ended
  exact ⟨ending, outcomes, rfl, done⟩

/-- Behind a run whose rows have posted their marks these are separate, and the pool holds them. -/
theorem Posts.settled (aloof : run.client.Aloof) (positive : 1 ≤ run.concurrency)
    (plain : world.shared.pool = .plain initial) (posts : run.Posts elapsed world last desks)
    (ended : last.1 = .ok board) :
    Floor.Tidy initial run.tasks.length ⟨last.2.shared, desks⟩ ∧ ∃ outcomes : Nat → TaskOutcome,
      (∀ position < run.tasks.length, run.Settles (outcomes position) (desks position)) ∧
      run.rows board = run.tasks.zipIdx.filterMap (fun entry => (outcomes entry.2).row?) ∧
      board.failures.Perm (run.tasks.zipIdx.filterMap fun entry =>
        (outcomes entry.2).failure? entry.2 entry.1.seed) := by
  -- Neither the opening nor the closing of the outlet touches the pool.
  have tidy (outlet : ω) : (run.deskDuties initial).holds (run.opened world outlet, fun _ => .fresh) :=
    (Floor.Tidy.opened #[]).same plain rfl
  obtain ⟨ending, outcomes, pool, tidy, settles, rows, failures⟩ :=
    posts.complete (dependable_posted aloof initial) positive (fun outlet _ => tidy outlet)
      (fun _ _ => rfl) ended
  exact ⟨Floor.Tidy.same tidy pool.symm rfl, outcomes, settles, rows, failures⟩

section

variable {floor : Floor} {outcomes : Nat → TaskOutcome}
variable (tidy : floor.Tidy initial run.tasks.length)
variable (settles : ∀ position < run.tasks.length,
  run.Settles (outcomes position) (floor.desks position))

include tidy settles

theorem used_iff_of_settles (collection key : String) :
    key ∈ floor.shared.pool.used collection ↔
      key ∈ initial.used collection ∨ ∃ position < run.tasks.length,
        ((outcomes position).row?.isSome ∨
          run.Refused (outcomes position) (floor.desks position)) ∧
          (collection, key) ∈ (floor.desks position).marked := by
  obtain ⟨own, plain, used⟩ := tidy.pool
  rw [plain]
  refine (used collection key).trans (or_congr_right ⟨?_, ?_⟩)
  · rintro ⟨position, member⟩
    have inside : position < run.tasks.length := by
      by_contra outside
      have unmarked := tidy.vacant (Nat.not_lt.1 outside)
      simp [unmarked] at member
    rcases settles position inside with returned | refused | unmarked
    · exact ⟨position, inside, .inl returned, member⟩
    · exact ⟨position, inside, .inr refused, member⟩
    · simp [unmarked] at member
  · rintro ⟨position, _, _, member⟩
    exact ⟨position, member⟩

/-- The marks of a refused row are those of no other row, so that they are left over. -/
theorem used_by_returned_iff :
    (∀ collection key, key ∈ floor.shared.pool.used collection ↔
        key ∈ initial.used collection ∨ ∃ position < run.tasks.length,
          (outcomes position).row?.isSome ∧ (collection, key) ∈ (floor.desks position).marked) ↔
      ∀ position < run.tasks.length, run.Refused (outcomes position) (floor.desks position) →
        (floor.desks position).marked = [] := by
  have known := used_iff_of_settles tidy settles
  constructor
  · intro returnedOnly position inside refused
    refine List.eq_nil_iff_forall_not_mem.2 fun ⟨collection, key⟩ member => ?_
    have used := (known collection key).2 (.inr ⟨position, inside, .inr refused, member⟩)
    rcases (returnedOnly collection key).1 used with initially | ⟨other, _, returned, there⟩
    · exact tidy.fresh member initially
    · by_cases here : other = position
      · obtain ⟨_, error, row, outlet, _, failed⟩ := refused
        rw [here, failed] at returned
        cases returned
      · exact tidy.apart here there member
  · intro unmarked collection key
    refine (known collection key).trans (or_congr_right ⟨?_, ?_⟩)
    · rintro ⟨position, inside, returned | refused, member⟩
      · exact ⟨position, inside, returned, member⟩
      · simp [unmarked position inside refused] at member
    · rintro ⟨position, inside, returned, member⟩
      exact ⟨position, inside, .inl returned, member⟩

end

/-- Behind a run that shares a plain pool an identifier is used if it was used before, or was marked
by a row that the run returned or that the outlet refused. So what is used is what was used before
and what the returned rows have marked, exactly if the refused rows have marked nothing. -/
theorem used_iff_marked_by_complete (scope : run.scope = .run) (aloof : run.client.Aloof)
    (positive : 1 ≤ run.concurrency) (plain : world.shared.pool = .plain initial)
    (executes : run.Executes elapsed world last) (ended : last.1 = .ok board) :
    ∃ (desks : Nat → Desk) (outcomes : Nat → TaskOutcome),
      run.Posts elapsed world last desks ∧
      run.rows board = run.tasks.zipIdx.filterMap (fun entry => (outcomes entry.2).row?) ∧
      board.failures.Perm (run.tasks.zipIdx.filterMap fun entry =>
        (outcomes entry.2).failure? entry.2 entry.1.seed) ∧
      (∀ collection key, key ∈ last.2.shared.pool.used collection ↔
        key ∈ initial.used collection ∨ ∃ position < run.tasks.length,
          ((outcomes position).row?.isSome ∨ run.Refused (outcomes position) (desks position)) ∧
            (collection, key) ∈ (desks position).marked) ∧
      ((∀ collection key, key ∈ last.2.shared.pool.used collection ↔
          key ∈ initial.used collection ∨ ∃ position < run.tasks.length,
            (outcomes position).row?.isSome ∧ (collection, key) ∈ (desks position).marked) ↔
        ∀ position < run.tasks.length, run.Refused (outcomes position) (desks position) →
          (desks position).marked = []) := by
  obtain ⟨desks, posts⟩ := executes.posts scope ended
  obtain ⟨tidy, outcomes, settles, rows, failures⟩ := posts.settled aloof positive plain ended
  exact ⟨desks, outcomes, posts, rows, failures, used_iff_of_settles tidy settles,
    used_by_returned_iff tidy settles⟩

end

def saying (text : String) : Selection.Choice Item :=
  .plain (.node (.leaf (.fixed (.text "user") (.text text))))

/-- Two rows, each with a greeting that no other row has, and an outlet that takes neither. -/
def unwanted : Run Unit Unit Archive :=
  { greetings with
    entries := [⟨.tree (.node (.oneOf [saying "Hi", saying "Hello"] (some ⟨"greetings", none⟩))), 2,
      some 7⟩]
    concurrency := 2
    scope := .run
    outlet := { Archive.outlet "rows" with
      append := fun _ archive => (.error (.raised .system (.text "disk full")), archive) } }

theorem used_iff_marked_by_complete_unwanted :
    ∃ (board : Board) (desks : Nat → Desk) (outcomes : Nat → TaskOutcome),
      (unwanted.execution "1.00s" quietWorld).1 = .ok board ∧
      unwanted.Posts "1.00s" quietWorld (unwanted.execution "1.00s" quietWorld) desks ∧
      ∀ collection key,
        key ∈ (unwanted.execution "1.00s" quietWorld).2.shared.pool.used collection ↔
          key ∈ Unique.Collections.empty.used collection ∨ ∃ position < 2,
            ((outcomes position).row?.isSome ∨
              unwanted.Refused (outcomes position) (desks position)) ∧
              (collection, key) ∈ (desks position).marked := by
  have aloof : unwanted.client.Aloof := fun _ _ _ _ => trivial
  obtain ⟨desks, outcomes, posts, _, _, used, _⟩ :=
    used_iff_marked_by_complete rfl aloof (by decide) rfl
      (unwanted.executes_execution "1.00s" quietWorld) rfl
  exact ⟨_, desks, outcomes, rfl, posts, used⟩

end Run

end Colloquy
