import Colloquy.Proofs.Dataset.Records
import Colloquy.Proofs.Export.Lines

/-!
# Deliveries

Every finished row is delivered to the outlet once, which takes it or refuses it. A row that is taken
is returned, and one that is refused is dropped with a failure. Behind a run the archive therefore
holds exactly the returned rows, and counts them.
-/

set_option autoImplicit false

namespace Colloquy

variable {μ π ω : Type}

/-- A row that has been delivered, as it was afterwards, and the error with which it was refused, if it
was. -/
structure Delivery where
  position : Nat
  row : Row
  refusal : Option Error

namespace Delivery

def of (position : Nat) (row : Row) : Except Error Row → Delivery
  | .ok after => ⟨position, after, none⟩
  | .error error => ⟨position, row, some error⟩

theorem position_of (position : Nat) (row : Row) (result : Except Error Row) :
    (of position row result).position = position := by
  cases result <;> rfl

/-- The row and its position, if it was taken. -/
def taken? (delivery : Delivery) : Option (Nat × Row) :=
  if delivery.refusal.isNone then some (delivery.position, delivery.row) else none

/-- The deliveries of one task. -/
def ofTask (position : Nat) (deliveries : List Delivery) : List Delivery :=
  deliveries.filter fun delivery => delivery.position = position

theorem ofTask_append_of (position : Nat) (row : Row) (result : Except Error Row)
    (deliveries : List Delivery) :
    ofTask position (deliveries ++ [of position row result]) =
      ofTask position deliveries ++ [of position row result] := by
  simp [ofTask, List.filter_append, position_of]

theorem ofTask_append_of_ne {position other : Nat} (differs : other ≠ position) (row : Row)
    (result : Except Error Row) (deliveries : List Delivery) :
    ofTask other (deliveries ++ [of position row result]) = ofTask other deliveries := by
  simp [ofTask, List.filter_append, position_of, differs.symm]

/-- How a task ends that has made some deliveries. -/
inductive Settles (position : Nat) : List Delivery → TaskOutcome → Prop where
  | undelivered {outcome : TaskOutcome} (lost : outcome.row? = none) : Settles position [] outcome
  | taken (index : Nat) (row : Row) :
      Settles position [⟨position, row, none⟩] (.ok (some (.success index row)))
  | refused (row : Row) (error : Error) :
      Settles position [⟨position, row, some error⟩] (.error error)

theorem Settles.of_same {position : Nat} {before after entries : List Delivery}
    {outcome : TaskOutcome} (settles : Settles position entries outcome)
    (relied : ofTask position after = ofTask position before)
    (here : ofTask position before = entries) :
    Settles position (ofTask position after) outcome := by
  rw [relied, here]
  exact settles

end Delivery

/-- Items with keys below a bound, sorted by their keys. -/
theorem perm_flatMap_filter {α : Type} (key : α → Nat) (count : Nat) {items : List α}
    (below : ∀ item ∈ items, key item < count) :
    items.Perm ((List.range count).flatMap fun place =>
      items.filter fun item => key item = place) := by
  induction count generalizing items with
  | zero =>
      rw [List.eq_nil_iff_forall_not_mem.2 fun item member => Nat.not_lt_zero _ (below item member)]
      exact .nil
  | succ count ih =>
      let last (item : α) : Bool := key item = count
      have smaller : ∀ item ∈ items.filter (fun item => !last item), key item < count := by
        intro item member
        obtain ⟨member, earlier⟩ := List.mem_filter.1 member
        have differs : key item ≠ count := by simpa [last] using earlier
        exact Nat.lt_of_le_of_ne (Nat.le_of_lt_succ (below item member)) differs
      have others : ((List.range count).flatMap fun place =>
            (items.filter fun item => !last item).filter fun item => key item = place) =
          (List.range count).flatMap fun place => items.filter fun item => key item = place := by
        refine List.flatMap_congr fun place member => ?_
        rw [List.filter_filter]
        refine List.filter_congr fun item _ => ?_
        have differs : place ≠ count := Nat.ne_of_lt (List.mem_range.1 member)
        by_cases here : key item = place <;> simp [last, here, differs]
      rw [List.range_succ, List.flatMap_append, ← others]
      refine (List.filter_append_perm last items).symm.trans (List.perm_append_comm.trans ?_)
      exact (ih smaller).append (.of_eq (List.flatMap_singleton _ _).symm)

namespace Delivery

theorem Settles.taken_eq {position : Nat} {entries : List Delivery} {outcome : TaskOutcome}
    (settles : Settles position entries outcome) :
    entries.filterMap taken? = (outcome.row?.map fun row => (position, row)).toList := by
  cases settles with
  | undelivered lost =>
      rw [lost]
      rfl
  | taken index row => rfl
  | refused row error => rfl

theorem Settles.error_of_refused {position : Nat} {entries : List Delivery} {outcome : TaskOutcome}
    (settles : Settles position entries outcome) {delivery : Delivery} (member : delivery ∈ entries)
    {error : Error} (refused : delivery.refusal = some error) : outcome = .error error := by
  cases settles with
  | undelivered lost => cases member
  | taken index row =>
      cases List.mem_singleton.1 member
      cases refused
  | refused row cause =>
      cases List.mem_singleton.1 member
      cases refused
      rfl

section

variable {deliveries : List Delivery} {outcomes : Nat → TaskOutcome} {count : Nat}
variable (inside : ∀ delivery ∈ deliveries, delivery.position < count)
variable (settled : ∀ position < count,
  Settles position (ofTask position deliveries) (outcomes position))

include inside settled

/-- What has been taken is what the tasks have come to. -/
theorem perm_taken :
    (deliveries.filterMap taken?).Perm ((List.range count).filterMap fun position =>
      (outcomes position).row?.map fun row => (position, row)) := by
  refine ((perm_flatMap_filter position count inside).filterMap taken?).trans (.of_eq ?_)
  rw [List.filterMap_flatMap, List.filterMap_eq_flatMap_toList]
  exact List.flatMap_congr fun place member =>
    (settled place (List.mem_range.1 member)).taken_eq

theorem outcome_of_refused {delivery : Delivery} (member : delivery ∈ deliveries) {error : Error}
    (refused : delivery.refusal = some error) : outcomes delivery.position = .error error :=
  (settled _ (inside delivery member)).error_of_refused
    (List.mem_filter.2 ⟨member, by simp⟩) refused

end

end Delivery

/-- The world of a run, and the deliveries made so far. -/
abbrev DeliveredWorld (μ π ω : Type) := RunWorld μ π ω × List Delivery

namespace Run

section

variable (run : Run μ π ω)

def deliverRecorded (task : RowTask) (row : Row) (position : Nat) :
    Process (DeliveredWorld μ π ω) Empty Empty TaskOutcome :=
  .step (fun both => ((both.1.deliver run.outlet row).2,
      both.2 ++ [.of position row (both.1.deliver run.outlet row).1])) fun before =>
    match (before.1.deliver run.outlet row).1 with
    | .error error => .done (.error error)
    | .ok after =>
        .step (fun both => (RunWorld.report .info (rowLine task after) both.1, both.2)) fun _ =>
          .done (.ok (some (.success task.index after)))

def executeRecorded (task : RowTask) (position : Nat) :
    Process (DeliveredWorld μ π ω) Empty Empty TaskOutcome :=
  match run.recipe task with
  | .error error => .done (.error error)
  | .ok recipe =>
      ((run.generate recipe).zoom Prod.fst fun world both => (world, both.2)).bind fun
        | .failure failure => .done (.ok (some (.failure failure)))
        | .success _ row => run.deliverRecorded task row position

/-- One of the ways in which the run may go if deliveries are recorded. -/
def Delivers (elapsed : String) (world : RunWorld μ π ω)
    (last : Except Error Board × RunWorld μ π ω) (deliveries : List Delivery) : Prop :=
  run.Records (run.recordedBatch run.executeRecorded) [] elapsed world last deliveries

end

variable {run : Run μ π ω}

theorem annotatedBy_executeRecorded (task : RowTask) (position : Nat) :
    (run.execute task).AnnotatedBy Prod.fst (run.executeRecorded task position) := by
  unfold Run.execute executeRecorded
  cases run.recipe task with
  | error error => exact .done _
  | ok recipe =>
      refine .bind (.zoomed (fun _ _ => rfl) (run.generate recipe)) fun result => ?_
      cases result with
      | failure failure => exact .done _
      | success index row =>
          refine .step (fun _ => rfl) fun both => ?_
          cases (both.1.deliver run.outlet row).1 with
          | error error => exact .done _
          | ok after => exact .step (fun _ => rfl) fun _ => .done _

section

variable {archive : ω → Archive} {place : String}

/-- The archive holds the rows that were taken, all of which come from tasks of the run. -/
structure Stored (run : Run μ π ω) (archive : ω → Archive) (place : String)
    (both : DeliveredWorld μ π ω) : Prop where
  lists : (archive both.1.outlet).Lists place ((both.2.filterMap Delivery.taken?).map Prod.snd)
  inside : ∀ delivery ∈ both.2, delivery.position < run.tasks.length

/-- A task delivers its own row only, and others do not deliver it. -/
def deliveryContract (run : Run μ π ω) (archive : ω → Archive) (place : String) (position : Nat) :
    Contract (DeliveredWorld μ π ω) Empty Empty where
  relies before after := Delivery.ofTask position after.2 = Delivery.ofTask position before.2
  guarantees before after :=
    (∀ other, other ≠ position → Delivery.ofTask other after.2 = Delivery.ofTask other before.2) ∧
      (position < run.tasks.length → run.Stored archive place before → run.Stored archive place after)
  answers _ _ := True
  relies_refl _ := rfl
  relies_trans first second := second.trans first

theorem Stored.deliver (keeps : run.outlet.Keeps archive) {both : DeliveredWorld μ π ω}
    (stored : run.Stored archive place both) {position : Nat} (inside : position < run.tasks.length)
    (row : Row) :
    run.Stored archive place ((both.1.deliver run.outlet row).2,
      both.2 ++ [.of position row (both.1.deliver run.outlet row).1]) := by
  refine ⟨?_, fun delivery member => ?_⟩
  · unfold RunWorld.deliver
    rw [List.filterMap_append, List.map_append]
    rcases appended : run.outlet.append row both.1.outlet with ⟨error | after, later⟩
    · have same := keeps.refused appended
      simpa [Delivery.of, Delivery.taken?, same] using stored.lists
    · obtain ⟨rfl, lists⟩ := stored.lists.append (keeps.taken appended)
      exact lists
  · rcases List.mem_append.1 member with before | last
    · exact stored.inside delivery before
    · rw [List.mem_singleton.1 last, Delivery.position_of]
      exact inside

theorem Stored.same {both : DeliveredWorld μ π ω} (stored : run.Stored archive place both)
    {world : RunWorld μ π ω} (outlet : world.outlet = both.1.outlet) :
    run.Stored archive place (world, both.2) :=
  ⟨by rw [outlet]; exact stored.lists, stored.inside⟩

theorem abides_deliverRecorded (keeps : run.outlet.Keeps archive) (task : RowTask) (row : Row)
    (position : Nat) {both : DeliveredWorld μ π ω}
    (undelivered : Delivery.ofTask position both.2 = []) :
    (run.deliverRecorded task row position).Abides (run.deliveryContract archive place position)
      (fun outcome after => Delivery.Settles position (Delivery.ofTask position after.2) outcome)
      both := by
  intro now relied
  have undelivered : Delivery.ofTask position now.2 = [] := Eq.trans relied undelivered
  refine ⟨⟨fun other differs => Delivery.ofTask_append_of_ne differs row _ _,
    fun inside stored => stored.deliver keeps inside row⟩, ?_⟩
  have delivered := Delivery.ofTask_append_of position row (now.1.deliver run.outlet row).1 now.2
  rw [undelivered] at delivered
  dsimp only
  cases result : (now.1.deliver run.outlet row).1 with
  | error error =>
      rw [result] at delivered
      exact fun after relied => (Delivery.Settles.refused row error).of_same relied delivered
  | ok kept =>
      rw [result] at delivered
      intro later relied
      refine ⟨⟨fun _ _ => rfl, fun _ stored => stored.same rfl⟩, fun after relied' => ?_⟩
      exact (Delivery.Settles.taken task.index kept).of_same (Eq.trans relied' relied) delivered

/-- Generating a row does not touch the outlet. -/
theorem abides_generate_aloof (recipe : RowRecipe) (world : RunWorld μ π ω) :
    (run.generate recipe).Abides { Contract.any with
      guarantees := fun before after => after.outlet = before.outlet } (fun _ _ => True) world := by
  have free (both : Shared × μ) :
      (run.serve recipe).Abides Contract.any (fun _ _ => True) both :=
    .of_free (fun _ _ => trivial) _ both
  refine Process.Abides.zoom ?_ ?_ ?_ (free _)
  · exact fun _ _ _ => trivial
  · exact fun _ _ _ => ⟨rfl, rfl⟩
  · exact fun _ _ _ => trivial

theorem abides_generateRecorded (recipe : RowRecipe) (position : Nat)
    {both : DeliveredWorld μ π ω} (undelivered : Delivery.ofTask position both.2 = []) :
    ((run.generate recipe).zoom Prod.fst fun world (both : DeliveredWorld μ π ω) =>
      (world, both.2)).Abides (run.deliveryContract archive place position)
        (fun _ after => Delivery.ofTask position after.2 = []) both := by
  let still : Contract (DeliveredWorld μ π ω) Empty Empty :=
    { run.deliveryContract archive place position with
      guarantees := fun before after => after.1.outlet = before.1.outlet ∧ after.2 = before.2 }
  have generated : ((run.generate recipe).zoom Prod.fst fun world (both : DeliveredWorld μ π ω) =>
      (world, both.2)).Abides still (fun _ _ => True) both := by
    refine Process.Abides.zoom ?_ ?_ ?_ (abides_generate_aloof recipe both.1)
    · exact fun _ _ _ => trivial
    · exact fun _ _ owed => ⟨rfl, owed, rfl⟩
    · exact fun _ _ _ => trivial
  refine Process.Abides.mono (fun _ _ ended => And.right ended) (generated.keeping
    (fun both => Delivery.ofTask position both.2 = []) ?_ ?_ ?_ ?_ undelivered)
  · exact fun _ _ relied => relied
  · exact fun _ _ none relied => Eq.trans relied none
  · rintro ⟨before, log⟩ ⟨after, same⟩ none ⟨outlet, rfl⟩
    exact ⟨⟨fun _ _ => rfl, fun _ stored => stored.same outlet⟩, none⟩
  · exact fun _ _ admitted => admitted

theorem abides_executeRecorded (keeps : run.outlet.Keeps archive) (task : RowTask) (position : Nat)
    {both : DeliveredWorld μ π ω} (undelivered : Delivery.ofTask position both.2 = []) :
    (run.executeRecorded task position).Abides (run.deliveryContract archive place position)
      (fun outcome after => Delivery.Settles position (Delivery.ofTask position after.2) outcome)
      both := by
  unfold executeRecorded
  cases run.recipe task with
  | error error =>
      exact fun after relied => (Delivery.Settles.undelivered rfl).of_same relied undelivered
  | ok recipe =>
      refine .bind ((abides_generateRecorded recipe position undelivered).mono ?_)
      intro result ended undelivered
      cases result with
      | failure failure =>
          exact fun after relied => (Delivery.Settles.undelivered rfl).of_same relied undelivered
      | success index row => exact abides_deliverRecorded keeps task row position undelivered

/-- What tasks owe that deliver their rows: each at most once, and the archive holds what was taken. -/
def deliveryDuties (run : Run μ π ω) (archive : ω → Archive) (place : String) :
    Surroundings.Duties (DeliveredWorld μ π ω) where
  contract := run.deliveryContract archive place
  holds := run.Stored archive place
  waits position both := Delivery.ofTask position both.2 = []
  ends position outcome both := Delivery.Settles position (Delivery.ofTask position both.2) outcome

theorem dependable_deliveries (keeps : run.outlet.Keeps archive) :
    (run.surroundings.beside (List Delivery)).Dependable (run.recordedBatch run.executeRecorded)
      (run.deliveryDuties archive place) where
  notify notice both := by
    rw [run.surroundings.notify_beside]
    exact ⟨fun _ => rfl, fun stored => stored.same (run.keeps_notify notice both.1).2⟩
  report _ _ _ := ⟨fun _ => rfl, fun stored => stored.same rfl⟩
  owed differ owed := owed.1 _ differ
  kept inside stored owed := owed.2 (by simpa [recordedBatch] using inside) stored
  patient relied undelivered := Eq.trans relied undelivered
  tasks := by
    intro position recorded found both _ undelivered
    simp only [recordedBatch, List.getElem?_map, Option.map_eq_some_iff] at found
    obtain ⟨task, _, rfl⟩ := found
    exact abides_executeRecorded keeps task position undelivered

/-- Behind a run the rows it has returned, the lines of the archive and the number of rows that the
archive has counted agree, and each refused row is a failure of its task. -/
structure Agrees (run : Run μ π ω) (archive : Archive) (place : String)
    (decode : String → Option Datum) (board : Board) (deliveries : List Delivery)
    (outcomes : Nat → TaskOutcome) : Prop where
  rows : run.rows board = run.tasks.zipIdx.filterMap fun entry => (outcomes entry.2).row?
  failures : board.failures.Perm (run.tasks.zipIdx.filterMap fun entry =>
    (outcomes entry.2).failure? entry.2 entry.1.seed)
  settled : ∀ position < run.tasks.length,
    Delivery.Settles position (Delivery.ofTask position deliveries) (outcomes position)
  returned : ((deliveries.filterMap Delivery.taken?).map Prod.snd).Perm (run.rows board)
  stored : ∃ content lines, archive.disk.read? place = some (.text content) ∧
    content.toList.splitOn '\n' = (lines ++ [""]).map String.toList ∧
    List.Forall₂ (fun taken line => ∃ document, taken.2.document = .ok document ∧
      decode line = some document.toDatum) (deliveries.filterMap Delivery.taken?) lines
  counted : archive.writer.rowsWritten = (run.rows board).length
  refused : ∀ delivery ∈ deliveries, ∀ error, delivery.refusal = some error →
    ∃ task, run.tasks[delivery.position]? = some task ∧ task.index = delivery.position ∧
      ⟨task.index, task.seed, error⟩ ∈ board.failures

theorem filterMap_positions {α : Type} (run : Run μ π ω) (read : Nat → Option α) :
    (List.range run.tasks.length).filterMap read =
      run.tasks.zipIdx.filterMap fun entry => read entry.2 := by
  rw [List.range_eq_range', ← List.zipIdx_map_snd, List.filterMap_map]
  rfl

theorem failure_of_error {board : Board} {outcomes : Nat → TaskOutcome}
    (failures : board.failures.Perm (run.tasks.zipIdx.filterMap fun entry =>
      (outcomes entry.2).failure? entry.2 entry.1.seed)) {position : Nat} {task : RowTask}
    (there : run.tasks[position]? = some task) {error : Error}
    (failed : outcomes position = .error error) :
    task.index = position ∧ ⟨task.index, task.seed, error⟩ ∈ board.failures := by
  have index : task.index = position := by simpa using index_tasksFrom there
  have listed : (task, position) ∈ run.tasks.zipIdx := List.mem_zipIdx_iff_getElem?.2 there
  refine ⟨index, failures.mem_iff.2 (List.mem_filterMap.2 ⟨(task, position), listed, ?_⟩)⟩
  rw [failed, index]
  rfl

/-- Returned rows and stored rows agree. However the workers of a run move and whichever rows the
outlet refuses, the file splits into one line for each row that is returned, which reads back as the
document of that row, as many rows are counted, and each refused row is a failure of its task. -/
theorem stored_rows_agree (keeps : run.outlet.Keeps archive) {elapsed : String} {world : RunWorld μ π ω}
    (medium : (archive world.outlet).writer.medium = .lines)
    (format : (archive world.outlet).writer.format = .messages) (positive : 1 ≤ run.concurrency)
    {last : Except Error Board × RunWorld μ π ω} (executes : run.Executes elapsed world last)
    {board : Board} (ended : last.1 = .ok board) (decode : String → Option Datum)
    (decodes : ∀ row ∈ run.rows board, ∀ document line, row.document = .ok document →
      jsonText Json.Style.line.tolerant document.toDatum = .ok line →
        decode line = some document.toDatum) :
    run.Returns world ∧ ∃ deliveries outcomes, run.Delivers elapsed world last deliveries ∧
      run.Agrees (archive last.2.outlet) (archive world.outlet).writer.path decode board deliveries
        outcomes := by
  have returns : run.Returns world := by
    obtain ⟨outlet, _, started, _⟩ := executes.batched ended
    exact ⟨outlet, started, Process.finishes _ _⟩
  obtain ⟨deliveries, delivers⟩ := executes.recorded annotatedBy_executeRecorded [] ended
  have empty (outlet : ω) (started : run.outlet.start world.outlet = .ok outlet) :
      run.Stored archive (archive world.outlet).writer.path (run.opened world outlet, []) :=
    ⟨Archive.lists_start medium format (keeps.start started), fun _ member => nomatch member⟩
  have complete := delivers.complete (dependable_deliveries keeps) positive empty
    (fun _ _ => rfl) ended
  obtain ⟨ending, outcomes, rfl, ⟨lists, inside⟩, settled, rows, failures⟩ := complete
  have closed : (archive (run.close elapsed (ending, board)).2.outlet).Lists _ _ :=
    (congrArg (Archive.Lists _ _) (keeps.finish ending.outlet)).mpr lists.finish
  have returned : ((deliveries.filterMap Delivery.taken?).map Prod.snd).Perm (run.rows board) := by
    refine ((Delivery.perm_taken inside settled).map Prod.snd).trans (.of_eq ?_)
    rw [rows, List.map_filterMap, ← run.filterMap_positions fun position => (outcomes position).row?]
    refine List.filterMap_congr fun position _ => ?_
    cases (outcomes position).row? <;> rfl
  refine ⟨returns, deliveries, outcomes, delivers, rows, failures, settled, returned, ?_, ?_, ?_⟩
  · obtain ⟨content, lines, file, split, written⟩ := closed.splits
    refine ⟨content, lines, file, split, ?_⟩
    have among : ∀ taken ∈ deliveries.filterMap Delivery.taken?, taken.2 ∈ run.rows board :=
      fun taken member => returned.subset (List.mem_map_of_mem member)
    refine List.Forall₂.imp ?_
      ((List.forall₂_and_left _ lines).2 ⟨among, List.forall₂_map_left_iff.1 written⟩)
    rintro taken line ⟨member, document, documented, dumped⟩
    exact ⟨document, documented, decodes taken.2 member document line documented dumped⟩
  · rw [closed.counted]
    exact returned.length_eq
  · intro delivery member error refused
    have outcome := Delivery.outcome_of_refused inside settled member refused
    have there := List.getElem?_eq_getElem (inside delivery member)
    exact ⟨_, there, failure_of_error failures there outcome⟩

end

/-- Refuses all rows but the first one. -/
def roomForOne (_ : Row) (taken : Nat) : Option Error × Nat :=
  if taken = 0 then (none, 1) else (some (.raised .system (.text "disk full")), taken)

/-- The greetings, made by two workers and written to a disk on which there is room for one. -/
def crowdedGreetings : Run Unit Unit (Archive × Nat) where
  client := greetings.client
  entries := greetings.entries
  baseSeed := none
  concurrency := 2
  scope := .row
  extras := none
  metadata := .null
  modelName := .null
  tokenCounter := none
  observer := .silent
  outlet := Archive.failing "rows.jsonl" roomForOne
  freshSeed _ := 0
  startTimestamp _ := "2024-01-01T00:00:00+00:00"

def crowdedWorld : RunWorld Unit Unit (Archive × Nat) :=
  ⟨⟨.fresh, #[]⟩, (), (), ⟨.toFile .jsonl "rows.jsonl" .messages, .empty⟩, 0⟩

/-- Reads the line that a row is written as. -/
def readLineOf (row : Row) (line : String) : Option Datum :=
  match row.document with
  | .error _ => none
  | .ok document =>
      if (jsonText Json.Style.line.tolerant document.toDatum).toOption = some line then
        some document.toDatum
      else none

theorem stored_rows_agree_crowdedGreetings : ∃ board deliveries outcomes row,
    (crowdedGreetings.execution "1.00s" crowdedWorld).1 = .ok board ∧
    crowdedGreetings.rows board = [row] ∧ board.failures.length = 1 ∧
    crowdedGreetings.Delivers "1.00s" crowdedWorld
      (crowdedGreetings.execution "1.00s" crowdedWorld) deliveries ∧
    crowdedGreetings.Agrees (crowdedGreetings.execution "1.00s" crowdedWorld).2.outlet.1 "rows.jsonl"
      (readLineOf row) board deliveries outcomes := by
  have counts : (crowdedGreetings.boardWithin 200 crowdedWorld).map (fun board =>
      ((crowdedGreetings.rows board).length, board.failures.length)) = some (1, 1) := by
    decide +kernel
  obtain ⟨board, within, counted⟩ := Option.map_eq_some_iff.1 counts
  obtain ⟨one, failed⟩ := Prod.mk.inj counted
  obtain ⟨row, returned⟩ := List.length_eq_one_iff.1 one
  have ended := board_of_within within "1.00s"
  have decodes : ∀ other ∈ crowdedGreetings.rows board, ∀ document line,
      other.document = .ok document → jsonText Json.Style.line.tolerant document.toDatum = .ok line →
        readLineOf row line = some document.toDatum := by
    intro other member document line documented written
    obtain rfl : other = row := by simpa [returned] using member
    simp [readLineOf, documented, written, Except.toOption]
  have keeps : crowdedGreetings.outlet.Keeps Prod.fst := Archive.keeps_failing "rows.jsonl" roomForOne
  have place : (Prod.fst crowdedWorld.outlet).writer.path = "rows.jsonl" := by decide +kernel
  obtain ⟨_, deliveries, outcomes, delivers, agrees⟩ := stored_rows_agree keeps rfl rfl (by decide)
    (crowdedGreetings.executes_execution "1.00s" crowdedWorld) ended (readLineOf row) decodes
  rw [place] at agrees
  exact ⟨board, deliveries, outcomes, row, ended, returned, failed, delivers, agrees⟩

end Run

end Colloquy
