import Colloquy.Proofs.Batch.Notes
import Colloquy.Proofs.Dataset.Concurrency
import Colloquy.Proofs.Dataset.Layout
import Colloquy.Proofs.Process.Answers
import Colloquy.Proofs.Results

/-!
# How many rows a request comes to

A caller passes an entry, a list or another schema, and perhaps a count beside it. Either this is refused,
or the run has as many tasks as are asked for, and its rows and failures together are as many again. The
exception is an entry that is passed alone: it keeps its own count, whatever count is given beside it.
-/

set_option autoImplicit false

namespace Colloquy

/-- A count that can be met. -/
def Datum.IsCount (count : Datum) : Prop := ∃ number : Nat, count = .int number

def Error.IsConfiguration (error : Error) : Prop := ∃ fault, error = .configuration fault

section Counts

theorem rowCount_eq_ok {count : Datum} {number : Nat} :
    rowCount count = .ok number ↔ count = .int number := by
  constructor
  · intro counted
    unfold rowCount at counted
    split at counted
    next given =>
      split at counted
      · cases counted
      · cases counted
        rw [Int.toNat_of_nonneg (by omega)]
    · cases counted
  · rintro rfl
    rw [rowCount, if_neg (Int.not_lt.2 (Int.natCast_nonneg number)), Int.toNat_natCast]

theorem raises_rowCount (count : Datum) : Raises Error.IsConfiguration (rowCount count) := by
  intro error failed
  unfold rowCount at failed
  split at failed
  · split at failed
    · cases failed
      exact ⟨_, rfl⟩
    · cases failed
  · cases failed
    exact ⟨_, rfl⟩

theorem raises_entry (request : EntryRequest) : Raises Error.IsConfiguration request.entry :=
  (raises_rowCount request.count).bind fun _ _ => .ok _

theorem EntryRequest.entry_eq_ok {request : EntryRequest} {entry : Entry} :
    request.entry = .ok entry ↔
      request.count = .int entry.count ∧ entry = ⟨request.schema, entry.count, request.seed⟩ := by
  unfold EntryRequest.entry
  rw [bind_eq_ok]
  constructor
  · rintro ⟨number, counted, made⟩
    cases made
    exact ⟨rowCount_eq_ok.1 counted, rfl⟩
  · rintro ⟨counted, made⟩
    exact ⟨entry.count, rowCount_eq_ok.2 counted, by rw [made]; rfl⟩

/-- Entries keep the counts that they are asked for with. -/
theorem map_count_of_mapM_entry {requests : List EntryRequest} {entries : List Entry}
    (read : requests.mapM EntryRequest.entry = .ok entries) :
    requests.map EntryRequest.count = entries.map fun entry => .int entry.count := by
  induction requests generalizing entries with
  | nil =>
      cases read
      rfl
  | cons request requests ih =>
      rw [List.mapM_cons, bind_eq_ok] at read
      obtain ⟨entry, made, read⟩ := read
      obtain ⟨others, rest, read⟩ := bind_eq_ok.1 read
      cases read
      rw [List.map_cons, List.map_cons, ih rest, (EntryRequest.entry_eq_ok.1 made).1]

theorem exists_mapM_entry_iff {requests : List EntryRequest} :
    (∃ entries, requests.mapM EntryRequest.entry = .ok entries) ↔
      ∀ request ∈ requests, request.count.IsCount := by
  induction requests with
  | nil => exact iff_of_true ⟨[], rfl⟩ (List.forall_mem_nil _)
  | cons request requests ih =>
      rw [List.forall_mem_cons, ← ih, List.mapM_cons]
      simp only [bind_eq_ok]
      constructor
      · rintro ⟨_, entry, made, others, rest, _⟩
        exact ⟨⟨entry.count, (EntryRequest.entry_eq_ok.1 made).1⟩, others, rest⟩
      · rintro ⟨⟨number, counted⟩, others, rest⟩
        exact ⟨_, ⟨request.schema, number, request.seed⟩, EntryRequest.entry_eq_ok.2 ⟨counted, rfl⟩,
          others, rest, rfl⟩

end Counts

namespace Request

/-- The counts that a request brings along: those of its entries, or one for a schema. -/
def ownCounts : Request → List Datum
  | .entry single => [single.count]
  | .list parts =>
      match RequestPart.entries? parts with
      | some many => many.map EntryRequest.count
      | none => [.int 1]
  | .schema _ => [.int 1]

/-- The counts by which rows are asked for: the one that is given, or else those of the request. -/
def counts (request : Request) (count : Option Datum) : List Datum :=
  match count with
  | some given => [given]
  | none => request.ownCounts

/-- The counts that are read. An entry that is passed alone keeps its own. -/
def readCounts (request : Request) (count : Option Datum) : List Datum :=
  match request with
  | .entry single => [single.count]
  | other => other.counts count

/-- So many rows are asked for. -/
def Asks (request : Request) (count : Option Datum) (rows : Nat) : Prop :=
  ∃ numbers : List Nat,
    request.counts count = numbers.map (fun number => .int number) ∧ numbers.sum = rows

/-- A single entry, beside which another count is given than its own. -/
def Overridden (request : Request) (count : Option Datum) : Prop :=
  ∃ single given, request = .entry single ∧ count = some given ∧ given ≠ single.count

/-- A request that asks for something, does not give a count twice, and can be counted. -/
def Acceptable (request : Request) (count : Option Datum) : Prop :=
  match request with
  | .entry single => single.count.IsCount
  | .list parts =>
      match RequestPart.entries? parts with
      | some many => count = none ∧ ∀ request ∈ many, request.count.IsCount
      | none => parts ≠ [] ∧ (count.getD (.int 1)).IsCount
  | .schema only => only.isEmptySequence = false ∧ (count.getD (.int 1)).IsCount

variable {request : Request} {count : Option Datum} {requests : List EntryRequest}

theorem Asks.unique {rows rows' : Nat} (asks : request.Asks count rows)
    (asks' : request.Asks count rows') : rows = rows' := by
  obtain ⟨numbers, same, rfl⟩ := asks
  obtain ⟨numbers', same', rfl⟩ := asks'
  have injective : Function.Injective fun number : Nat => Datum.int number := fun number number' same =>
    Int.ofNat.inj (Datum.int.inj same)
  rw [List.map_injective_iff.2 injective (same.symm.trans same')]

/-- A list without entries in it asks for what it asks for as a schema. -/
theorem requests?_items (items : List Item) (count : Option Datum) :
    (Request.list (items.map .item)).requests? count =
      (Request.schema (.tree (.list items))).requests? count := by
  have listed : RequestPart.entries? (items.map .item) = none := by
    cases items with
    | nil => rfl
    | cons item items => simp [RequestPart.entries?, RequestPart.entry?]
  have kept : (items.map RequestPart.item).map RequestPart.asItem = items := by
    rw [List.map_map]
    exact List.map_id items
  rw [requests?, listed]
  dsimp only
  rw [kept]
  rfl

/-- No row can be built from a list with an entry in it. -/
theorem exists_fault_of_mixture {parts : List RequestPart} {single : EntryRequest}
    (member : .entry single ∈ parts) :
    ∃ error, Schema.resolve (.tree (.list (parts.map RequestPart.asItem))) = .error error := by
  have fails : ∃ error, Item.toNodes (parts.map RequestPart.asItem) = .error error := by
    induction parts with
    | nil => cases member
    | cons part parts ih =>
        rw [List.map_cons, Item.toNodes]
        cases first : part.asItem.toNode with
        | error error => exact ⟨error, rfl⟩
        | ok node =>
            rcases List.mem_cons.1 member with rfl | later
            · cases first
            · obtain ⟨error, failed⟩ := ih later
              exact ⟨error, by rw [failed]; rfl⟩
  obtain ⟨error, failed⟩ := fails
  refine ⟨error, ?_⟩
  show ((Item.list (parts.map RequestPart.asItem)).toNode).map Item.node = .error error
  rw [Item.toNode, failed]
  rfl

theorem raises_requests? (request : Request) (count : Option Datum) :
    Raises Error.IsConfiguration (request.requests? count) := by
  have single (schema : Schema) : Raises Error.IsConfiguration (schema.request? count) := by
    unfold Schema.request?
    split
    · exact .error ⟨_, rfl⟩
    · exact .ok _
  cases request with
  | entry single => exact .ok _
  | schema only => exact (single only).bind fun _ _ => .ok _
  | list parts =>
      unfold requests?
      dsimp only
      split
      · split
        · exact .error ⟨_, rfl⟩
        · exact .ok _
      · exact (single _).bind fun _ _ => .ok _

/-- A request is never refused for anything but what is asked for. -/
theorem raises_entries? (request : Request) (count : Option Datum) :
    Raises Error.IsConfiguration (request.entries? count) :=
  (raises_requests? request count).bind fun requests _ => .mapM raises_entry requests

theorem alone_eq_ok {schema : Schema} :
    (do return [← schema.request? count] : Except Error (List EntryRequest)) = .ok requests ↔
      schema.isEmptySequence = false ∧ requests = [⟨schema, count.getD (.int 1), none⟩] := by
  unfold Schema.request?
  cases schema.isEmptySequence with
  | true => exact ⟨fun same => (nomatch same), fun both => (nomatch both.1)⟩
  | false => exact ⟨fun same => ⟨rfl, (Except.ok.inj same).symm⟩, fun both => both.2 ▸ rfl⟩

theorem requests?_eq_ok : request.requests? count = .ok requests ↔
    match request with
    | .entry single => requests = [single]
    | .list parts =>
        match RequestPart.entries? parts with
        | some many => count = none ∧ requests = many
        | none => parts ≠ [] ∧ requests =
            [⟨.tree (.list (parts.map RequestPart.asItem)), count.getD (.int 1), none⟩]
    | .schema only =>
        only.isEmptySequence = false ∧ requests = [⟨only, count.getD (.int 1), none⟩] := by
  cases request with
  | entry single => exact ⟨fun same => (Except.ok.inj same).symm, fun same => same ▸ rfl⟩
  | schema only => exact alone_eq_ok
  | list parts =>
      unfold requests?
      dsimp only
      cases RequestPart.entries? parts with
      | some many =>
          cases count with
          | none => exact ⟨fun same => ⟨rfl, (Except.ok.inj same).symm⟩, fun both => both.2 ▸ rfl⟩
          | some given => exact ⟨fun same => (nomatch same), fun both => (nomatch both.1)⟩
      | none =>
          refine alone_eq_ok.trans (and_congr_left' ?_)
          cases parts <;> simp [Schema.isEmptySequence]

theorem map_count_of_requests? (known : request.requests? count = .ok requests) :
    requests.map EntryRequest.count = request.readCounts count := by
  have made := requests?_eq_ok.1 known
  cases request with
  | entry single =>
      rw [made, List.map_singleton]
      rfl
  | schema only =>
      rw [made.2]
      cases count <;> rfl
  | list parts =>
      unfold readCounts counts ownCounts
      dsimp only at made ⊢
      cases listed : RequestPart.entries? parts with
      | some many =>
          rw [listed] at made
          obtain ⟨rfl, rfl⟩ := made
          rfl
      | none =>
          rw [listed] at made
          rw [made.2]
          cases count <;> rfl

/-- A request is accepted if and only if it is acceptable. -/
theorem exists_entries?_iff :
    (∃ entries, request.entries? count = .ok entries) ↔ request.Acceptable count := by
  have read : (∃ entries, request.entries? count = .ok entries) ↔
      ∃ requests, request.requests? count = .ok requests ∧
        ∀ request ∈ requests, request.count.IsCount := by
    unfold entries?
    simp only [bind_eq_ok, ← exists_mapM_entry_iff]
    exact ⟨fun ⟨entries, requests, known, read⟩ => ⟨requests, known, entries, read⟩,
      fun ⟨requests, known, entries, read⟩ => ⟨entries, requests, known, read⟩⟩
  rw [read]
  simp only [requests?_eq_ok]
  cases request with
  | entry single => simp [Acceptable]
  | schema only => simp [Acceptable]
  | list parts =>
      unfold Acceptable
      dsimp only
      cases RequestPart.entries? parts <;> simp

theorem readCounts_of_entries? {entries : List Entry} (accepted : request.entries? count = .ok entries) :
    request.readCounts count = (entries.map Entry.count).map fun number => .int number := by
  obtain ⟨requests, known, read⟩ := bind_eq_ok.1 accepted
  rw [← map_count_of_requests? known, map_count_of_mapM_entry read, List.map_map]
  rfl

theorem readCounts_eq (honoured : ¬ request.Overridden count) :
    request.readCounts count = request.counts count := by
  cases request with
  | list parts => rfl
  | schema only => rfl
  | entry single =>
      cases count with
      | none => rfl
      | some given =>
          by_contra differs
          exact honoured ⟨single, given, rfl, rfl, fun same => differs (same ▸ rfl)⟩

variable {entries : List Entry} (accepted : request.entries? count = .ok entries)
include accepted

/-- As many tasks are made as are asked for, unless a single entry is given another count than its own. -/
theorem asks_length_iff (baseSeed : Option Int) :
    request.Asks count (tasksOf entries baseSeed).length ↔ ¬ request.Overridden count := by
  have read := readCounts_of_entries? accepted
  constructor
  · rintro ⟨numbers, same, summed⟩ ⟨single, given, rfl, rfl, differs⟩
    obtain ⟨number, rfl, here⟩ := List.map_eq_singleton_iff.1 same.symm
    obtain ⟨own, kept, here'⟩ := List.map_eq_singleton_iff.1 read.symm
    rw [tasksOf, length_tasksFrom, kept, List.sum_singleton, List.sum_singleton] at summed
    exact differs (here ▸ here' ▸ congrArg _ (congrArg _ summed))
  · intro honoured
    refine ⟨entries.map Entry.count, ?_, (length_tasksFrom baseSeed 0 0 entries).symm⟩
    rw [← readCounts_eq honoured, read]

/-- A single entry comes to as many tasks as it asks for itself. -/
theorem asks_own_length (overridden : request.Overridden count) (baseSeed : Option Int) :
    request.Asks none (tasksOf entries baseSeed).length := by
  obtain ⟨single, given, rfl, rfl, _⟩ := overridden
  exact ⟨entries.map Entry.count, readCounts_of_entries? accepted,
    (length_tasksFrom baseSeed 0 0 entries).symm⟩

end Request

namespace Run

variable {μ π ω : Type} {run : Run μ π ω}

/-- A task of a run is never left without an outcome. -/
theorem execute_yields (run : Run μ π ω) (task : RowTask) :
    (run.execute task).YieldsGiven (fun _ _ => True) (· ≠ .ok none) := by
  unfold Run.execute
  cases run.recipe task with
  | error error => exact fun same => nomatch same
  | ok recipe =>
      refine .bind ((Process.YieldsGiven.of_free (run.generate recipe)).mono fun result _ => ?_)
      cases result with
      | failure cause => exact fun same => nomatch same
      | success index row =>
          intro world
          dsimp only
          cases (world.deliver run.outlet row).1 with
          | error error => exact fun same => nomatch same
          | ok after => exact fun _ same => nomatch same

theorem dependable (run : Run μ π ω) :
    run.surroundings.Dependable run.batch (.outcomes (· ≠ .ok none)) := by
  refine Surroundings.dependable_outcomes fun position task found => ?_
  simp only [batch, List.getElem?_map, Option.map_eq_some_iff] at found
  obtain ⟨rowTask, _, rfl⟩ := found
  exact (run.execute_yields rowTask).abides (fun _ _ => trivial) fun _ _ _ => trivial

/-- Every task of a run gives a row or a failure, however its workers move. -/
theorem Executes.accounts (positive : 1 ≤ run.concurrency) {elapsed : String}
    {world : RunWorld μ π ω} {last : Except Error Board × RunWorld μ π ω}
    (executes : run.Executes elapsed world last) {board : Board} (ended : last.1 = .ok board) :
    (run.rows board).length + board.failures.length = run.tasks.length := by
  obtain ⟨outlet, both, _, batched, rfl, _⟩ := executes.batched ended
  obtain ⟨outcomes, _, ends, rows, failures⟩ :=
    batched.complete run.dependable positive trivial fun _ _ => trivial
  have length : run.batch.length = run.tasks.length := List.length_map _
  simp only [Surroundings.filterMap_resultsOf, TaskOutcome.row?_result?,
    TaskOutcome.failure?_result?] at rows failures
  rw [length] at rows ends
  rw [Run.rows, rows, failures.length_eq, Surroundings.length_filterMap_add, List.length_zipIdx, length]
  intro entry member
  obtain ⟨_, inside, _⟩ := List.mem_zipIdx member
  exact TaskOutcome.isSome_row?_ne _ _ (ends entry.2 (by omega))

/-- A run whose outlet starts returns. -/
theorem Executes.returned {elapsed : String} {world : RunWorld μ π ω}
    {last : Except Error Board × RunWorld μ π ω} (executes : run.Executes elapsed world last)
    {outlet : ω} (started : run.outlet.start world.outlet = .ok outlet) :
    ∃ board, last.1 = .ok board := by
  unfold Executes at executes
  rw [started] at executes
  obtain ⟨both, _, rfl⟩ := executes
  exact ⟨both.2, rfl⟩

end Run

namespace RunConfig

variable {config : RunConfig}

theorem workers_pos {most : Nat} (known : config.workers = .ok most) : 1 ≤ most := by
  unfold workers at known
  split at known
  next count _ =>
    split at known
    · cases known
    · cases known
      omega
  · cases known

theorem setUp_keeps {entries : List Entry} {writer : Option Writer} {counter : Option TokenCounter}
    {measure : String → Nat} {stamp : String} {setup : RunSetup}
    (known : config.setUp entries writer counter measure stamp = .ok setup) :
    setup.entries = entries ∧ 1 ≤ setup.concurrency := by
  unfold setUp at known
  obtain ⟨_, _, known⟩ := bind_eq_ok.1 known
  dsimp only at known
  split at known
  · cases known
  · simp only [bind_eq_ok] at known
    obtain ⟨_, _, _, _, _, _, _, _, most, counted, _, _, _, _, made⟩ := known
    cases made
    exact ⟨rfl, workers_pos counted⟩

end RunConfig

/-- A count is honoured or refused, with one exception. A request is accepted if and only if it asks for
something, gives no count beside a list of entries, and has counts that are natural numbers; else it is
refused with a configuration error. An accepted request comes to as many tasks as are asked for, except
if another count is given beside a single entry, which comes to as many as it asks for itself. A run that
is set up for them comes to its end once its outlet has started, in whatever order its workers move, and
its rows and failures together are as many. -/
theorem Request.honours_count (request : Request) (count : Option Datum) :
    ((∃ entries, request.entries? count = .ok entries) ↔ request.Acceptable count) ∧
    (∀ error, request.entries? count = .error error → error.IsConfiguration) ∧
    ∀ entries, request.entries? count = .ok entries → ∃ rows,
      (request.Asks count rows ↔ ¬ request.Overridden count) ∧
      (request.Overridden count → request.Asks none rows) ∧
      (∀ baseSeed, (tasksOf entries baseSeed).length = rows) ∧
      ∀ (config : RunConfig) writer counter measure stamp setup,
        config.setUp entries writer counter measure stamp = .ok setup →
        ∀ {μ π ω : Type} (run : Run μ π ω), run.entries = setup.entries →
          run.concurrency = setup.concurrency →
          ∀ world outlet, run.outlet.start world.outlet = .ok outlet →
            run.Returns world ∧ ∀ elapsed last, run.Executes elapsed world last →
              ∃ board, last.1 = .ok board ∧
                (run.rows board).length + board.failures.length = rows := by
  refine ⟨exists_entries?_iff, raises_entries? request count, fun entries accepted => ?_⟩
  have length (baseSeed : Option Int) :
      (tasksOf entries baseSeed).length = (entries.map Entry.count).sum :=
    length_tasksFrom baseSeed 0 0 entries
  refine ⟨(entries.map Entry.count).sum, ?_, ?_, length, ?_⟩
  · exact length none ▸ asks_length_iff accepted none
  · exact fun overridden => length none ▸ asks_own_length accepted overridden none
  · intro config writer counter measure stamp setup known μ π ω run same workers world outlet started
    obtain ⟨kept, positive⟩ := RunConfig.setUp_keeps known
    refine ⟨⟨outlet, started, Process.finishes _ _⟩, fun elapsed last executes => ?_⟩
    obtain ⟨board, ended⟩ := executes.returned started
    have accounts := executes.accounts (workers ▸ positive) ended
    rw [Run.tasks, same, kept, length] at accounts
    exact ⟨board, ended, accounts⟩

/-- Two rows of one schema and one of another. -/
def twoTalks : Request :=
  .list [.entry ⟨emptyTalk, .int 2, some 0⟩, .entry ⟨.tree (.datum .null), .int 1, none⟩]

def twoTalksConfig : RunConfig :=
  ⟨.text "rows", .text "jsonl", .text "messages", .int 2, .int 7, .int 0, .text "run", .null, .null,
    .bool false, .text "INFO"⟩

def twoTalksEntries : List Entry := [⟨emptyTalk, 2, some 0⟩, ⟨.tree (.datum .null), 1, none⟩]

def twoTalksRun : Run Unit Unit Archive :=
  { Run.greetings with entries := twoTalksEntries, concurrency := 2 }

theorem setUp_twoTalks : twoTalksConfig.setUp twoTalksEntries none none String.length "now" =
    .ok ⟨twoTalksEntries, "rows", .toFile .jsonl "rows" .messages, none, 2, .run, some 7⟩ := by
  have format : twoTalksConfig.outputFormat = .ok .jsonl := by
    simp [RunConfig.outputFormat, RunConfig.parseSetting, memberOf?, twoTalksConfig, OutputFormat.all,
      OutputFormat.name, Datum.equal]
  have rows : twoTalksConfig.rowFormat = .ok .messages := by
    simp [RunConfig.rowFormat, RunConfig.parseSetting, memberOf?, twoTalksConfig, ExportFormat.all,
      ExportFormat.name, Datum.equal]
  have scope : twoTalksConfig.scope = .ok .run := by
    simp [RunConfig.scope, RunConfig.parseSetting, memberOf?, twoTalksConfig, UniqueScope.all,
      UniqueScope.name, Datum.equal]
  rw [RunConfig.setUp, RunConfig.validate, format, rows, scope]
  rfl

theorem Request.honours_count_twoTalks :
    twoTalks.Asks none 3 ∧ ∃ board,
      (twoTalksRun.execution "1.00s" Run.quietWorld).1 = .ok board ∧
      (twoTalksRun.rows board).length + board.failures.length = 3 := by
  have accepted : twoTalks.entries? none = .ok twoTalksEntries := rfl
  obtain ⟨rows, asks, _, length, runs⟩ := (twoTalks.honours_count none).2.2 _ accepted
  obtain rfl : 3 = rows := length none
  obtain ⟨_, ended⟩ := runs _ _ _ _ _ _ setUp_twoTalks twoTalksRun rfl rfl Run.quietWorld _ rfl
  refine ⟨asks.2 ?_, ended _ _ (twoTalksRun.executes_execution "1.00s" Run.quietWorld)⟩
  rintro ⟨_, _, same, _⟩
  cases same

/-- An entry of two rows beside which five are asked for. -/
def pairAndFive : Request := .entry ⟨emptyTalk, .int 2, none⟩

/-- It comes to two rows: the count of five is neither honoured nor refused. -/
theorem Request.entries?_pairAndFive :
    pairAndFive.entries? (some (.int 5)) = .ok [⟨emptyTalk, 2, none⟩] ∧
    (tasksOf [⟨emptyTalk, 2, none⟩] none).length = 2 ∧
    pairAndFive.Asks (some (.int 5)) 5 ∧ ¬ pairAndFive.Asks (some (.int 5)) 2 := by
  have asks : pairAndFive.Asks (some (.int 5)) 5 := ⟨[5], rfl, rfl⟩
  exact ⟨rfl, rfl, asks, fun asks' => absurd (asks.unique asks') (by decide)⟩

end Colloquy
