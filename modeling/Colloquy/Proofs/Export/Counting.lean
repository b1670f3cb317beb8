import Colloquy.Proofs.Export.Tables

/-!
# Writers count what they hold

A writer may be started, given rows and closed in any order and any number of times, and any of the
rows may fail to be stored. A writer to a file then counts the rows that it took since it was started
last, which are the rows in the file. A writer into memory never counts anew.
-/

set_option autoImplicit false

namespace Colloquy

namespace Disk

/-- The folders on the way to the file at a path are there, so that it can be written. -/
structure Settled (path : String) (disk : Disk) : Prop where
  folders : disk.makeFolder (parentPath path) = disk
  takes : disk.Takes path

variable {path : String} {disk : Disk}

theorem makeFolder_eq_self_iff :
    disk.makeFolder path = disk ↔ ∀ folder ∈ passed path ++ [placeOf path], folder ∈ disk.folders := by
  obtain ⟨folders, files⟩ := disk
  simp only [makeFolder, mk.injEq, and_true, List.append_right_eq_self, List.filter_eq_nil_iff,
    Bool.not_eq_true', Bool.not_eq_false, List.contains_iff_mem]

theorem makeFolder_makeFolder (path : String) (disk : Disk) :
    (disk.makeFolder path).makeFolder path = disk.makeFolder path := by
  rw [makeFolder_eq_self_iff]
  intro folder wanted
  by_cases there : folder ∈ disk.folders
  · exact List.mem_append_left _ there
  · exact List.mem_append_right _ (List.mem_filter.2 ⟨wanted, by simpa using there⟩)

theorem makeFolder_put (folder path : String) (content : FileContent) (disk : Disk) :
    (disk.put path content).makeFolder folder = (disk.makeFolder folder).put path content := rfl

theorem Settled.put (settled : disk.Settled path) (content : FileContent) :
    (disk.put path content).Settled path :=
  ⟨by rw [makeFolder_put, settled.folders], settled.takes.put content⟩

/-- A file that has been written anew has its folders. -/
theorem settled_of_write {content : FileContent} {later : Disk}
    (written : (disk.makeFolder (parentPath path)).write path content = .ok later) :
    later = (disk.makeFolder (parentPath path)).put path content ∧ later.Settled path := by
  obtain ⟨rfl, takes⟩ := takes_of_write written
  exact ⟨rfl, by rw [makeFolder_put, makeFolder_makeFolder], takes⟩

end Disk

/-- The number of complete lines in a file of text. -/
def FileContent.lines? : FileContent → Option Nat
  | .text content => some (content.toList.count '\n')
  | .table _ _ _ => none

/-- The number of rows in a table, finished or not. -/
def FileContent.rows? : FileContent → Option Nat
  | .text _ => none
  | .table _ rows _ => some rows.length

namespace Archive

/-- The number of rows that the destination holds, if it is one. -/
def held? (archive : Archive) : Option Nat :=
  match archive.writer.medium with
  | .lines => (archive.disk.read? archive.writer.path).bind FileContent.lines?
  | .table => (archive.disk.read? archive.writer.path).bind FileContent.rows?
  | .memory => some archive.writer.records.length

/-- What a writer may be called for. A row may be bound to fail before it is stored. -/
inductive Call where
  | start
  | append (row : Row) (fails : Bool)
  | finish

/-- Whether a call succeeds, and the archive behind it. -/
def answer (archive : Archive) : Call → Bool × Archive
  | .start =>
      match archive.start with
      | .ok opened => (true, opened)
      | .error _ => (false, archive)
  | .append _ true => (false, archive)
  | .append row false =>
      match archive.append row with
      | (.ok _, later) => (true, later)
      | (.error _, later) => (false, later)
  | .finish => (true, archive.finish.1)

/-- A call, the archive in front of it, and whether it succeeded. -/
structure Answered where
  before : Archive
  call : Call
  succeeded : Bool

namespace Answered

def starts (entry : Answered) : Bool :=
  match entry.call with
  | .start => entry.succeeded
  | _ => false

def takes (entry : Answered) : Bool :=
  match entry.call with
  | .append _ _ => entry.succeeded
  | _ => false

/-- Whether a table is started that has not been closed. -/
def reopens (entry : Answered) : Bool :=
  match entry.call with
  | .start => decide (entry.before.writer.medium = .table) && entry.before.writer.isOpen
  | _ => false

end Answered

/-- The number of rows that were taken. -/
def taken (history : List Answered) : Nat := history.countP Answered.takes

/-- What has been called since the archive was started last, the last call first. -/
def sinceStart (history : List Answered) : List Answered :=
  history.takeWhile fun entry => !entry.starts

/-- What had been called until then. -/
def untilStart (history : List Answered) : List Answered :=
  history.dropWhile fun entry => !entry.starts

/-- An archive in use, and the calls that it has answered, the last one first. -/
structure Usage where
  history : List Answered
  archive : Archive

namespace Usage

def call (usage : Usage) (call : Call) : Usage :=
  ⟨⟨usage.archive, call, (usage.archive.answer call).1⟩ :: usage.history,
    (usage.archive.answer call).2⟩

def play (usage : Usage) (calls : List Call) : Usage := calls.foldl Usage.call usage

end Usage

/-- The archive can be started again: it is in memory, or its file can be written. -/
def Prepared (archive : Archive) : Prop :=
  archive.writer.medium = .memory ∨ archive.disk.Settled archive.writer.path

/-- An archive of a medium that holds some number of rows, and has counted some number of rows. -/
structure Tallied (medium : Medium) (held counted : Nat) (archive : Archive) : Prop where
  medium : archive.writer.medium = medium
  prepared : archive.Prepared
  held : archive.held? = some held
  counted : archive.writer.rowsWritten = counted

variable {archive opened later : Archive} {medium : Medium} {held counted : Nat}

theorem Prepared.start (prepared : archive.Prepared) : ∃ opened, archive.start = .ok opened := by
  obtain ⟨⟨medium, path, form, isOpen, count, records⟩, disk⟩ := archive
  cases medium with
  | lines =>
      obtain ⟨folders, takes⟩ : disk.Settled path := prepared.resolve_left nofun
      refine ⟨⟨⟨.lines, path, form, isOpen, 0, records⟩, disk.put path (.text "")⟩, ?_⟩
      dsimp only [Archive.start] at folders ⊢
      rw [folders, takes]
      rfl
  | table =>
      obtain ⟨folders, takes⟩ : disk.Settled path := prepared.resolve_left nofun
      refine ⟨⟨⟨.table, path, form, true, 0, records⟩,
        disk.put path (.table form.columns [] false)⟩, ?_⟩
      dsimp only [Archive.start] at folders ⊢
      rw [folders, takes]
      rfl
  | memory => exact ⟨_, rfl⟩

theorem answer_start (started : archive.start = .ok opened) :
    archive.answer .start = (true, opened) := by
  unfold answer
  rw [started]

/-- A writer that is started holds nothing. To a file it counts anew, into memory it counts on. -/
theorem tallied_start (started : archive.start = .ok opened) :
    opened.Tallied archive.writer.medium 0
      (if archive.writer.medium = .memory then archive.writer.rowsWritten else 0) := by
  obtain ⟨⟨medium, path, form, isOpen, count, records⟩, disk⟩ := archive
  cases medium with
  | lines =>
      obtain ⟨fresh, written, same⟩ := bind_eq_ok.1 started
      cases same
      obtain ⟨rfl, settled⟩ := Disk.settled_of_write written
      refine ⟨rfl, .inr settled, ?_, rfl⟩
      simp only [held?, Disk.read?_put]
      rfl
  | table =>
      obtain ⟨fresh, written, same⟩ := bind_eq_ok.1 started
      cases same
      obtain ⟨rfl, settled⟩ := Disk.settled_of_write written
      refine ⟨rfl, .inr settled, ?_, rfl⟩
      simp only [held?, Disk.read?_put]
      rfl
  | memory =>
      cases started
      exact ⟨rfl, .inl rfl, rfl, rfl⟩

theorem count_jsonLine {fields : Fields} {line : String} (written : jsonLine fields = .ok line) :
    line.toList.count '\n' = 1 := by
  obtain ⟨text, shown, same⟩ := bind_eq_ok.1 written
  cases same
  have one : OneLine text := oneLine_jsonText Json.isFlat_line shown
  rw [String.toList_append, List.count_append, List.count_eq_zero.2 one]
  rfl

/-- What is put into an archive is one row more. -/
theorem Tallied.put (tallied : archive.Tallied medium held counted) {fields : Fields}
    (stored : archive.put fields = .ok later) : later.Tallied medium (held + 1) (counted + 1) := by
  obtain ⟨⟨kind, path, form, isOpen, count, records⟩, disk⟩ := archive
  obtain ⟨rfl, prepared, holds, rfl⟩ := tallied
  cases kind with
  | lines =>
      have settled : disk.Settled path := prepared.resolve_left nofun
      obtain ⟨line, shown, stored⟩ := bind_eq_ok.1 stored
      obtain ⟨enlarged, written, same⟩ := bind_eq_ok.1 stored
      cases same
      obtain ⟨content, there, counted⟩ := Option.bind_eq_some_iff.1 holds
      match content with
      | .table _ _ _ => cases counted
      | .text content =>
          cases counted
          unfold Disk.append at written
          rw [there] at written
          obtain ⟨rfl, takes⟩ := Disk.takes_of_write written
          refine ⟨rfl, .inr (settled.put _), ?_, rfl⟩
          simp only [held?, Writer.count, Disk.read?_put, Option.bind_some, FileContent.lines?,
            String.toList_append, List.count_append, count_jsonLine shown]
  | table =>
      have settled : disk.Settled path := prepared.resolve_left nofun
      obtain ⟨texts, _, stored⟩ := bind_eq_ok.1 stored
      obtain ⟨enlarged, written, same⟩ := bind_eq_ok.1 stored
      cases same
      obtain ⟨content, there, counted⟩ := Option.bind_eq_some_iff.1 holds
      match content with
      | .text _ => cases counted
      | .table columns rows finished =>
          cases counted
          unfold Disk.appendRow at written
          rw [there] at written
          obtain ⟨rfl, takes⟩ := Disk.takes_of_write written
          refine ⟨rfl, .inr (settled.put _), ?_, rfl⟩
          simp only [held?, Writer.count, Disk.read?_put, Option.bind_some, FileContent.rows?,
            List.length_append, List.length_singleton]
  | memory =>
      cases stored
      cases holds
      refine ⟨rfl, .inl rfl, ?_, rfl⟩
      simp only [held?, List.length_append]
      rfl

theorem Tallied.append (tallied : archive.Tallied medium held counted) {row after : Row}
    (appended : archive.append row = (.ok after, later)) :
    later.Tallied medium (held + 1) (counted + 1) := by
  unfold Archive.append at appended
  split at appended
  · cases appended
  · dsimp only at appended
    split at appended
    next written stored =>
      cases appended
      obtain ⟨fields, _, stored⟩ := bind_eq_ok.1 stored
      exact tallied.put stored
    · cases appended

/-- Closing changes neither the count nor what is held. -/
theorem Tallied.finish (tallied : archive.Tallied medium held counted) :
    archive.finish.1.Tallied medium held counted := by
  obtain ⟨⟨kind, path, form, isOpen, count, records⟩, disk⟩ := archive
  obtain ⟨rfl, prepared, holds, rfl⟩ := tallied
  match kind, isOpen with
  | .lines, _ | .memory, _ | .table, false => exact ⟨rfl, prepared, holds, rfl⟩
  | .table, true =>
      have settled : disk.Settled path := prepared.resolve_left nofun
      obtain ⟨content, there, number⟩ := Option.bind_eq_some_iff.1 holds
      match content with
      | .text _ => cases number
      | .table columns rows finished =>
          have ended : disk.finishTable path = disk.put path (.table columns rows true) := by
            unfold Disk.finishTable
            rw [there]
          dsimp only [Archive.finish]
          rw [ended]
          refine ⟨rfl, .inr (settled.put _), ?_, rfl⟩
          simp only [held?, Disk.read?_put]
          exact number

section

variable {entry : Answered} {history : List Answered}

theorem taken_eq (history : List Answered) :
    taken history = taken (sinceStart history) + taken (untilStart history) := by
  unfold taken sinceStart untilStart
  rw [← List.countP_append, List.takeWhile_append_dropWhile]

theorem taken_sinceStart_of_starts (starts : entry.starts = true) :
    taken (sinceStart (entry :: history)) = 0 := by
  simp [taken, sinceStart, starts]

theorem sinceStart_of_not_starts (goesOn : entry.starts = false) :
    sinceStart (entry :: history) = entry :: sinceStart history := by
  simp [sinceStart, goesOn]

theorem taken_of_takes (takes : entry.takes = true) : taken (entry :: history) = taken history + 1 :=
  List.countP_cons_of_pos takes

theorem taken_of_not_takes (passes : entry.takes = false) : taken (entry :: history) = taken history :=
  List.countP_cons_of_neg (by simp [passes])

end

/-- What is counted, and what is held, by what has been called. -/
structure Usage.Counts (medium : Medium) (initial : Nat) (usage : Usage) : Prop where
  starts : ∀ entry ∈ usage.history, entry.call = .start → entry.succeeded = true
  tallied : usage.archive.Tallied medium (taken (sinceStart usage.history))
    (if medium = .memory then initial + taken usage.history else taken (sinceStart usage.history))

namespace Usage

variable {usage : Usage} {initial : Nat}

/-- A call that is no start and takes no row changes no count. -/
theorem Counts.pass (counts : usage.Counts medium initial) {call : Call} {succeeded : Bool}
    (other : call ≠ .start) (passes : (Answered.mk usage.archive call succeeded).takes = false)
    (tallied : later.Tallied medium (taken (sinceStart usage.history))
      (if medium = .memory then initial + taken usage.history
        else taken (sinceStart usage.history))) :
    Counts medium initial ⟨⟨usage.archive, call, succeeded⟩ :: usage.history, later⟩ := by
  have goesOn : (Answered.mk usage.archive call succeeded).starts = false := by
    cases call <;> trivial
  refine ⟨List.forall_mem_cons.2 ⟨fun same => absurd same other, counts.starts⟩, ?_⟩
  rw [sinceStart_of_not_starts goesOn, taken_of_not_takes passes, taken_of_not_takes passes]
  exact tallied

/-- A row that is taken is counted, and held. -/
theorem Counts.take (counts : usage.Counts medium initial) {row : Row} {fails : Bool}
    (tallied : later.Tallied medium (taken (sinceStart usage.history) + 1)
      ((if medium = .memory then initial + taken usage.history
        else taken (sinceStart usage.history)) + 1)) :
    Counts medium initial ⟨⟨usage.archive, .append row fails, true⟩ :: usage.history, later⟩ := by
  refine ⟨List.forall_mem_cons.2 ⟨nofun, counts.starts⟩, ?_⟩
  rw [sinceStart_of_not_starts rfl, taken_of_takes rfl, taken_of_takes rfl]
  convert tallied using 1
  split <;> rfl

/-- A start leaves nothing behind but what a writer into memory has counted. -/
theorem Counts.restart (counts : usage.Counts medium initial)
    (tallied : opened.Tallied usage.archive.writer.medium 0
      (if usage.archive.writer.medium = .memory then usage.archive.writer.rowsWritten else 0)) :
    Counts medium initial ⟨⟨usage.archive, .start, true⟩ :: usage.history, opened⟩ := by
  refine ⟨List.forall_mem_cons.2 ⟨fun _ => rfl, counts.starts⟩, ?_⟩
  rw [counts.tallied.medium, counts.tallied.counted] at tallied
  rw [taken_sinceStart_of_starts rfl, taken_of_not_takes rfl]
  by_cases memory : medium = .memory
  · simpa only [if_pos memory] using tallied
  · simpa only [if_neg memory] using tallied

/-- Every call restores the counts. -/
theorem Counts.call (counts : usage.Counts medium initial) (call : Call) :
    (usage.call call).Counts medium initial := by
  match call with
  | .start =>
      obtain ⟨opened, started⟩ := counts.tallied.prepared.start
      unfold Usage.call
      rw [answer_start started]
      exact counts.restart (tallied_start started)
  | .append row true => exact counts.pass nofun rfl counts.tallied
  | .append row false =>
      dsimp only [Usage.call, answer]
      split
      next after later appended => exact counts.take (counts.tallied.append appended)
      next error later appended =>
        obtain rfl := append_error appended
        exact counts.pass nofun rfl counts.tallied
  | .finish => exact counts.pass nofun rfl counts.tallied.finish

theorem Counts.play (counts : usage.Counts medium initial) (calls : List Call) :
    (usage.play calls).Counts medium initial := by
  induction calls generalizing usage with
  | nil => exact counts
  | cons call calls ih => exact ih (counts.call call)

/-- The rows taken since the last start are counted, and no others unless the count went on in memory. -/
theorem Counts.rowsWritten_eq_iff (counts : usage.Counts medium initial) :
    usage.archive.writer.rowsWritten = taken (sinceStart usage.history) ↔
      (medium = .memory → initial + taken (untilStart usage.history) = 0) := by
  have split := taken_eq usage.history
  rw [counts.tallied.counted]
  by_cases memory : medium = .memory
  · rw [if_pos memory, forall_prop_of_true memory]
    omega
  · rw [if_neg memory]
    exact iff_of_true rfl fun other => absurd other memory

/-- A start that succeeds is where counting begins. -/
theorem counts_of_start (started : archive.start = .ok opened) :
    (Usage.call ⟨[], archive⟩ .start).Counts archive.writer.medium archive.writer.rowsWritten := by
  unfold Usage.call
  rw [answer_start started]
  refine ⟨List.forall_mem_cons.2 ⟨fun _ => rfl, List.forall_mem_nil _⟩, ?_⟩
  rw [taken_sinceStart_of_starts rfl, taken_of_not_takes rfl]
  exact tallied_start started

end Usage

end Archive

/-- A writer that has been started can always be started again. After any calls, a writer to a file has
counted the rows that it took since it was started last. A writer into memory has counted all the rows
that it ever took, so that its count is the same only if it had counted none when it was started last.
What the destination holds are the rows taken since the last start, in both. A table that is started
while it is open is left out: the writer in front of it has yet to write its own end into the file. -/
theorem Archive.counts_rows {archive opened : Archive} (started : archive.start = .ok opened)
    (calls : List Archive.Call) {usage : Archive.Usage}
    (used : usage = Archive.Usage.play ⟨[], archive⟩ (.start :: calls)) :
    (∀ entry ∈ usage.history, entry.call = .start → entry.succeeded = true) ∧
    usage.archive.writer.rowsWritten =
      (if archive.writer.medium = .memory then archive.writer.rowsWritten + taken usage.history
        else taken (sinceStart usage.history)) ∧
    (usage.archive.writer.rowsWritten = taken (sinceStart usage.history) ↔
      (archive.writer.medium = .memory →
        archive.writer.rowsWritten + taken (untilStart usage.history) = 0)) ∧
    ((∀ entry ∈ usage.history, entry.reopens = false) →
      usage.archive.held? = some (taken (sinceStart usage.history))) := by
  have counts : usage.Counts archive.writer.medium archive.writer.rowsWritten :=
    used ▸ (Usage.counts_of_start started).play calls
  exact ⟨counts.starts, counts.tallied.counted, counts.rowsWritten_eq_iff,
    fun _ => counts.tallied.held⟩

/-- A table is given a row, one that no JSON can show and one that is bound to fail; then it is closed,
started again and given one row more. -/
theorem Archive.counts_rows_emptyTable : ∃ opened, emptyTable.start = .ok opened ∧
    ∃ usage, usage = Archive.Usage.play ⟨[], emptyTable⟩
      [.start, .append greetingRow false, .append oddlyKeyedRow false, .append greetingRow true,
        .finish, .start, .append greetingRow false] ∧
      Archive.taken usage.history = 2 ∧ usage.archive.writer.rowsWritten = 1 ∧
      usage.archive.held? = some 1 := by
  refine ⟨_, rfl, _, rfl, ?_⟩
  obtain ⟨_, counted, _, held⟩ := @Archive.counts_rows emptyTable _ rfl
    [.append greetingRow false, .append oddlyKeyedRow false, .append greetingRow true, .finish,
      .start, .append greetingRow false] _ rfl
  refine ⟨?_, counted.trans ?_, (held ?_).trans ?_⟩
  all_goals decide +kernel

/-- A list that is given a row and started anew has counted one row, and holds none. -/
theorem Archive.counts_on_in_memory :
    let usage := Archive.Usage.play ⟨[], ⟨.toMemory .messages, .empty⟩⟩
      [.start, .append greetingRow false, .start]
    Archive.taken (Archive.sinceStart usage.history) = 0 ∧ usage.archive.held? = some 0 ∧
      usage.archive.writer.rowsWritten = 1 := by
  decide +kernel

end Colloquy
