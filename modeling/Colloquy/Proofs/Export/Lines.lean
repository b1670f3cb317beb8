import Colloquy.Export.Writer
import Colloquy.Proofs.Json.OneLine
import Mathlib.Data.List.Forall2

/-!
# Archives of lines

An archive of lines holds one complete line for each row that it has taken, in order, and counts the
rows. A row that is refused leaves it as it was. As no line holds a newline, the rows can be told apart
again by splitting the file.
-/

set_option autoImplicit false

namespace Colloquy

/-- The line that a row is written as: its document. -/
def Row.WrittenAs (row : Row) (line : String) : Prop :=
  ∃ document, row.document = .ok document ∧
    jsonText Json.Style.line.tolerant document.toDatum = .ok line

theorem Row.WrittenAs.oneLine {row : Row} {line : String} (written : row.WrittenAs line) :
    OneLine line := by
  obtain ⟨document, _, written⟩ := written
  exact oneLine_jsonText Json.isFlat_line written

/-- The text of a file of complete lines. -/
def fileOf (lines : List String) : String := String.join (lines.map (· ++ "\n"))

theorem fileOf_append (lines : List String) (line : String) :
    fileOf lines ++ (line ++ "\n") = fileOf (lines ++ [line]) := by
  unfold fileOf
  rw [← String.toList_inj]
  simp [String.toList_join]

/-- Splitting a file of lines at the newlines gives the lines, and nothing behind the last newline. -/
theorem splitOn_fileOf {lines : List String} (each : ∀ line ∈ lines, OneLine line) :
    (fileOf lines).toList.splitOn '\n' = (lines ++ [""]).map String.toList := by
  have file : (fileOf lines).toList = ['\n'].intercalate ((lines ++ [""]).map String.toList) := by
    unfold fileOf
    rw [String.toList_join]
    induction lines with
    | nil => rfl
    | cons line lines ih =>
        have later := ih fun other member => each other (List.mem_cons_of_mem _ member)
        cases lines with
        | nil => simp
        | cons next rest =>
            simp only [List.map_cons, List.cons_append, List.flatMap_cons,
              List.intercalate_cons_cons, String.toList_append] at later ⊢
            rw [later]
            rfl
  rw [file]
  refine List.splitOn_intercalate '\n' (fun characters member => ?_) (by simp)
  obtain ⟨line, listed, rfl⟩ := List.mem_map.1 member
  rcases List.mem_append.1 listed with inside | last
  · exact each line inside
  · rw [List.mem_singleton.1 last]
    decide

/-- The archive is a file of lines, one for each of the rows. -/
structure Archive.Lists (place : String) (rows : List Row) (archive : Archive) : Prop where
  medium : archive.writer.medium = .lines
  format : archive.writer.format = .messages
  path : archive.writer.path = place
  counted : archive.writer.rowsWritten = rows.length
  file : ∃ lines, List.Forall₂ Row.WrittenAs rows lines ∧
    archive.disk.read? place = some (.text (fileOf lines))

namespace Disk

theorem read?_of_write {path : String} {content : FileContent} {disk later : Disk}
    (written : disk.write path content = .ok later) : later.read? path = some content := by
  unfold write at written
  split at written
  · cases written
  split at written
  · cases written
  split at written
  · cases written
  · cases written
    exact read?_put disk path content

theorem read?_of_append {path content text : String} {disk later : Disk}
    (there : disk.read? path = some (.text content))
    (appended : disk.append path text = .ok later) :
    later.read? path = some (.text (content ++ text)) := by
  unfold append at appended
  rw [there] at appended
  exact read?_of_write appended

end Disk

namespace Archive

theorem lists_start {archive opened : Archive} (medium : archive.writer.medium = .lines)
    (format : archive.writer.format = .messages) (started : archive.start = .ok opened) :
    opened.Lists archive.writer.path [] := by
  obtain ⟨⟨kind, path, form, isOpen, count, records⟩, disk⟩ := archive
  obtain rfl : kind = .lines := medium
  obtain ⟨fresh, written, same⟩ := bind_eq_ok.1 started
  cases same
  exact ⟨rfl, format, rfl, rfl, [], .nil, Disk.read?_of_write written⟩

variable {place : String} {rows : List Row} {archive : Archive}

/-- A row that is taken is one more line, and one more row that is counted. -/
theorem Lists.append (lists : archive.Lists place rows) {row after : Row} {later : Archive}
    (appended : archive.append row = (.ok after, later)) :
    after = row ∧ later.Lists place (rows ++ [row]) := by
  obtain ⟨⟨kind, path, form, isOpen, count, records⟩, disk⟩ := archive
  obtain ⟨medium, format, same, counted, lines, written, file⟩ := lists
  obtain rfl : kind = .lines := medium
  obtain rfl : form = .messages := format
  obtain rfl : path = place := same
  unfold Archive.append at appended
  rw [if_neg (by simp)] at appended
  dsimp only [ExportFormat.form] at appended
  split at appended
  next put kept =>
    cases appended
    refine ⟨rfl, ?_⟩
    obtain ⟨fields, formed, kept⟩ := bind_eq_ok.1 kept
    obtain ⟨text, line, kept⟩ := bind_eq_ok.1 kept
    obtain ⟨shown, dumped, same⟩ := bind_eq_ok.1 line
    obtain rfl := Except.ok.inj same
    obtain ⟨onDisk, enlarged, same⟩ := bind_eq_ok.1 kept
    obtain rfl := Except.ok.inj same
    refine ⟨rfl, rfl, rfl, ?_, lines ++ [shown], ?_, ?_⟩
    · rw [List.length_append]
      exact congrArg Nat.succ counted
    · exact List.rel_append written (.cons ⟨fields, mapError_eq_ok.1 formed, dumped⟩ .nil)
    · rw [← fileOf_append]
      exact Disk.read?_of_append file enlarged
  · cases appended

theorem append_error {row : Row} {error : Error} {later : Archive}
    (refused : archive.append row = (.error error, later)) : later = archive := by
  unfold append at refused
  split at refused
  · cases refused
    rfl
  · dsimp only at refused
    split at refused
    · cases refused
    · cases refused
      rfl

theorem Lists.finish (lists : archive.Lists place rows) :
    archive.finish.1.Lists place rows := by
  have same : archive.finish.1 = archive := by
    unfold Archive.finish
    simp only [lists.medium]
  rw [same]
  exact lists

/-- The lines of an archive, and the rows that they are the documents of. -/
theorem Lists.splits (lists : archive.Lists place rows) :
    ∃ content lines, archive.disk.read? place = some (.text content) ∧
      content.toList.splitOn '\n' = (lines ++ [""]).map String.toList ∧
      List.Forall₂ Row.WrittenAs rows lines := by
  obtain ⟨_, _, _, _, lines, written, file⟩ := lists
  have each : ∀ line ∈ lines, OneLine line :=
    ((List.forall₂_and_left lines rows).1
      (written.flip.imp fun line row shown => ⟨Row.WrittenAs.oneLine shown, shown⟩)).1
  exact ⟨fileOf lines, lines, file, splitOn_fileOf each, written⟩

end Archive

variable {ω σ : Type}

/-- An outlet that keeps an archive, and may refuse rows that the archive would take. A refused row
leaves the archive as it was. -/
structure Outlet.Keeps (outlet : Outlet ω) (archive : ω → Archive) : Prop where
  start : ∀ {state opened}, outlet.start state = .ok opened →
    (archive state).start = .ok (archive opened)
  taken : ∀ {row after state later}, outlet.append row state = (.ok after, later) →
    (archive state).append row = (.ok after, archive later)
  refused : ∀ {row error state later}, outlet.append row state = (.error error, later) →
    archive later = archive state
  finish : ∀ state, archive (outlet.finish state).1 = (archive state).finish.1

theorem Archive.keeps_outlet (path : String) : (Archive.outlet path).Keeps id where
  start started := started
  taken appended := appended
  refused refused := append_error refused
  finish _ := rfl

/-- The outlet of an archive that may fail to write a row, before it has written anything of it. -/
def Archive.failing (path : String) (fault : Row → σ → Option Error × σ) : Outlet (Archive × σ) where
  path := path
  start both := do return (← both.1.start, both.2)
  append row both :=
    match fault row both.2 with
    | (some error, state) => (.error error, both.1, state)
    | (none, state) => ((both.1.append row).1, (both.1.append row).2, state)
  finish both := ((both.1.finish.1, both.2), both.1.finish.2)

theorem Archive.keeps_failing (path : String) (fault : Row → σ → Option Error × σ) :
    (failing path fault).Keeps Prod.fst where
  start := by
    rintro ⟨archive, state⟩ opened started
    obtain ⟨ready, readied, same⟩ := bind_eq_ok.1 started
    cases same
    exact readied
  taken := by
    rintro row after ⟨archive, state⟩ later appended
    unfold failing at appended
    dsimp only at appended
    split at appended
    · cases appended
    · cases appended' : archive.append row with
      | mk result kept =>
          rw [appended'] at appended
          cases appended
          rfl
  refused := by
    rintro row error ⟨archive, state⟩ later refused
    unfold failing at refused
    dsimp only at refused
    split at refused
    · cases refused
      rfl
    · cases refused' : archive.append row with
      | mk result kept =>
          rw [refused'] at refused
          cases refused
          exact append_error refused'
  finish _ := rfl

end Colloquy
