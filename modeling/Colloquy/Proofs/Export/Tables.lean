import Colloquy.Proofs.Export.Lines
import Colloquy.Proofs.Json.Members

/-!
# Lines and tables hold the same data

A row is written as a line, which is the text of one object, or as a row of a table, whose columns
are texts of their own. The columns are the names of the members of the object, and a text in a
column is the text of that member. So both refuse the same rows, and one can be told from the other.
-/

set_option autoImplicit false

namespace Colloquy

theorem Fields.get?_of_mem {fields : Fields} (distinct : (fields.map Prod.fst).Nodup)
    {field : String × Datum} (member : field ∈ fields) : fields.get? field.1 = some field.2 := by
  induction fields with
  | nil => cases member
  | cons first rest ih =>
      obtain ⟨fresh, distinct⟩ := List.nodup_cons.1 distinct
      rw [get?_cons]
      rcases List.mem_cons.1 member with rfl | later
      · exact if_pos rfl
      · have differs : first.1 ≠ field.1 := fun same => fresh (same ▸ List.mem_map_of_mem later)
        rw [if_neg differs]
        exact ih distinct later

theorem jsonColumns_of_get? {fields part : Fields}
    (found : ∀ field ∈ part, fields.get? field.1 = some field.2) :
    jsonColumns (part.map Prod.fst) fields =
      part.mapM fun field => jsonText Json.Style.line.tolerant field.2 := by
  unfold jsonColumns
  induction part with
  | nil => rfl
  | cons field part ih =>
      rw [List.map_cons, List.mapM_cons, List.mapM_cons, found field List.mem_cons_self,
        ih fun other member => found other (List.mem_cons_of_mem _ member)]
      rfl

/-- Columns that are the names of a record hold the texts of its members. -/
theorem jsonColumns_names {fields : Fields} (distinct : (fields.map Prod.fst).Nodup) :
    jsonColumns (fields.map Prod.fst) fields =
      fields.mapM fun field => jsonText Json.Style.line.tolerant field.2 :=
  jsonColumns_of_get? fun _ member => Fields.get?_of_mem distinct member

/-- The line of a record is the text of the object that its columns are the members of. -/
theorem jsonLine_eq {columns : List String} {fields : Fields} (distinct : columns.Nodup)
    (names : fields.map Prod.fst = columns) :
    jsonLine fields = (jsonColumns columns fields).map fun texts =>
      Json.objectText (columns.zip texts) ++ "\n" := by
  subst names
  rw [jsonColumns_names distinct]
  unfold jsonLine
  rw [jsonText_toDatum]
  cases fields.mapM fun field => jsonText Json.Style.line.tolerant field.2 <;> rfl

theorem length_jsonColumns {columns : List String} {fields : Fields} {texts : List String}
    (written : jsonColumns columns fields = .ok texts) : texts.length = columns.length := by
  unfold jsonColumns at written
  induction columns generalizing texts with
  | nil =>
      cases written
      rfl
  | cons column columns ih =>
      rw [List.mapM_cons] at written
      obtain ⟨first, _, written⟩ := bind_eq_ok.1 written
      obtain ⟨rest, others, same⟩ := bind_eq_ok.1 written
      cases same
      exact congrArg Nat.succ (ih others)

namespace ExportFormat

theorem nodup_columns (format : ExportFormat) : format.columns.Nodup := by
  cases format <;> decide

theorem names_of_form {format : ExportFormat} {row : Row} {fields : Fields}
    (formed : (format.form row).1 = .ok fields) : fields.map Prod.fst = format.columns := by
  cases format with
  | messages =>
      obtain ⟨messages, _, formed⟩ := bind_eq_ok.1 (mapError_eq_ok.1 formed)
      obtain ⟨tools, _, formed⟩ := bind_eq_ok.1 formed
      obtain ⟨plan, _, formed⟩ := bind_eq_ok.1 formed
      obtain ⟨origin, _, same⟩ := bind_eq_ok.1 formed
      cases same
      rfl
  | chatTemplate =>
      obtain ⟨parts, _, rfl⟩ := map_eq_ok.1 formed
      rfl

/-- The texts of a row, one for each column. -/
def cells (format : ExportFormat) (row : Row) : Except Error (List String) :=
  (format.form row).1.bind fun fields => jsonColumns format.columns fields

theorem length_cells {format : ExportFormat} {row : Row} {texts : List String}
    (written : format.cells row = .ok texts) : texts.length = format.columns.length := by
  obtain ⟨fields, _, written⟩ := bind_eq_ok.1 written
  exact length_jsonColumns written

/-- What a file of rows answers to a row: the row as it is afterwards, unless it is refused. -/
def answer (format : ExportFormat) (row : Row) : Except Error Row :=
  (format.cells row).map fun _ => (format.form row).2

/-- The texts of those among the rows that are not refused. -/
def stored (format : ExportFormat) (rows : List Row) : List (List String) :=
  rows.filterMap fun row => (format.cells row).toOption

theorem stored_cons (format : ExportFormat) (row : Row) (rows : List Row) :
    format.stored (row :: rows) = format.stored [row] ++ format.stored rows :=
  List.filterMap_append (l := [row])

theorem stored_of_ok {format : ExportFormat} {row : Row} {texts : List String}
    (written : format.cells row = .ok texts) : format.stored [row] = [texts] := by
  simp [stored, written, Except.toOption]

theorem stored_of_error {format : ExportFormat} {row : Row} {error : Error}
    (refused : format.cells row = .error error) : format.stored [row] = [] := by
  simp [stored, refused, Except.toOption]

/-- The line of a row with these texts in its columns. -/
def lineOf (format : ExportFormat) (texts : List String) : String :=
  Json.objectText (format.columns.zip texts)

/-- The file that holds the texts of some rows, while it is open. -/
def file (format : ExportFormat) : OutputFormat → List (List String) → FileContent
  | .jsonl, stored => .text (fileOf (stored.map format.lineOf))
  | .parquet, stored => .table format.columns stored false

end ExportFormat

namespace Disk

/-- Whatever is written at the path is put there. -/
def Takes (path : String) (disk : Disk) : Prop :=
  ∀ content, disk.write path content = .ok (disk.put path content)

variable {path : String} {disk : Disk}

theorem takes_of_write {content : FileContent} {later : Disk}
    (written : disk.write path content = .ok later) :
    later = disk.put path content ∧ later.Takes path := by
  unfold write at written
  split at written
  · cases written
  next proper =>
    split at written
    · cases written
    next reached =>
      split at written
      · cases written
      next free =>
        cases written
        refine ⟨rfl, fun other => ?_⟩
        unfold write
        rw [if_neg proper]
        exact (if_neg reached).trans (if_neg free)

theorem Takes.put (takes : disk.Takes path) (content : FileContent) :
    (disk.put path content).Takes path :=
  (takes_of_write (takes content)).2

variable {form : ExportFormat} {stored : List (List String)}

theorem append_file (takes : disk.Takes path)
    (file : disk.read? path = some (form.file .jsonl stored)) (texts : List String) :
    disk.append path (form.lineOf texts ++ "\n") =
      .ok (disk.put path (form.file .jsonl (stored ++ [texts]))) := by
  unfold append
  rw [file]
  change disk.write path
    (.text (fileOf (stored.map form.lineOf) ++ (form.lineOf texts ++ "\n"))) = _
  rw [fileOf_append, ← List.map_singleton, ← List.map_append]
  exact takes _

theorem appendRow_file (takes : disk.Takes path)
    (file : disk.read? path = some (form.file .parquet stored)) (texts : List String) :
    disk.appendRow path form.columns texts =
      .ok (disk.put path (form.file .parquet (stored ++ [texts]))) := by
  unfold appendRow
  rw [file]
  exact takes _

end Disk

namespace Archive

/-- The archive is open for rows of a form, and its file holds the texts of those that it took. -/
structure Holds (output : OutputFormat) (form : ExportFormat) (place : String)
    (stored : List (List String)) (archive : Archive) : Prop where
  medium : archive.writer.medium = output.medium
  isOpen : output = .parquet → archive.writer.isOpen = true
  format : archive.writer.format = form
  path : archive.writer.path = place
  takes : archive.disk.Takes place
  file : archive.disk.read? place = some (form.file output stored)

variable {output : OutputFormat} {form : ExportFormat} {place : String}
  {stored : List (List String)} {archive opened : Archive}

theorem holds_start (medium : archive.writer.medium = output.medium)
    (started : archive.start = .ok opened) :
    opened.Holds output archive.writer.format archive.writer.path [] := by
  obtain ⟨⟨kind, path, form, isOpen, count, records⟩, disk⟩ := archive
  obtain rfl : kind = output.medium := medium
  cases output with
  | jsonl =>
      obtain ⟨fresh, written, same⟩ := bind_eq_ok.1 started
      cases same
      obtain ⟨rfl, takes⟩ := Disk.takes_of_write written
      exact ⟨rfl, nofun, rfl, rfl, takes, Disk.read?_put _ _ _⟩
  | parquet =>
      obtain ⟨fresh, written, same⟩ := bind_eq_ok.1 started
      cases same
      obtain ⟨rfl, takes⟩ := Disk.takes_of_write written
      exact ⟨rfl, fun _ => rfl, rfl, rfl, takes, Disk.read?_put _ _ _⟩

/-- The archive with one row of texts more. -/
def enlarged (output : OutputFormat) (stored : List (List String)) (archive : Archive) : Archive :=
  ⟨archive.writer.count,
    archive.disk.put archive.writer.path (archive.writer.format.file output stored)⟩

theorem Holds.enlarged (holds : archive.Holds output form place stored)
    (later : List (List String)) :
    (archive.enlarged output later).Holds output form place later := by
  obtain ⟨medium, isOpen, rfl, rfl, takes, _⟩ := holds
  exact ⟨medium, isOpen, rfl, rfl, takes.put _, Disk.read?_put _ _ _⟩

theorem Holds.put_eq (holds : archive.Holds output form place stored) {fields : Fields}
    (names : fields.map Prod.fst = form.columns) :
    archive.put fields = (jsonColumns form.columns fields).map fun texts =>
      archive.enlarged output (stored ++ [texts]) := by
  obtain ⟨medium, _, rfl, rfl, takes, file⟩ := holds
  unfold put
  dsimp only
  rw [medium]
  cases output with
  | jsonl =>
      dsimp only [OutputFormat.medium]
      rw [jsonLine_eq (ExportFormat.nodup_columns _) names]
      cases jsonColumns archive.writer.format.columns fields with
      | error error => rfl
      | ok texts =>
          change (archive.disk.append archive.writer.path
            (archive.writer.format.lineOf texts ++ "\n") >>= _) = _
          rw [Disk.append_file takes file]
          rfl
  | parquet =>
      dsimp only [OutputFormat.medium]
      cases jsonColumns archive.writer.format.columns fields with
      | error error => rfl
      | ok texts =>
          change (archive.disk.appendRow archive.writer.path
            archive.writer.format.columns texts >>= _) = _
          rw [Disk.appendRow_file takes file]
          rfl

/-- A row that is taken is stored behind the others; one that is refused changes nothing. -/
theorem Holds.append (holds : archive.Holds output form place stored) (row : Row) :
    ∃ later, archive.append row = (form.answer row, later) ∧
      later.Holds output form place (stored ++ form.stored [row]) := by
  have opened : ¬(archive.writer.medium = .table ∧ !archive.writer.isOpen) := by
    rw [holds.medium]
    cases output with
    | jsonl => exact fun both => nomatch both.1
    | parquet => simp [holds.isOpen rfl]
  unfold Archive.append ExportFormat.answer
  rw [if_neg opened, holds.format]
  dsimp only
  cases formed : (form.form row).1 with
  | error error =>
      have refused : form.cells row = .error error := by
        unfold ExportFormat.cells
        rw [formed]
        rfl
      rw [refused, ExportFormat.stored_of_error refused, List.append_nil]
      exact ⟨archive, rfl, holds⟩
  | ok fields =>
      have cells : form.cells row = jsonColumns form.columns fields := by
        unfold ExportFormat.cells
        rw [formed]
        rfl
      dsimp only [Except.bind]
      rw [holds.put_eq (ExportFormat.names_of_form formed), ← cells]
      cases written : form.cells row with
      | error error =>
          rw [ExportFormat.stored_of_error written, List.append_nil]
          exact ⟨archive, rfl, holds⟩
      | ok texts =>
          rw [ExportFormat.stored_of_ok written]
          exact ⟨_, rfl, holds.enlarged _⟩

/-- Appends rows one after the other: what is answered to each, and the archive. -/
def appendAll : List Row → Archive → List (Except Error Row) × Archive
  | [], archive => ([], archive)
  | row :: rows, archive =>
      let (answer, next) := archive.append row
      let (answers, last) := next.appendAll rows
      (answer :: answers, last)

theorem Holds.appendAll (holds : archive.Holds output form place stored) (rows : List Row) :
    ∃ last, archive.appendAll rows = (rows.map form.answer, last) ∧
      last.Holds output form place (stored ++ form.stored rows) := by
  induction rows generalizing archive stored with
  | nil => exact ⟨archive, rfl, (List.append_nil stored).symm ▸ holds⟩
  | cons row rows ih =>
      obtain ⟨next, appended, held⟩ := holds.append row
      obtain ⟨last, others, held⟩ := ih held
      refine ⟨last, ?_, ?_⟩
      · unfold Archive.appendAll
        rw [appended]
        dsimp only
        rw [others]
        rfl
      · rw [ExportFormat.stored_cons, ← List.append_assoc]
        exact held

end Archive

/-- An archive of lines and an archive of a table, both of one form and both started, answer the
same to all the rows that are appended to them. The rows that they take are the same ones. The line of
each is the object whose members are the columns of the table, in order, with the texts in them. -/
theorem Archive.appendAll_agree (form : ExportFormat) {lines table opened ready : Archive}
    (ofLines : lines.writer.medium = .lines) (ofTable : table.writer.medium = .table)
    (linesForm : lines.writer.format = form) (tableForm : table.writer.format = form)
    (started : lines.start = .ok opened) (prepared : table.start = .ok ready) (rows : List Row) :
    (opened.appendAll rows).1 = rows.map form.answer ∧
    (ready.appendAll rows).1 = rows.map form.answer ∧
    (ready.appendAll rows).2.disk.read? table.writer.path =
      some (.table form.columns (form.stored rows) false) ∧
    (opened.appendAll rows).2.disk.read? lines.writer.path =
      some (.text (fileOf ((form.stored rows).map fun texts =>
        Json.objectText (form.columns.zip texts)))) ∧
    ∀ texts ∈ form.stored rows, texts.length = form.columns.length := by
  subst linesForm
  -- Both archives hold the same texts, so that neither has to be compared with the other.
  have started : opened.Holds .jsonl lines.writer.format lines.writer.path [] :=
    Archive.holds_start ofLines started
  have prepared : ready.Holds .parquet table.writer.format table.writer.path [] :=
    Archive.holds_start ofTable prepared
  rw [tableForm] at prepared
  obtain ⟨last, appended, held⟩ := started.appendAll rows
  obtain ⟨final, entered, kept⟩ := prepared.appendAll rows
  rw [appended, entered]
  refine ⟨rfl, rfl, kept.file, held.file, fun texts member => ?_⟩
  obtain ⟨row, _, written⟩ := List.mem_filterMap.1 member
  cases cells : lines.writer.format.cells row with
  | error error =>
      rw [cells] at written
      cases written
  | ok others =>
      rw [cells] at written
      cases written
      exact ExportFormat.length_cells cells

def greetingRow : Row :=
  ⟨[⟨.user, .text "Hi", none, none, none, "1"⟩], [], .empty, ⟨none, "m", none, "now", none, []⟩⟩

/-- A conversation whose one tool result has a key that no JSON object can have. -/
def oddlyKeyedRow : Row :=
  ⟨[⟨.tool, .mapping [(.list [], .null)], none, some "a", some "look", "1"⟩], [], .empty,
    ⟨none, "m", none, "now", none, []⟩⟩

def emptyLines : Archive := ⟨⟨.lines, "rows.jsonl", .chatTemplate, false, 0, []⟩, .empty⟩

def emptyTable : Archive := ⟨⟨.table, "rows.parquet", .chatTemplate, false, 0, []⟩, .empty⟩

/-- Of three rows the second is refused by both archives, and both hold the other two. -/
theorem appendAll_agree_greetingRow : ∃ opened ready,
    emptyLines.start = .ok opened ∧ emptyTable.start = .ok ready ∧
    (opened.appendAll [greetingRow, oddlyKeyedRow, greetingRow]).1 =
      [.ok greetingRow, .error (.ofUnwritable (.key "list")), .ok greetingRow] ∧
    (ready.appendAll [greetingRow, oddlyKeyedRow, greetingRow]).1 =
      (opened.appendAll [greetingRow, oddlyKeyedRow, greetingRow]).1 ∧
    ∃ talk, talk = "[\x7b\"role\": \"user\", " ++
        "\"content\": [\x7b\"type\": \"text\", \"text\": \"Hi\"\x7d]\x7d]" ∧
      (ready.appendAll [greetingRow, oddlyKeyedRow, greetingRow]).2.disk.read? "rows.parquet" =
        some (.table ["tools", "messages"] [["[]", talk], ["[]", talk]] false) ∧
      (opened.appendAll [greetingRow, oddlyKeyedRow, greetingRow]).2.disk.read? "rows.jsonl" =
        some (.text (fileOf (List.replicate 2
          ("\x7b\"tools\": [], \"messages\": " ++ talk ++ "\x7d")))) := by
  refine ⟨_, _, rfl, rfl, ?_⟩
  obtain ⟨answers, same, rows, text, _⟩ := @Archive.appendAll_agree .chatTemplate emptyLines
    emptyTable _ _ rfl rfl rfl rfl rfl rfl [greetingRow, oddlyKeyedRow, greetingRow]
  refine ⟨answers.trans rfl, same.trans answers.symm, _, rfl, rows.trans ?_, text.trans ?_⟩
  · decide +kernel
  · decide +kernel

end Colloquy
