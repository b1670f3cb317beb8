import Colloquy.Export.Disk
import Colloquy.Export.Formatted
import Colloquy.Log.Basic

/-!
# Writers

A writer receives finished rows one at a time and writes each in its form: as a line of JSON, as a
row of a table whose columns are JSON texts, or into memory.
-/

set_option autoImplicit false

namespace Colloquy

inductive Medium where
  | lines
  | table
  | memory
  deriving Repr, DecidableEq

structure Writer where
  medium : Medium
  path : String
  format : ExportFormat
  isOpen : Bool
  rowsWritten : Nat
  records : List Fields

/-- A writer and the disk that it writes to. -/
structure Archive where
  writer : Writer
  disk : Disk

def OutputFormat.medium : OutputFormat → Medium
  | jsonl => .lines
  | parquet => .table

namespace Writer

def toFile (format : OutputFormat) (path : String) (rows : ExportFormat) : Writer :=
  ⟨format.medium, plainPath path, rows, false, 0, []⟩

def toMemory (rows : ExportFormat) : Writer := ⟨.memory, ".", rows, false, 0, []⟩

def ofDatum (format : Datum) (path : String) (rows : ExportFormat) : Except Error Writer :=
  match OutputFormat.ofDatum format with
  | .ok format => .ok (toFile format path rows)
  | .error _ => .error (.configuration (.outputFormat format.shown))

def count (writer : Writer) : Writer := { writer with rowsWritten := writer.rowsWritten + 1 }

end Writer

def defaultPath (format : OutputFormat) (stamp : String) : String :=
  "data/dataset_" ++ stamp ++ "." ++ format.name

def jsonLine (fields : Fields) : Except Error String := do
  return (← jsonText Json.Style.line.tolerant fields.toDatum) ++ "\n"

def jsonColumns (columns : List String) (fields : Fields) : Except Error (List String) :=
  columns.mapM fun column =>
    jsonText Json.Style.line.tolerant ((fields.get? column).getD .null)

namespace Archive

/-- Makes the writer ready: the file is there and empty, and so is the memory. -/
def start (archive : Archive) : Except Error Archive :=
  let writer := archive.writer
  let folder := archive.disk.makeFolder (parentPath writer.path)
  match writer.medium with
  | .lines => do
      return ⟨{ writer with rowsWritten := 0 }, ← folder.write writer.path (.text "")⟩
  | .table => do
      let disk ← folder.write writer.path (.table writer.format.columns [] false)
      return ⟨{ writer with isOpen := true, rowsWritten := 0 }, disk⟩
  | .memory => return { archive with writer := { writer with records := [] } }

def put (fields : Fields) (archive : Archive) : Except Error Archive :=
  let writer := archive.writer
  match writer.medium with
  | .lines => do
      return ⟨writer.count, ← archive.disk.append writer.path (← jsonLine fields)⟩
  | .table => do
      let columns := writer.format.columns
      let row ← jsonColumns columns fields
      return ⟨writer.count, ← archive.disk.appendRow writer.path columns row⟩
  | .memory =>
      return { archive with
        writer := { writer.count with records := writer.records ++ [fields] } }

def append (row : Row) (archive : Archive) : Except Error Row × Archive :=
  if archive.writer.medium = .table ∧ !archive.writer.isOpen then (.error .notOpened, archive)
  else
    let (fields, after) := archive.writer.format.form row
    match fields.bind fun fields => archive.put fields with
    | .ok written => (.ok after, written)
    | .error error => (.error error, archive)

def savedLine (writer : Writer) : LogLine :=
  match writer.medium with
  | .memory => ⟨LogLevel.info.name, s!"Collected {writer.records.length} rows"⟩
  | _ => ⟨LogLevel.info.name, s!"Saved {writer.rowsWritten} rows to {writer.path}"⟩

/-- Closes the writer and reports what it has written; a table that is not open stays as it is. -/
def finish (archive : Archive) : Archive × List LogLine :=
  let writer := archive.writer
  match writer.medium, writer.isOpen with
  | .table, false => (archive, [])
  | .table, true =>
      (⟨{ writer with isOpen := false }, archive.disk.finishTable writer.path⟩, [savedLine writer])
  | _, _ => (archive, [savedLine writer])

end Archive

/-- Where finished rows go. It has a state `ω` of its own. -/
structure Outlet (ω : Type) where
  path : String
  start : ω → Except Error ω
  /-- Takes a row: the row as it is afterwards, and the state. -/
  append : Row → ω → Except Error Row × ω
  finish : ω → ω × List LogLine

def Archive.outlet (path : String) : Outlet Archive :=
  ⟨path, Archive.start, Archive.append, Archive.finish⟩

end Colloquy
