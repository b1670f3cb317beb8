import Colloquy.Conversation.Reading
import Colloquy.Export.Writer
import Colloquy.Outline.Storage
import Colloquy.Outline.Tree

/-!
# Outlines of archives

A writer is outlined by its kind, its path and the form of its rows. A step on an archive says under
`do` what is done.
-/

set_option autoImplicit false

namespace Colloquy

/-- What is said of a file that should hold a table and does not, by its size. -/
def noTableText (path : String) (size : Nat) : String :=
  let cause := if size = 0 then "Parquet file size is 0 bytes"
    else if size < 8 then
      s!"Parquet file size is {size} bytes, smaller than the minimum file footer (8 bytes)"
    else "Parquet magic bytes not found in footer. Either the file is corrupted or this is not " ++
      "a parquet file."
  "Error creating dataset. Could not read schema from '" ++ path ++
    "'. Is this a 'parquet' file?: Could not open Parquet input source '" ++ path ++ "': " ++ cause

/-- A file in which there is no table that can be read, as an error. -/
def noTable (path : String) (size : Nat) : Except Error Datum :=
  .error (.unsupported .noTable (noTableText path size))

def isTablePath (path : String) : Bool :=
  let name := ((pathParts path).getLast?).getD ""
  ".parquet".toList.isSuffixOf name.toList && name ≠ ".parquet"

/-- The content of the file at a path: the lines of a text, or the columns and rows of a table. Of
a table that is not finished there are four bytes, and more when it has rows. -/
def FileContent.listing (path : String) : FileContent → Except Error Datum
  | text content =>
      if isTablePath path then noTable path content.utf8ByteSize
      else .ok (.ofTexts (content.splitOn "\n"))
  | table columns rows finished =>
      if !finished then noTable path (if rows.isEmpty then 4 else 8)
      else .ok (Fields.toDatum [("columns", .ofTexts columns),
        ("rows", .list (rows.map fun row => Fields.toDatum (columns.zip (row.map .text))))])

def Disk.listing (disk : Disk) (path : String) : Except Error Datum :=
  match disk.read? path with
  | some content => content.listing path
  | none => .ok .null

def Writer.recordsDatum (writer : Writer) : Datum := .list (writer.records.map Fields.toDatum)

/-- What an archive holds: the rows in memory, or the file that is written. -/
def Archive.listing (archive : Archive) : Except Error Datum :=
  match archive.writer.medium with
  | .memory => .ok archive.writer.recordsDatum
  | _ => archive.disk.listing archive.writer.path

namespace Outline

def row (scope : Scope) (outline : Datum) : Except Error Row := do
  (Row.read (← value scope outline)).mapError (Error.ofFaults "DatasetRow")

/-- The form of rows that an outline names, the plain one if it names none. -/
def rowForm (scope : Scope) (outline : Datum) : Except Error ExportFormat := do
  match ← value scope outline with
  | .null => return .messages
  | name => ExportFormat.ofDatum name

def writer (scope : Scope) (outline : Datum) : Except Error Writer := do
  let form ← rowForm scope (field outline "formatter")
  match ← value scope (field outline "kind") with
  | .text "list" => return .toMemory form
  | kind => Writer.ofDatum kind (fieldText outline "path") form

/-- The disk that an outline gives: with a text in the file at its path, or empty. -/
def disk (outline : Datum) : Disk :=
  let path := plainPath (fieldText outline "path")
  match outline.get? "pre" with
  | some (.text content) => (Disk.empty.makeFolder (parentPath path)).put path (.text content)
  | _ => .empty

/-- Writes rows one after another. The first error counts, but the other rows are still written. -/
def appendAll (archive : Archive) : List Row → Except Error Datum × Archive
  | [] => (.ok .null, archive)
  | row :: rows =>
      let (first, archive) := archive.append row
      let (rest, archive) := appendAll archive rows
      (first.bind fun _ => rest, archive)

def appendRead (archive : Archive) : Except Error (List Row) → Except Error Datum × Archive
  | .ok rows => appendAll archive rows
  | .error error => (.error error, archive)

/-- Takes a step on an archive: its result, the archive, and the lines to be logged. -/
def archiveStep (scope : Scope) (step : Datum) (archive : Archive) :
    Except Error Datum × Archive × List LogLine :=
  match fieldText step "do" with
  | "init" =>
      match archive.start with
      | .ok archive => (.ok .null, archive, [])
      | .error error => (.error error, archive, [])
  | "append" =>
      let (result, archive) :=
        appendRead archive ((row scope (field step "row")).map fun row => [row])
      (result, archive, [])
  | "append_many" =>
      let (result, archive) :=
        appendRead archive ((itemsOf (field step "rows")).mapM (row scope))
      (result, archive, [])
  | "close" => (.ok .null, archive.finish)
  | "path" => (.ok (.text archive.writer.path), archive, [])
  | "read" => (archive.listing, archive, [])
  | _ => (senseless "step", archive, [])

end Outline

end Colloquy
