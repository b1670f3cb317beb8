import Colloquy.Export.Writer
import Colloquy.Proofs.Resolution.Messages
import Colloquy.Proofs.Row.Alone

/-!
# Reliable outlets

An outlet is reliable if what becomes of a row there depends on the row alone, and not on the rows
before it or on the date of the row. An outlet that never fails and leaves rows as they are is
reliable, and so is an archive in memory. Every archive refuses rows for plain reasons only.
-/

set_option autoImplicit false

namespace Colloquy

variable {ω : Type}

/-- Once it is ready, the outlet answers to a row as `accept` does, whatever it has taken before. -/
structure Outlet.Reliable (outlet : Outlet ω) (ready : ω → Prop) (accept : Row → Except Error Row) :
    Prop where
  append : ∀ row state, ready state →
    (outlet.append row state).1 = accept row ∧ ready (outlet.append row state).2
  undated : ∀ {left right : Row}, left.undated = right.undated →
    (accept left).map Row.undated = (accept right).map Row.undated

/-- The outlet can be opened, and is ready then. -/
def Outlet.Opens (outlet : Outlet ω) (ready : ω → Prop) (state : ω) : Prop :=
  ∃ opened, outlet.start state = .ok opened ∧ ready opened

namespace ExportFormat

/-- The row as it is behind its formatting, if it has the form. -/
def accept (format : ExportFormat) (row : Row) : Except Error Row :=
  (format.form row).1.map fun _ => (format.form row).2

/-- Whether a row has a document does not depend on its date. -/
theorem document_undated (row : Row) :
    row.undated.document.map (fun _ => ()) = row.document.map fun _ => () := by
  simp only [Row.document, Row.undated, Row.dated, RowMeta.document]
  cases documentList Message.document row.messages with
  | error fault => rfl
  | ok messages =>
      cases documentList ToolSpec.document row.tools with
      | error fault => rfl
      | ok tools =>
          cases row.plan.document with
          | error fault => rfl
          | ok plan =>
              cases documentOf .full row.provenance.metadata with
              | error fault => rfl
              | ok metadata => rfl

theorem accept_undated (format : ExportFormat) (row : Row) :
    (format.accept row.undated).map Row.undated = (format.accept row).map Row.undated := by
  cases format with
  | messages =>
      have same := document_undated row
      unfold accept form
      dsimp only
      cases before : row.document with
      | error fault =>
          cases after : row.undated.document with
          | error fault' =>
              simp only [before, after, Except.map, Except.error.injEq] at same
              rw [same]
              rfl
          | ok fields => simp [before, after, Except.map] at same
      | ok fields =>
          cases after : row.undated.document with
          | error fault => simp [before, after, Except.map] at same
          | ok fields => rfl
  | chatTemplate =>
      unfold accept form
      rw [show row.undated.messages = row.messages from rfl]
      rcases chatMessages row.messages with ⟨parts, after⟩
      cases parts <;> rfl

end ExportFormat

/-- An archive in memory is reliable: it takes every row that has the form. -/
theorem Archive.reliable_memory (path : String) (format : ExportFormat) :
    (Archive.outlet path).Reliable
      (fun archive => archive.writer.medium = .memory ∧ archive.writer.format = format)
      format.accept where
  append := by
    rintro row archive ⟨medium, rfl⟩
    have open_ : ¬(archive.writer.medium = .table ∧ !archive.writer.isOpen) := by simp [medium]
    simp only [Archive.outlet, Archive.append, if_neg open_, ExportFormat.accept]
    rcases archive.writer.format.form row with ⟨fields, after⟩
    cases fields with
    | error error => exact ⟨rfl, medium, rfl⟩
    | ok fields =>
        have written : archive.put fields = .ok { archive with
            writer := { archive.writer.count with
              records := archive.writer.records ++ [fields] } } := by
          simp only [Archive.put, medium]
          rfl
        simp only [Except.bind, written]
        exact ⟨rfl, medium, rfl⟩
  undated := by
    intro left right same
    rw [← format.accept_undated left, ← format.accept_undated right, same]

theorem plainly_contentParts (content : Datum) : Plainly (contentParts content) := by
  unfold contentParts
  split
  · exact .ok _
  · exact .ok _
  · exact .ok _
  · exact (plainly_jsonText _ _).bind fun _ _ => .ok _

theorem Message.plainly_chatForm (message : Message) : Plainly message.chatForm := by
  have parts : Plainly message.chatParts := by
    unfold chatParts
    split
    · exact .ok _
    · exact (plainly_contentParts message.content).bind fun _ _ => .ok _
  exact parts.bind fun _ _ => .ok _

theorem plainly_chatMessages (messages : List Message) : Plainly (chatMessages messages).1 := by
  induction messages with
  | nil => exact .ok []
  | cons message messages ih =>
      unfold chatMessages
      cases formed : message.chatForm with
      | error error => exact .error (message.plainly_chatForm error formed)
      | ok first => exact Raises.map ih _

theorem ExportFormat.plainly_form (format : ExportFormat) (row : Row) :
    Plainly (format.form row).1 := by
  cases format with
  | messages => exact .mapError Error.plain_ofNoDocument _
  | chatTemplate => exact Raises.map (plainly_chatMessages row.messages) _

theorem Disk.plainly_write (path : String) (content : FileContent) (disk : Disk) :
    Plainly (disk.write path content) := by
  unfold write
  split
  · exact .error rfl
  · split
    · exact .error rfl
    · split
      · exact .error rfl
      · exact .ok _

namespace Archive

theorem plainly_put (fields : Fields) (archive : Archive) : Plainly (archive.put fields) := by
  have text (style : Json.Style) : Plainly (jsonText style fields.toDatum) := plainly_jsonText _ _
  have column (name : String) :
      Plainly (jsonText Json.Style.line.tolerant ((fields.get? name).getD .null)) :=
    plainly_jsonText _ _
  unfold put
  dsimp only
  split
  · refine (Plainly.bind (text _) fun _ _ => .ok _).bind fun line _ => .bind ?_ fun _ _ => .ok _
    unfold Disk.append
    split <;> exact Disk.plainly_write _ _ _
  · refine (Plainly.mapM column _).bind fun row _ => .bind ?_ fun _ _ => .ok _
    unfold Disk.appendRow
    split <;> exact Disk.plainly_write _ _ _
  · exact .ok _

/-- An archive refuses a row for plain reasons only. -/
theorem plainly_append (row : Row) (archive : Archive) : Plainly (archive.append row).1 := by
  unfold append
  split
  · exact .error rfl
  · have written : Plainly ((archive.writer.format.form row).1.bind fun fields =>
        archive.put fields) :=
      (archive.writer.format.plainly_form row).bind fun fields _ => archive.plainly_put fields
    dsimp only
    split
    · exact .ok _
    next error failed => exact .error (written error failed)

end Archive

end Colloquy
