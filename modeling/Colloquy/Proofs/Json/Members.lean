import Colloquy.Proofs.Json.OneLine

/-!
# Objects by their members

In a style that writes everything on one line, the text of an object is made of the texts of its
members, each of which is the same inside the object as on its own.
-/

set_option autoImplicit false

namespace Colloquy

namespace Json

/-- The text of an object on one line, from the names and the texts of its members. -/
def objectText (members : List (String × String)) : String :=
  "\x7b" ++ ", ".intercalate (members.map fun member =>
    writeText false member.1 ++ ": " ++ member.2) ++ "\x7d"

variable {style : Style}

theorem enclose_of_flat (flat : style.indent = none) (depth : Nat) (opening closing : String)
    (parts : List String) :
    enclose style depth opening closing parts =
      opening ++ style.itemSeparator.intercalate parts ++ closing := by
  unfold enclose
  rw [flat]
  cases parts with
  | nil => exact congrArg (· ++ closing) String.append_empty.symm
  | cons part parts => rfl

mutual

/-- Without indentation a value has the same text at every depth. -/
theorem writeAt_of_flat (flat : style.indent = none) (depth other : Nat) (value : Datum) :
    writeAt style depth value = writeAt style other value := by
  match value with
  | .null | .bool _ | .int _ | .float _ | .text _ => rfl
  | .bytes _ | .decimal _ | .date _ | .object _ _ => rfl
  | .list items | .tuple items =>
      simp only [writeAt, writeItems_of_flat flat (depth + 1) (other + 1) items,
        enclose_of_flat flat]
  | .mapping entries =>
      simp only [writeAt, writeEntries_of_flat flat (depth + 1) (other + 1) entries,
        enclose_of_flat flat]

theorem writeItems_of_flat (flat : style.indent = none) (depth other : Nat) (items : List Datum) :
    writeItems style depth items = writeItems style other items := by
  match items with
  | [] => rfl
  | item :: items =>
      simp only [writeItems, writeAt_of_flat flat depth other item,
        writeItems_of_flat flat depth other items]

theorem writeEntries_of_flat (flat : style.indent = none) (depth other : Nat)
    (entries : List (Datum × Datum)) :
    writeEntries style depth entries = writeEntries style other entries := by
  match entries with
  | [] => rfl
  | (key, value) :: entries =>
      simp only [writeEntries, writeAt_of_flat flat depth other value,
        writeEntries_of_flat flat depth other entries]

end

/-- The members of an object whose keys are texts, each value written on its own. -/
theorem writeEntries_toEntries (flat : style.indent = none) (depth : Nat) (fields : Fields) :
    writeEntries style depth fields.toEntries =
      (fields.mapM fun field => write? style field.2).map
        (fields.zipWith fun field text => Member.mk (.text field.1) field.1 text) := by
  induction fields with
  | nil => rfl
  | cons field fields ih =>
      change (do
        let first ← writeAt style depth field.2
        return Member.mk (.text field.1) field.1 first ::
          (← writeEntries style depth (Fields.toEntries fields))) = _
      rw [List.mapM_cons, ih, write?, writeAt_of_flat flat 0 depth]
      cases writeAt style depth field.2 with
      | error cause => rfl
      | ok text => cases fields.mapM fun field => write? style field.2 <;> rfl

theorem arrange_line (fields : Fields) (texts : List String) :
    arrange Style.line.tolerant
        (fields.zipWith (fun field text => Member.mk (.text field.1) field.1 text) texts) =
      ((fields.map Prod.fst).zip texts).map fun member =>
        writeText false member.1 ++ ": " ++ member.2 := by
  change List.map _ (List.zipWith _ _ _) = _
  rw [List.map_zipWith, List.zip_map_left, List.map_map, List.zip_eq_zipWith, List.map_zipWith]
  rfl

end Json

/-- The text of an object is the text of its members, in order; it has none if some value has none. -/
theorem jsonText_toDatum (fields : Fields) :
    jsonText Json.Style.line.tolerant fields.toDatum =
      (fields.mapM fun field => jsonText Json.Style.line.tolerant field.2).map fun texts =>
        Json.objectText ((fields.map Prod.fst).zip texts) := by
  have written : Json.write? Json.Style.line.tolerant fields.toDatum =
      (fields.mapM fun field => Json.write? Json.Style.line.tolerant field.2).map fun texts =>
        Json.objectText ((fields.map Prod.fst).zip texts) := by
    change (do
      return Json.enclose Json.Style.line.tolerant 0 "\x7b" "\x7d"
        (Json.arrange Json.Style.line.tolerant
          (← Json.writeEntries Json.Style.line.tolerant 1 fields.toEntries))) = _
    rw [Json.writeEntries_toEntries rfl]
    cases fields.mapM fun field => Json.write? Json.Style.line.tolerant field.2 with
    | error cause => rfl
    | ok texts =>
        change Except.ok (Json.enclose _ 0 _ _ (Json.arrange _ _)) = _
        rw [Json.enclose_of_flat rfl, Json.arrange_line]
        rfl
  unfold jsonText
  rw [written, ← mapError_mapM]
  cases fields.mapM fun field => Json.write? Json.Style.line.tolerant field.2 <;> rfl

end Colloquy
