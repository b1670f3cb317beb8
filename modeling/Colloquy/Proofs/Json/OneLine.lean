import Colloquy.Error.Conversion
import Colloquy.Proofs.Results
import Mathlib.Data.List.Basic

/-!
# Documents on one line

A JSON document that is not indented holds no newline, whatever it is a document of: the newlines of
texts and of keys are escaped, and numbers are written in digits.
-/

set_option autoImplicit false

namespace Colloquy

/-- The text holds no newline. -/
def OneLine (text : String) : Prop := '\n' ∉ text.toList

instance (text : String) : Decidable (OneLine text) := inferInstanceAs (Decidable (¬_))

namespace OneLine

theorem append {first second : String} (former : OneLine first) (latter : OneLine second) :
    OneLine (first ++ second) := by
  unfold OneLine at *
  rw [String.toList_append, List.mem_append]
  exact fun member => member.elim former latter

theorem ofList {characters : List Char} (absent : '\n' ∉ characters) :
    OneLine (String.ofList characters) := by
  unfold OneLine
  rwa [String.toList_ofList]

theorem join {texts : List String} (each : ∀ text ∈ texts, OneLine text) :
    OneLine (String.join texts) := by
  unfold OneLine at *
  rw [String.toList_join, List.mem_flatMap]
  rintro ⟨text, member, inside⟩
  exact each text member inside

theorem intercalate {separator : String} (between : OneLine separator) {texts : List String}
    (each : ∀ text ∈ texts, OneLine text) : OneLine (separator.intercalate texts) := by
  unfold OneLine at *
  rw [String.toList_intercalate]
  induction texts with
  | nil => exact List.not_mem_nil
  | cons text texts ih =>
      have here := each text List.mem_cons_self
      have later := ih fun other member => each other (List.mem_cons_of_mem _ member)
      cases texts with
      | nil => simpa using here
      | cons next rest =>
          simp only [List.map_cons, List.intercalate_cons_cons] at later ⊢
          simp only [List.mem_append, not_or]
          exact ⟨⟨here, between⟩, later⟩

theorem replicate {character : Char} (other : character ≠ '\n') (count : Nat) :
    OneLine (String.ofList (List.replicate count character)) :=
  ofList fun member => other (List.eq_of_mem_replicate member).symm

/-- A part of the characters of a text on one line. -/
theorem part {text : String} {characters : List Char} (whole : OneLine text)
    (among : characters ⊆ text.toList) : OneLine (String.ofList characters) :=
  ofList fun member => whole (among member)

theorem mem_toDigits {base number : Nat} (proper : 1 < base) :
    '\n' ∉ Nat.toDigits base number := by
  induction number using Nat.strongRecOn with
  | ind number ih =>
      rw [Nat.toDigits_eq_if proper]
      split
      · simp
      next large =>
        have smaller : number / base < number := Nat.div_lt_self (by omega) proper
        simp only [List.mem_append, List.mem_singleton, not_or]
        exact ⟨ih _ smaller, (Nat.digitChar_ne '\n' (by decide)).symm⟩

theorem natural (number : Nat) : OneLine (toString number) := by
  unfold OneLine
  rw [Nat.toString_eq_ofList_toDigits, String.toList_ofList]
  exact mem_toDigits (by decide)

theorem integer (number : Int) : OneLine (toString number) := by
  cases number with
  | ofNat number => exact natural number
  | negSucc number => exact append (by decide) (natural (number + 1))

theorem hexadecimal (width number : Nat) : OneLine (Text.hexadecimal width number) := by
  refine ofList ?_
  simp only [List.mem_append, not_or]
  exact ⟨fun member => absurd (List.eq_of_mem_replicate member) (by decide),
    mem_toDigits (by decide)⟩

theorem character {one : Char} (other : one ≠ '\n') : OneLine one.toString := by
  unfold OneLine
  simpa using other.symm

theorem ite {condition : Prop} [Decidable condition] {first second : String}
    (former : condition → OneLine first) (latter : ¬condition → OneLine second) :
    OneLine (if condition then first else second) := by
  split
  next holds => exact former holds
  next fails => exact latter fails

end OneLine

namespace Number

theorem oneLine_padZeros (width : Nat) {numeral : String} (digits : OneLine numeral) :
    OneLine (padZeros width numeral) :=
  .append (.replicate (by decide) _) digits

theorem Decimal.oneLine_text (layout : Layout) (decimal : Decimal) :
    OneLine (decimal.text layout) := by
  have digits : OneLine (toString decimal.digits) := .natural _
  have taken (count : Nat) : OneLine (String.ofList ((toString decimal.digits).toList.take count)) :=
    digits.part (List.take_subset _ _)
  have dropped (count : Nat) :
      OneLine (String.ofList ((toString decimal.digits).toList.drop count)) :=
    digits.part (List.drop_subset _ _)
  have zeros (count : Nat) : OneLine (String.ofList (List.replicate count '0')) :=
    .replicate (by decide) count
  unfold text
  dsimp only
  split
  · refine .append (.append ?_ ?_) (oneLine_padZeros _ (.natural _))
    · split
      · exact digits
      · exact .append (.append (taken 1) (by decide)) (dropped 1)
    · split <;> decide
  · split
    · exact .append (.append (by decide) (zeros _)) digits
    · split
      · exact .append (.append digits (zeros _)) (by decide)
      · exact .append (.append (taken _) (by decide)) (dropped _)

theorem oneLine_shortestText {layout : Layout} (unknown : OneLine layout.notANumber)
    (infinite : OneLine layout.infinity) (value : Float) : OneLine (shortestText layout value) := by
  unfold shortestText
  split
  · exact unknown
  · exact infinite
  · split
    · decide
    · exact .append (by decide) infinite
  next negative significand exponent _ =>
    have magnitude : OneLine (if significand = 0 then "0.0"
        else (shortest significand exponent).text layout) := by
      split
      · decide
      · exact Decimal.oneLine_text layout _
    dsimp only
    split
    · exact .append (by decide) magnitude
    · exact magnitude

end Number

namespace Json

theorem oneLine_escapeUnit (unit : Nat) : OneLine (escapeUnit unit) :=
  .append (by decide) (.hexadecimal 4 unit)

theorem oneLine_writeCharacter (ascii : Bool) (character : Char) :
    OneLine (writeCharacter ascii character) := by
  unfold writeCharacter
  refine OneLine.ite (fun _ => by decide) fun _ => ?_
  refine OneLine.ite (fun _ => by decide) fun _ => ?_
  refine OneLine.ite (fun _ => by decide) fun other => ?_
  refine OneLine.ite (fun _ => by decide) fun _ => ?_
  refine OneLine.ite (fun _ => by decide) fun _ => ?_
  refine OneLine.ite (fun _ => by decide) fun _ => ?_
  refine OneLine.ite (fun _ => by decide) fun _ => ?_
  refine OneLine.ite (fun _ => oneLine_escapeUnit _) fun _ => ?_
  refine OneLine.ite (fun _ => ?_) fun _ => .character other
  refine OneLine.ite (fun _ => oneLine_escapeUnit _) fun _ => ?_
  exact .append (oneLine_escapeUnit _) (oneLine_escapeUnit _)

theorem oneLine_writeText (ascii : Bool) (text : String) : OneLine (writeText ascii text) := by
  refine .append (.append (by decide) (.join fun piece member => ?_)) (by decide)
  obtain ⟨character, _, rfl⟩ := List.mem_map.1 member
  exact oneLine_writeCharacter ascii character

/-- A style that writes everything on one line. -/
structure Style.IsFlat (style : Style) : Prop where
  indent : style.indent = none
  items : OneLine style.itemSeparator
  keys : OneLine style.keySeparator
  unknown : OneLine style.numbers.notANumber
  infinite : OneLine style.numbers.infinity

variable {style : Style}

theorem Style.IsFlat.enclose (flat : style.IsFlat) {depth : Nat} {opening closing : String}
    (opens : OneLine opening) (closes : OneLine closing) {parts : List String}
    (each : ∀ part ∈ parts, OneLine part) :
    OneLine (enclose style depth opening closing parts) := by
  unfold Json.enclose
  rw [flat.indent]
  split
  · exact .append opens closes
  · exact .append (.append opens (.intercalate flat.items each)) closes
  next indented _ => cases indented

theorem Style.IsFlat.arrange (flat : style.IsFlat) {members : List Member}
    (each : ∀ member ∈ members, OneLine member.value) :
    ∀ part ∈ arrange style members, OneLine part := by
  intro part inside
  obtain ⟨member, listed, rfl⟩ := List.mem_map.1 inside
  have among : member ∈ members := by
    split at listed
    · exact List.mem_mergeSort.1 listed
    · exact listed
  exact .append (.append (oneLine_writeText _ _) flat.keys) (each member among)

theorem oneLine_writeForeign {value : Datum} {text : String}
    (written : writeForeign style value = .ok text) : OneLine text := by
  unfold writeForeign at written
  split at written
  · cases written
    exact oneLine_writeText _ _
  · cases written

mutual

theorem Style.IsFlat.oneLine_writeAt (flat : style.IsFlat) (depth : Nat) (value : Datum)
    {text : String} (written : writeAt style depth value = .ok text) : OneLine text := by
  match value with
  | .null =>
      cases written
      decide
  | .bool value =>
      cases written
      exact .ite (fun _ => by decide) fun _ => by decide
  | .int value =>
      cases written
      exact .integer value
  | .float value =>
      cases written
      exact Number.oneLine_shortestText flat.unknown flat.infinite value
  | .text value =>
      cases written
      exact oneLine_writeText _ _
  | .list items =>
      obtain ⟨parts, inside, same⟩ := bind_eq_ok.1 written
      cases same
      exact flat.enclose (by decide) (by decide) (flat.oneLine_writeItems (depth + 1) items inside)
  | .tuple items =>
      obtain ⟨parts, inside, same⟩ := bind_eq_ok.1 written
      cases same
      exact flat.enclose (by decide) (by decide) (flat.oneLine_writeItems (depth + 1) items inside)
  | .mapping entries =>
      simp only [writeAt] at written
      split at written
      · cases written
      · obtain ⟨members, inside, same⟩ := bind_eq_ok.1 written
        cases same
        exact flat.enclose (by decide) (by decide)
          (flat.arrange (flat.oneLine_writeEntries (depth + 1) entries inside))
  | .bytes value => exact oneLine_writeForeign written
  | .decimal value => exact oneLine_writeForeign written
  | .date value => exact oneLine_writeForeign written
  | .object kind fields => exact oneLine_writeForeign written

theorem Style.IsFlat.oneLine_writeItems (flat : style.IsFlat) (depth : Nat) (items : List Datum)
    {parts : List String} (written : writeItems style depth items = .ok parts) :
    ∀ part ∈ parts, OneLine part := by
  match items with
  | [] =>
      cases written
      exact fun _ member => nomatch member
  | item :: items =>
      obtain ⟨first, here, written⟩ := bind_eq_ok.1 written
      obtain ⟨rest, later, same⟩ := bind_eq_ok.1 written
      cases same
      exact List.forall_mem_cons.2
        ⟨flat.oneLine_writeAt depth item here, flat.oneLine_writeItems depth items later⟩

theorem Style.IsFlat.oneLine_writeEntries (flat : style.IsFlat) (depth : Nat)
    (entries : List (Datum × Datum)) {members : List Member}
    (written : writeEntries style depth entries = .ok members) :
    ∀ member ∈ members, OneLine member.value := by
  match entries with
  | [] =>
      cases written
      exact fun _ member => nomatch member
  | (key, value) :: entries =>
      simp only [writeEntries] at written
      split at written
      · cases written
      · obtain ⟨first, here, written⟩ := bind_eq_ok.1 written
        obtain ⟨rest, later, same⟩ := bind_eq_ok.1 written
        cases same
        exact List.forall_mem_cons.2
          ⟨flat.oneLine_writeAt depth value here, flat.oneLine_writeEntries depth entries later⟩

end

theorem isFlat_line : Style.line.tolerant.IsFlat :=
  ⟨rfl, by decide, by decide, by decide, by decide⟩

end Json

/-- The text of data in a flat style is one line. -/
theorem oneLine_jsonText {style : Json.Style} (flat : style.IsFlat) {value : Datum} {text : String}
    (written : jsonText style value = .ok text) : OneLine text :=
  flat.oneLine_writeAt 0 value (mapError_eq_ok.1 written)

end Colloquy
