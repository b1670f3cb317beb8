import Colloquy.Proofs.Json.Nesting
import Colloquy.Proofs.Model.Extraction
import Colloquy.Text.Word

/-!
# Objects in code blocks

A code block opens with a fence and a tag, and closes with another fence. The opening fence is taken
off with the rest of its line if there is any newline at all behind it, and alone otherwise. So an
object is recovered if a newline stands between the tag and the object, or nowhere in the block. If
the first newline comes later, what is left of the object is no document, and neither is any part of
it up to its last brace: the object is lost, and nothing else is taken for it.
-/

set_option autoImplicit false

namespace Colloquy

namespace Text

/-- A letter, or another character of words that is no digit. -/
def IsTagCharacter (character : Char) : Prop :=
  isWordCharacter character = true ∧ character.isDigit = false

instance (character : Char) : Decidable (IsTagCharacter character) :=
  inferInstanceAs (Decidable (_ ∧ _))

theorem not_isWordCharacter_of_isBlank {character : Char} (blank : isBlank character = true) :
    isWordCharacter character = false := by
  have each : ∀ code ∈ blankCodes,
      (wordRanges.any fun range => range.1 ≤ code && code ≤ range.2) = false := by
    decide +kernel
  exact each character.toNat (List.contains_iff_mem.1 blank)

theorem IsTagCharacter.not_blank {character : Char} (letter : IsTagCharacter character) :
    isBlank character = false := by
  cases blank : isBlank character with
  | false => rfl
  | true =>
      have other := not_isWordCharacter_of_isBlank blank
      rw [letter.1] at other
      cases other

theorem IsTagCharacter.ne {character other : Char} (letter : IsTagCharacter character)
    (noWord : isWordCharacter other = false) : character ≠ other := by
  rintro rfl
  rw [letter.1] at noWord
  cases noWord

end Text

namespace Json

theorem readNumeral_of_letter {first : Char} {rest : List Char}
    (letter : Text.IsTagCharacter first) : readNumeral? (first :: rest) = none := by
  have noSign : ¬ (first :: rest).head? = some '-' := fun minus =>
    letter.ne (by decide +kernel) (Option.some.inj minus)
  have noZero : ¬ (first :: rest).head? = some '0' := by
    intro zero
    cases zero
    cases letter.2
  have noDigit : (first :: rest).takeWhile Char.isDigit = [] := by simp [letter.2]
  unfold readNumeral?
  simp only [noSign, decide_false, if_false, List.drop_zero, noZero, noDigit, List.isEmpty_nil,
    if_true]

/-- A document does not start with a letter if there is a brace in it. -/
theorem read_of_letter {first : Char} {rest : List Char} (letter : Text.IsTagCharacter first)
    (brace : '\x7b' ∈ rest) :
    ∃ fault, read (String.ofList (first :: rest)) = .error fault ∧
      fault.problem.isOfSize = false := by
  have start : (Place.mk (first :: rest) 0).skipSpaces.rest = first :: rest := by
    rw [rest_skipSpaces]
    cases space : isSpace first with
    | false => simp [space]
    | true =>
        have blank := letter.not_blank
        simp only [isSpace, Bool.or_eq_true, decide_eq_true_eq] at space
        rcases space with ((rfl | rfl) | rfl) | rfl <;> cases blank
  unfold read
  simp only [String.toList_ofList]
  split
  · exact ⟨_, rfl, rfl⟩
  generalize (Place.mk (first :: rest) 0).skipSpaces = place at start
  rw [readValue]
  split
  next others same =>
    exact absurd (List.cons.inj (start.symm.trans same)).1 (letter.ne (by decide +kernel))
  next others same =>
    exact absurd (List.cons.inj (start.symm.trans same)).1 (letter.ne (by decide +kernel))
  next others same =>
    exact absurd (List.cons.inj (start.symm.trans same)).1 (letter.ne (by decide +kernel))
  next noQuote noBrace noBracket =>
    rw [start]
    cases word : readWord? (first :: rest) with
    | none =>
        rw [readNumeral_of_letter letter]
        exact ⟨_, rfl, rfl⟩
    | some found =>
        obtain ⟨value, length⟩ := found
        have behind : '\x7b' ∈ (place.skip length).rest := by
          have whole : '\x7b' ∈ (first :: rest).take length ++ (first :: rest).drop length := by
            rw [List.take_append_drop]
            exact List.mem_cons_of_mem _ brace
          rcases List.mem_append.1 whole with inside | later
          · exact absurd rfl (plain_readWord word _ inside).1
          · show '\x7b' ∈ place.rest.drop length
            rwa [start]
        have unfinished : (place.skip length).skipSpaces.rest.isEmpty = false := by
          rw [rest_skipSpaces, List.isEmpty_eq_false_iff]
          intro finished
          cases List.dropWhile_eq_nil_iff.1 finished _ behind
        refine ⟨⟨.extraData, (place.skip length).skipSpaces.offset⟩, ?_, rfl⟩
        show (if (place.skip length).skipSpaces.rest.isEmpty = true then _ else _) = _
        rw [unfinished]
        rfl

end Json

namespace Model

/-! ## Taking fences off -/

theorem dropOpening_line {line inner : List Char} (absent : '\n' ∉ line) :
    dropOpening ("```".toList ++ (line ++ '\n' :: inner)) = inner := by
  have opened : "```".toList.isPrefixOf ("```".toList ++ (line ++ '\n' :: inner)) = true :=
    List.isPrefixOf_iff_prefix.2 (List.prefix_append _ _)
  have newline : ("```".toList ++ (line ++ '\n' :: inner)).contains '\n' = true := by simp
  have ticks : ∀ character ∈ "```".toList, decide (character ≠ '\n') = true :=
    List.all_eq_true.1 (by decide)
  have before : ∀ character ∈ "```".toList ++ line, decide (character ≠ '\n') = true := by
    intro character member
    rcases List.mem_append.1 member with tick | inLine
    · exact ticks character tick
    · exact decide_eq_true fun same => absent (same ▸ inLine)
  unfold dropOpening
  rw [if_pos opened, if_pos newline, ← List.append_assoc, List.dropWhile_append_of_pos before]
  rfl

theorem dropOpening_inline {inner : List Char} (absent : '\n' ∉ inner) :
    dropOpening ("```".toList ++ inner) = inner := by
  have opened : "```".toList.isPrefixOf ("```".toList ++ inner) = true :=
    List.isPrefixOf_iff_prefix.2 (List.prefix_append _ _)
  have noNewline : ¬ ("```".toList ++ inner).contains '\n' = true := by simpa using absent
  unfold dropOpening
  rw [if_pos opened, if_neg noNewline]
  rfl

theorem dropClosing_fence (inner : List Char) : dropClosing (inner ++ "```".toList) = inner := by
  have closed : "```".toList.isSuffixOf (inner ++ "```".toList) = true :=
    List.isSuffixOf_iff_suffix.2 (List.suffix_append _ _)
  unfold dropClosing
  rw [if_pos closed, List.length_append]
  exact List.take_left

theorem trimBlanks_fenced (inner : List Char) :
    Text.trimBlanks ("```".toList ++ inner ++ "```".toList) =
      "```".toList ++ inner ++ "```".toList := by
  have last : "```".toList ++ inner ++ "```".toList =
      ("```".toList ++ inner ++ ['\x60', '\x60']) ++ ['\x60'] := by simp
  show Text.trimBack ("```".toList ++ inner ++ "```".toList) = _
  rw [last]
  exact List.rdropWhile_concat_neg Text.isBlank _ '\x60' (by decide)

theorem insideFences_line {line inner : List Char} (absent : '\n' ∉ line) :
    insideFences ("```".toList ++ (line ++ '\n' :: inner) ++ "```".toList) =
      Text.trimBlanks inner := by
  have full : ¬ ("```".toList ++ (line ++ '\n' :: inner) ++ "```".toList).isEmpty = true := by simp
  unfold insideFences
  rw [if_neg full, trimBlanks_fenced, List.append_assoc, List.append_assoc, List.cons_append,
    dropOpening_line absent, dropClosing_fence]

theorem insideFences_inline {inner : List Char} (absent : '\n' ∉ inner) :
    insideFences ("```".toList ++ inner ++ "```".toList) = Text.trimBlanks inner := by
  have full : ¬ ("```".toList ++ inner ++ "```".toList).isEmpty = true := by simp
  have absent' : '\n' ∉ inner ++ "```".toList := by simpa using absent
  unfold insideFences
  rw [if_neg full, trimBlanks_fenced, List.append_assoc, dropOpening_inline absent',
    dropClosing_fence]

/-! ## Recovered objects -/

theorem held_of_object {text : String} {value : Datum} (object : Json.ObjectText text value) :
    held text.toList = .ok value := by
  unfold held
  rw [String.ofList_toList, object.reads]

variable {tag front text back : List Char}

/-- A newline behind the tag ends the line of the opening fence. -/
theorem insideFences_of_newline (letters : ∀ character ∈ tag, Text.IsTagCharacter character)
    (blankFront : ∀ character ∈ front, Text.isBlank character = true)
    (blankBack : ∀ character ∈ back, Text.isBlank character = true)
    (braced : Json.Braced text) (newline : '\n' ∈ front) :
    insideFences ("```".toList ++ (tag ++ front ++ text ++ back) ++ "```".toList) = text := by
  obtain ⟨before, after, rfl, first⟩ := List.eq_append_cons_of_mem newline
  have line : '\n' ∉ tag ++ before := by
    intro member
    rcases List.mem_append.1 member with letter | blank
    · cases (letters _ letter).not_blank
    · exact first blank
  have parts : tag ++ (before ++ '\n' :: after) ++ text ++ back =
      (tag ++ before) ++ '\n' :: (after ++ text ++ back) := by simp
  have blankAfter : Text.trimFront after = [] := by
    refine List.dropWhile_eq_nil_iff.2 fun character member => blankFront character ?_
    exact List.mem_append_right _ (List.mem_cons_of_mem _ member)
  rw [parts, insideFences_line line, braced.trimBlanks_around, blankAfter,
    Text.trimBack_eq_nil blankBack]
  simp

/-- Without any newline only the fences are taken off. -/
theorem held_inline {value : Datum} (letters : ∀ character ∈ tag, Text.IsTagCharacter character)
    (blankFront : ∀ character ∈ front, Text.isBlank character = true)
    (blankBack : ∀ character ∈ back, Text.isBlank character = true)
    (object : Json.ObjectText (String.ofList text) value)
    (absent : '\n' ∉ tag ++ front ++ text ++ back) :
    held (insideFences ("```".toList ++ (tag ++ front ++ text ++ back) ++ "```".toList)) =
      .ok value := by
  have braced : Json.Braced text := by simpa using object.braced
  rw [insideFences_inline absent, braced.trimBlanks_around, Text.trimBack_eq_nil blankBack,
    List.append_nil]
  cases tag with
  | nil =>
      rw [List.nil_append, show Text.trimFront front = [] from List.dropWhile_eq_nil_iff.2 blankFront]
      simpa using held_of_object object
  | cons first rest =>
      have letter := letters first List.mem_cons_self
      have solid : Text.trimFront (first :: rest ++ front) = first :: (rest ++ front) := by
        show (first :: (rest ++ front)).dropWhile Text.isBlank = _
        rw [List.dropWhile_cons_of_neg (by simp [letter.not_blank])]
      have unopened : '\x7b' ∉ first :: (rest ++ front) := by
        intro member
        rcases List.mem_append.1 (show _ ∈ (first :: rest) ++ front from member) with inTag | blank
        · exact (letters _ inTag).ne (by decide +kernel) rfl
        · cases blankFront _ blank
      have brace : '\x7b' ∈ rest ++ front ++ text := by
        obtain ⟨middle, rfl⟩ := braced
        simp
      have embeds : Embeds (first :: (rest ++ front) ++ text) text (first :: (rest ++ front)) [] :=
        ⟨by simp, braced, unopened, List.not_mem_nil⟩
      obtain ⟨fault, unread, small⟩ := Json.read_of_letter letter brace
      rw [solid]
      refine embeds.held object.reads (fun whole read => ?_) ?_
      · cases unread.symm.trans read
      · rintro ⟨fault', failed, large⟩
        cases unread.symm.trans failed
        rw [small] at large
        cases large

/-- What is left of an object behind a newline in it holds no value. -/
theorem held_behind_newline {before after : List Char} {value whole : Datum}
    (object : Json.ObjectText (String.ofList ('\x7b' :: (before ++ '\n' :: after ++ ['\x7d']))) value) :
    held (Text.trimFront after ++ ['\x7d']) ≠ .ok whole := by
  intro returned
  have level : Json.Level (before ++ '\n' :: after) :=
    Json.level_of_read_braces object.reads (by simp)
  have blanks : ∀ character ∈ after.takeWhile Text.isBlank, Json.IsPlain character := by
    intro character member
    have blank := List.mem_takeWhile_imp member
    refine ⟨?_, ?_, ?_, ?_⟩ <;>
    · rintro rfl
      cases blank
  have parts : after = after.takeWhile Text.isBlank ++ Text.trimFront after :=
    List.takeWhile_append_dropWhile.symm
  generalize after.takeWhile Text.isBlank = blank at blanks parts
  generalize Text.trimFront after = rest at parts returned
  subst parts
  have outside := Json.outside_of_newline level blanks
  rcases of_held_eq_ok returned with read | ⟨front, inner, back, embeds, read⟩
  · have document := Json.level_of_read read
    rw [String.toList_ofList] at document
    exact Json.not_level_suffix level (by simp) (by simp) (.inl outside) document
  · have document := Json.level_of_read read
    rw [String.toList_ofList] at document
    have ends : back = [] := by
      rcases List.eq_nil_or_concat back with none | ⟨others, last, rfl⟩
      · exact none
      · have lasts := congrArg List.getLast? embeds.whole
        simp only [List.concat_eq_append, ← List.append_assoc, List.getLast?_concat] at lasts
        cases lasts
        exact absurd (by simp) embeds.last
    have whole : rest ++ ['\x7d'] = front ++ inner := by
      rw [embeds.whole, ends, List.append_nil]
    obtain ⟨middle, rfl⟩ := embeds.braced
    have opening : before ++ '\n' :: (blank ++ rest) ++ ['\x7d'] =
        before ++ '\n' :: (blank ++ front) ++ '\x7b' :: (middle ++ ['\x7d']) := by
      simpa using whole
    exact Json.not_level_suffix level opening (by simp) (.inr rfl) document

/-- A first newline behind the beginning of the object leaves nothing to be recovered. -/
theorem held_of_late_newline {value whole : Datum}
    (letters : ∀ character ∈ tag, Text.IsTagCharacter character)
    (blankBack : ∀ character ∈ back, Text.isBlank character = true)
    (object : Json.ObjectText (String.ofList text) value) (absent : '\n' ∉ front)
    (newline : '\n' ∈ text ++ back) :
    held (insideFences ("```".toList ++ (tag ++ front ++ text ++ back) ++ "```".toList)) ≠
      .ok whole := by
  have untagged : '\n' ∉ tag ++ front := by
    intro member
    rcases List.mem_append.1 member with letter | blank
    · cases (letters _ letter).not_blank
    · exact absent blank
  by_cases within : '\n' ∈ text
  · obtain ⟨middle, rfl⟩ : Json.Braced text := by simpa using object.braced
    have among : '\n' ∈ middle := by simpa using within
    obtain ⟨before, after, rfl, first⟩ := List.eq_append_cons_of_mem among
    have line : '\n' ∉ tag ++ front ++ '\x7b' :: before := by
      intro member
      rcases List.mem_append.1 member with early | late
      · exact untagged early
      · exact first (by simpa using late)
    have parts : tag ++ front ++ '\x7b' :: (before ++ '\n' :: after ++ ['\x7d']) ++ back =
        (tag ++ front ++ '\x7b' :: before) ++ '\n' :: (after ++ ('\x7d' :: back)) := by simp
    have solid : Text.trimBack (Text.trimFront after ++ ['\x7d']) = Text.trimFront after ++ ['\x7d'] :=
      List.rdropWhile_concat_neg Text.isBlank _ '\x7d' (by decide)
    have ending : Text.trimFront after ++ '\x7d' :: back =
        (Text.trimFront after ++ ['\x7d']) ++ back := by simp
    have barred : Text.trimFront ('\x7d' :: back) = '\x7d' :: back := rfl
    rw [parts, insideFences_line line, Text.trimBlanks, Text.trimFront_append_of_solid after barred,
      ending, Text.trimBack_append_of_solid back solid, Text.trimBack_eq_nil blankBack,
      List.append_nil]
    exact held_behind_newline object
  · obtain ⟨before, after, rfl, first⟩ :=
      List.eq_append_cons_of_mem ((List.mem_append.1 newline).resolve_left within)
    have line : '\n' ∉ tag ++ front ++ text ++ before := by
      simp only [List.mem_append, not_or] at untagged ⊢
      exact ⟨⟨untagged, within⟩, first⟩
    have parts : tag ++ front ++ text ++ (before ++ '\n' :: after) =
        (tag ++ front ++ text ++ before) ++ '\n' :: after := by simp
    have blankAfter : Text.trimFront after = [] := by
      refine List.dropWhile_eq_nil_iff.2 fun character member => blankBack character ?_
      exact List.mem_append_right _ (List.mem_cons_of_mem _ member)
    rw [parts, insideFences_line line, Text.trimBlanks, blankAfter]
    intro returned
    cases returned

/-- A code block with a tag, and an object with blanks around it. -/
def codeBlock (tag front text back : String) : String :=
  "```" ++ (tag ++ front ++ text ++ back) ++ "```"

/-- An object is recovered from a code block if and only if a newline stands between the tag and the
object, or none stands behind the object's beginning. Nothing else is ever recovered. -/
theorem extract_codeBlock {tag front text back : String} {value : Datum}
    (letters : ∀ character ∈ tag.toList, Text.IsTagCharacter character)
    (blankFront : ∀ character ∈ front.toList, Text.isBlank character = true)
    (blankBack : ∀ character ∈ back.toList, Text.isBlank character = true)
    (object : Json.ObjectText text value) :
    ((extract true (codeBlock tag front text back)).1 = .ok value ↔
      '\n' ∈ front.toList ∨ '\n' ∉ text.toList ++ back.toList) ∧
    ∀ other, (extract true (codeBlock tag front text back)).1 = .ok other → other = value := by
  have block : (extract true (codeBlock tag front text back)).1 = held (insideFences
      ("```".toList ++ (tag.toList ++ front.toList ++ text.toList ++ back.toList) ++
        "```".toList)) := by
    rw [extract_value, if_pos rfl]
    simp only [codeBlock, String.toList_append]
  have object' : Json.ObjectText (String.ofList text.toList) value := by
    rwa [String.ofList_toList]
  rw [block]
  by_cases newline : '\n' ∈ front.toList
  · have recovered := held_of_object object
    rw [insideFences_of_newline letters blankFront blankBack object.braced newline]
    refine ⟨⟨fun _ => .inl newline, fun _ => recovered⟩, fun other returned => ?_⟩
    cases recovered.symm.trans returned
    rfl
  · by_cases late : '\n' ∈ text.toList ++ back.toList
    · have lost : ∀ whole, held (insideFences ("```".toList ++ (tag.toList ++ front.toList ++
          text.toList ++ back.toList) ++ "```".toList)) ≠ .ok whole :=
        fun _ => held_of_late_newline letters blankBack object' newline late
      refine ⟨⟨fun returned => absurd returned (lost value), fun early => ?_⟩,
        fun other returned => absurd returned (lost other)⟩
      exact absurd late (early.resolve_left newline)
    · have absent : '\n' ∉ tag.toList ++ front.toList ++ text.toList ++ back.toList := by
        rw [List.append_assoc, List.append_assoc, List.mem_append, List.mem_append]
        rintro (letter | blank | behind)
        · cases (letters _ letter).not_blank
        · exact newline blank
        · exact late behind
      have recovered := held_inline letters blankFront blankBack object' absent
      refine ⟨⟨fun _ => .inr late, fun _ => recovered⟩, fun other returned => ?_⟩
      cases recovered.symm.trans returned
      rfl

theorem extract_codeBlock_tagged :
    (∀ character ∈ "json".toList, Text.IsTagCharacter character) ∧
      Json.ObjectText "\x7b\"a\": 1\x7d" (.mapping [(.text "a", .int 1)]) ∧
      ((extract true (codeBlock "json" "" "\x7b\"a\": 1\x7d" "\n")).1 =
        .ok (.mapping [(.text "a", .int 1)]) ↔
          '\n' ∈ "".toList ∨ '\n' ∉ "\x7b\"a\": 1\x7d".toList ++ "\n".toList) ∧
      (extract true (codeBlock "json" "\n" "\x7b\"a\": 1\x7d" "\n")).1 =
        .ok (.mapping [(.text "a", .int 1)]) := by
  have each : "json".toList.all (fun character => decide (Text.IsTagCharacter character)) = true := by
    decide +kernel
  have letters : ∀ character ∈ "json".toList, Text.IsTagCharacter character :=
    fun character member => of_decide_eq_true (List.all_eq_true.1 each character member)
  have none : ∀ character ∈ "".toList, Text.isBlank character = true :=
    List.all_eq_true.1 (by decide)
  have newline : ∀ character ∈ "\n".toList, Text.isBlank character = true :=
    List.all_eq_true.1 (by decide)
  have object : Json.ObjectText "\x7b\"a\": 1\x7d" (.mapping [(.text "a", .int 1)]) :=
    ⟨by rfl, ⟨"\"a\": 1".toList, by rfl⟩⟩
  exact ⟨letters, object, (extract_codeBlock letters none newline object).1,
    (extract_codeBlock letters newline newline object).1.2 (.inl (by decide))⟩

/-- The only newline of the block stands in front of the closing fence. -/
theorem extract_codeBlock_lateNewline :
    (extract true (codeBlock "" "" "\x7b\"a\": 1\x7d" "\n")).1 = .error (.reply .noObject) := by
  rfl

end Model

end Colloquy
