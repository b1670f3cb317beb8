import Colloquy.Model.ReplyText
import Colloquy.Proofs.Results
import Mathlib.Data.List.DropRight

/-!
# Objects inside texts

The value that a text holds is that of the text itself, or that of its part from the first opening
brace to the last closing one. The part is told by what surrounds it: no opening brace in front of
it, and no closing brace behind it. So an object is found again inside prose without braces, unless
prose and object together read as something else.
-/

set_option autoImplicit false

namespace Colloquy

/-- Characters from an opening brace to a closing one. -/
def Json.Braced (characters : List Char) : Prop :=
  ∃ middle, characters = '\x7b' :: (middle ++ ['\x7d'])

/-- A text that is too large to be read: whether it is JSON is not found out. -/
def Json.TooLarge (text : String) : Prop :=
  ∃ fault, Json.read text = .error fault ∧ fault.problem.isOfSize = true

/-- A text from an opening brace to a closing one that reads as a value. -/
structure Json.ObjectText (text : String) (value : Datum) : Prop where
  reads : Json.read text = .ok value
  braced : Json.Braced text.toList

namespace Text

/-! ## Blanks around what is not blank -/

theorem trimFront_append_of_solid (front : List Char) {rest : List Char}
    (solid : trimFront rest = rest) : trimFront (front ++ rest) = trimFront front ++ rest := by
  unfold trimFront at solid ⊢
  rw [List.dropWhile_append]
  split
  next empty => rw [solid, List.isEmpty_iff.1 empty, List.nil_append]
  · rfl

theorem trimBack_append_of_solid (back : List Char) {rest : List Char}
    (solid : trimBack rest = rest) : trimBack (rest ++ back) = rest ++ trimBack back := by
  have turned : trimFront rest.reverse = rest.reverse := by
    rw [← List.reverse_inj, List.reverse_reverse]
    exact solid
  have trimmed := trimFront_append_of_solid back.reverse turned
  unfold trimBack
  rw [List.reverse_append, show (back.reverse ++ rest.reverse).dropWhile isBlank =
    back.reverse.dropWhile isBlank ++ rest.reverse from trimmed, List.reverse_append,
    List.reverse_reverse]

theorem trimBack_eq_nil {blanks : List Char}
    (blank : ∀ character ∈ blanks, isBlank character = true) : trimBack blanks = [] :=
  List.rdropWhile_eq_nil_iff.2 blank

end Text

namespace Json.Braced

variable {characters : List Char}

theorem trimFront (braced : Braced characters) : Text.trimFront characters = characters := by
  obtain ⟨middle, rfl⟩ := braced
  rfl

theorem trimBack (braced : Braced characters) : Text.trimBack characters = characters := by
  obtain ⟨middle, rfl⟩ := braced
  simp [Text.trimBack, show Text.isBlank '\x7d' = false by decide]

/-- Only the blanks at the very ends of what surrounds an object are trimmed. -/
theorem trimBlanks_around (braced : Braced characters) (front back : List Char) :
    Text.trimBlanks (front ++ characters ++ back) =
      Text.trimFront front ++ characters ++ Text.trimBack back := by
  have solid : Text.trimFront (characters ++ back) = characters ++ back := by
    obtain ⟨middle, rfl⟩ := braced
    rfl
  have ending : Text.trimBack (Text.trimFront front ++ characters) =
      Text.trimFront front ++ characters := by
    obtain ⟨middle, rfl⟩ := braced
    simp [Text.trimBack, show Text.isBlank '\x7d' = false by decide]
  unfold Text.trimBlanks
  rw [List.append_assoc, Text.trimFront_append_of_solid front solid, ← List.append_assoc,
    Text.trimBack_append_of_solid back ending]

end Json.Braced

namespace Model

/-! ## Fences -/

theorem dropOpening_of_absent {characters : List Char}
    (absent : ¬ "```".toList <+: characters) : dropOpening characters = characters :=
  if_neg (by rwa [List.isPrefixOf_iff_prefix])

theorem dropClosing_of_absent {characters : List Char}
    (absent : ¬ "```".toList <:+ characters) : dropClosing characters = characters :=
  if_neg (by rwa [List.isSuffixOf_iff_suffix])

theorem not_fence_prefix {characters front : List Char} (braced : Json.Braced characters)
    (absent : '\x60' ∉ front) (rest : List Char) :
    ¬ "```".toList <+: Text.trimFront front ++ characters ++ rest := by
  rintro ⟨behind, same⟩
  obtain ⟨middle, rfl⟩ := braced
  cases trimmed : Text.trimFront front with
  | nil => simp [trimmed] at same
  | cons first others =>
      have member : first ∈ Text.trimFront front := by simp [trimmed]
      have tick : first = '\x60' := by
        rw [trimmed] at same
        exact (List.cons.inj same).1.symm
      subst tick
      exact absent (List.dropWhile_subset _ member)

theorem not_fence_suffix {characters back : List Char} (braced : Json.Braced characters)
    (absent : '\x60' ∉ back) (rest : List Char) :
    ¬ "```".toList <:+ rest ++ characters ++ Text.trimBack back := by
  rintro ⟨before, same⟩
  obtain ⟨middle, rfl⟩ := braced
  rcases List.eq_nil_or_concat (Text.trimBack back) with trimmed | ⟨others, last, trimmed⟩
  · have lasts := congrArg List.getLast? same
    simp [trimmed, List.getLast?_cons] at lasts
  · have member : last ∈ Text.trimBack back := by simp [trimmed]
    have tick : last = '\x60' := by
      have lasts := congrArg List.getLast? same
      simpa [trimmed, List.getLast?_cons] using lasts.symm
    subst tick
    exact absent ((List.rdropWhile_prefix Text.isBlank back).subset member)

/-- An object that no fences surround loses only the blanks around all of it. -/
theorem insideFences_around {characters front back : List Char}
    (braced : Json.Braced characters) (opening : '\x60' ∉ front) (closing : '\x60' ∉ back) :
    insideFences (front ++ characters ++ back) =
      Text.trimFront front ++ characters ++ Text.trimBack back := by
  have unopened := not_fence_prefix braced opening (Text.trimBack back)
  have unclosed := not_fence_suffix braced closing (Text.trimFront front)
  have full : (front ++ characters ++ back).isEmpty = false := by
    obtain ⟨middle, rfl⟩ := braced
    simp
  unfold insideFences
  rw [full, braced.trimBlanks_around, dropOpening_of_absent unopened,
    dropClosing_of_absent unclosed, braced.trimBlanks_around]
  unfold Text.trimFront Text.trimBack
  rw [if_neg Bool.false_ne_true, List.dropWhile_idempotent, List.reverse_reverse,
    List.dropWhile_idempotent]

/-! ## The part between braces -/

/-- A part of characters from an opening brace to a closing one, the first and the last of all. -/
structure Embeds (content inner front back : List Char) : Prop where
  whole : content = front ++ inner ++ back
  braced : Json.Braced inner
  first : '\x7b' ∉ front
  last : '\x7d' ∉ back

theorem Embeds.betweenBraces? {content inner front back : List Char}
    (embeds : Embeds content inner front back) : betweenBraces? content = some inner := by
  obtain ⟨rfl, ⟨middle, rfl⟩, first, last⟩ := embeds
  have start : (front ++ '\x7b' :: (middle ++ ['\x7d']) ++ back).idxOf '\x7b' = front.length := by
    rw [List.append_assoc, List.idxOf_append_of_notMem first]
    simp
  have behind : (front ++ '\x7b' :: (middle ++ ['\x7d']) ++ back).reverse.idxOf '\x7d' =
      back.length := by
    rw [List.reverse_append, List.idxOf_append_of_notMem (by simpa using last)]
    simp
  have size : (front ++ '\x7b' :: (middle ++ ['\x7d']) ++ back).length =
      front.length + (middle.length + 2) + back.length := by
    simp
    omega
  have stop : (front ++ '\x7b' :: (middle ++ ['\x7d'])).length =
      front.length + (middle.length + 2) + back.length - back.length := by
    simp
  unfold Model.betweenBraces?
  simp only [start, behind, size]
  rw [if_pos (by omega), ← stop, List.take_left, List.drop_left]

theorem Embeds.of_betweenBraces? {content inner : List Char}
    (found : Model.betweenBraces? content = some inner) :
    ∃ front back, Embeds content inner front back := by
  have within := found
  unfold Model.betweenBraces? at within
  simp only at within
  split at within
  next bounds =>
    obtain ⟨opened, closed, apart⟩ := bounds
    obtain ⟨front, rest, whole, first⟩ :=
      List.eq_append_cons_of_mem (List.idxOf_lt_length_iff.1 opened)
    have closing : '\x7d' ∈ content.reverse :=
      List.idxOf_lt_length_iff.1 (by rwa [List.length_reverse])
    obtain ⟨behind, before, turned, last⟩ := List.eq_append_cons_of_mem closing
    have whole' : content = before.reverse ++ '\x7d' :: behind.reverse := by
      simpa using congrArg List.reverse turned
    have apart : front.length < before.reverse.length := by
      rw [turned, List.idxOf_append_of_notMem last, whole', List.length_append, ← whole', whole,
        List.idxOf_append_of_notMem first] at apart
      simp only [List.idxOf_cons_self, List.length_cons, List.length_reverse] at apart ⊢
      omega
    rcases List.append_eq_append_iff.1 (whole.symm.trans whole') with
      ⟨middle, front', starts⟩ | ⟨middle, front', starts⟩
    · cases middle with
      | nil => simp [front'] at apart
      | cons brace middle =>
          have same : brace = '\x7b' := by
            have heads := congrArg List.head? starts
            simpa using heads.symm
          subst same
          have embeds : Embeds content ('\x7b' :: (middle ++ ['\x7d'])) front behind.reverse :=
            ⟨by rw [whole', front']; simp, ⟨middle, rfl⟩, first, by simpa using last⟩
          cases embeds.betweenBraces?.symm.trans found
          exact ⟨front, behind.reverse, embeds⟩
    · have longer : before.reverse.length ≤ front.length := by simp [front']
      omega
  · cases within

/-! ## The value of a text -/

/-- The value of the part between braces. -/
def embedded (characters : List Char) : Except Error Datum :=
  match betweenBraces? characters with
  | none => .error (.reply .noObject)
  | some inner =>
      match Json.read (String.ofList inner) with
      | .ok value => .ok value
      | .error fault =>
          if fault.problem.isOfSize then .error (oversized fault.problem)
          else .error (.reply (.unreadable (fault.message (String.ofList inner))))

/-- The value that characters hold, of all of them or of the part between braces. -/
def held (characters : List Char) : Except Error Datum :=
  match Json.read (String.ofList characters) with
  | .ok value => .ok value
  | .error fault =>
      if fault.problem.isOfSize then .error (oversized fault.problem) else embedded characters

theorem extract_value (fenced : Bool) (content : String) :
    (extract fenced content).1 =
      held (if fenced then insideFences content.toList else content.toList) := by
  unfold extract held embedded
  dsimp only
  generalize (if fenced then insideFences content.toList else content.toList) = characters
  cases Json.read (String.ofList characters) with
  | ok value => rfl
  | error fault =>
      dsimp only
      split
      · rfl
      · cases betweenBraces? characters with
        | none => rfl
        | some inner =>
            dsimp only
            cases Json.read (String.ofList inner) with
            | ok value => rfl
            | error fault =>
                dsimp only
                split <;> rfl

/-- The error of a text that holds no value: one of the reply, or one of size. -/
inductive HoldsNone : Error → Prop
  | reply (fault : ReplyFault) : HoldsNone (.reply fault)
  | size {problem : Json.Problem} (large : problem.isOfSize = true) : HoldsNone (oversized problem)

theorem raises_embedded (characters : List Char) : Raises HoldsNone (embedded characters) := by
  unfold embedded
  cases betweenBraces? characters with
  | none => exact .error (.reply _)
  | some inner =>
      dsimp only
      cases Json.read (String.ofList inner) with
      | ok value => exact .ok value
      | error fault =>
          dsimp only
          split
          next large => exact .error (.size large)
          · exact .error (.reply _)

theorem raises_held (characters : List Char) : Raises HoldsNone (held characters) := by
  unfold held
  cases Json.read (String.ofList characters) with
  | ok value => exact .ok value
  | error fault =>
      dsimp only
      split
      next large => exact .error (.size large)
      · exact raises_embedded characters

theorem of_held_eq_ok {characters : List Char} {value : Datum}
    (returned : held characters = .ok value) :
    Json.read (String.ofList characters) = .ok value ∨
      ∃ front inner back, Embeds characters inner front back ∧
        Json.read (String.ofList inner) = .ok value := by
  unfold held at returned
  cases whole : Json.read (String.ofList characters) with
  | ok known =>
      rw [whole] at returned
      cases returned
      exact .inl rfl
  | error fault =>
      rw [whole] at returned
      dsimp only at returned
      split at returned
      · cases returned
      · unfold embedded at returned
        cases found : betweenBraces? characters with
        | none =>
            rw [found] at returned
            cases returned
        | some inner =>
            rw [found] at returned
            dsimp only at returned
            obtain ⟨front, back, embeds⟩ := Embeds.of_betweenBraces? found
            refine .inr ⟨front, inner, back, embeds, ?_⟩
            cases part : Json.read (String.ofList inner) with
            | ok known =>
                rw [part] at returned
                cases returned
                rfl
            | error fault =>
                rw [part] at returned
                dsimp only at returned
                split at returned <;> cases returned

/-- An object between characters without braces is found, unless all of it together reads as a
value or is too large to be read. -/
theorem Embeds.held {content inner front back : List Char} {value : Datum}
    (embeds : Embeds content inner front back)
    (reads : Json.read (String.ofList inner) = .ok value)
    (other : ∀ whole, Json.read (String.ofList content) = .ok whole → whole = value)
    (small : ¬ Json.TooLarge (String.ofList content)) : Model.held content = .ok value := by
  unfold Model.held
  cases whole : Json.read (String.ofList content) with
  | ok known => rw [other known whole]
  | error fault =>
      dsimp only
      rw [if_neg fun large => small ⟨fault, whole, large⟩]
      unfold embedded
      rw [embeds.betweenBraces?]
      dsimp only
      rw [reads]

theorem HoldsNone.cases {error : Error} (none : HoldsNone error) :
    error.family = .value ∨ ∃ container, error = oversized (.depth container) := by
  cases none with
  | reply fault => exact .inl rfl
  | size large =>
      rename_i problem
      cases problem with
      | digits count => exact .inl rfl
      | depth container => exact .inr ⟨container, rfl⟩
      | _ => cases large

/-- Words around an object, which neither open nor close one, nor a code block. -/
structure IsProse (text : String) : Prop where
  unopened : '\x7b' ∉ text.toList
  unclosed : '\x7d' ∉ text.toList
  unfenced : '\x60' ∉ text.toList

instance (text : String) : Decidable (IsProse text) :=
  decidable_of_iff ('\x7b' ∉ text.toList ∧ '\x7d' ∉ text.toList ∧ '\x60' ∉ text.toList)
    ⟨fun ⟨unopened, unclosed, unfenced⟩ => ⟨unopened, unclosed, unfenced⟩,
      fun ⟨unopened, unclosed, unfenced⟩ => ⟨unopened, unclosed, unfenced⟩⟩

/-- An object is recovered from the prose around it, unless all of it together is another document
or too large to be read. What is recovered from any text is the value of all that its fences hold,
or of the part of that from the first opening brace to the last closing one; and where nothing is
recovered the error is one of the value, or tells that the text nests too deep. -/
theorem extract_recovers :
    (∀ (front text back : String) (value : Datum), Json.ObjectText text value →
      IsProse front → IsProse back → ¬ Json.TooLarge (Text.trim (front ++ text ++ back)) →
      (∀ whole, Json.read (Text.trim (front ++ text ++ back)) = .ok whole → whole = value) →
      (extract true (front ++ text ++ back)).1 = .ok value) ∧
    (∀ (content : String) (value : Datum), (extract true content).1 = .ok value →
      Json.read (stripFences content) = .ok value ∨
        ∃ front inner back, Embeds (stripFences content).toList inner front back ∧
          Json.read (String.ofList inner) = .ok value) ∧
    ∀ (content : String) (error : Error), (extract true content).1 = .error error →
      error.family = .value ∨ ∃ container, error = oversized (.depth container) := by
  refine ⟨fun front text back value object before behind small other => ?_,
    fun content value returned => ?_, fun content error failed => ?_⟩
  · have whole : Text.trimBlanks (front ++ text ++ back).toList =
        Text.trimFront front.toList ++ text.toList ++ Text.trimBack back.toList := by
      rw [String.toList_append, String.toList_append, object.braced.trimBlanks_around]
    have embeds : Embeds (Text.trimBlanks (front ++ text ++ back).toList) text.toList
        (Text.trimFront front.toList) (Text.trimBack back.toList) :=
      ⟨whole, object.braced,
        fun member => before.unopened (List.dropWhile_subset _ member),
        fun member => behind.unclosed ((List.rdropWhile_prefix _ _).subset member)⟩
    rw [extract_value, if_pos rfl, String.toList_append, String.toList_append,
      insideFences_around object.braced before.unfenced behind.unfenced, ← whole]
    exact embeds.held (by rw [String.ofList_toList]; exact object.reads) other small
  · rw [extract_value, if_pos rfl] at returned
    unfold stripFences
    rw [String.toList_ofList]
    exact of_held_eq_ok returned
  · rw [extract_value] at failed
    exact (raises_held _ error failed).cases

/-- The text of an object between other words, with a brace and a backtick inside. -/
theorem extract_recovers_statedCity :
    Json.ObjectText "\x7b\"city\": \"Ro\x7dme\x60\"\x7d" (.mapping [(.text "city", .text "Ro\x7dme\x60")]) ∧
      IsProse "Sure: " ∧ IsProse ". " ∧
      (extract true ("Sure: " ++ "\x7b\"city\": \"Ro\x7dme\x60\"\x7d" ++ ". ")).1 =
        .ok (.mapping [(.text "city", .text "Ro\x7dme\x60")]) := by
  have object : Json.ObjectText "\x7b\"city\": \"Ro\x7dme\x60\"\x7d"
      (.mapping [(.text "city", .text "Ro\x7dme\x60")]) := ⟨by rfl, ⟨"\"city\": \"Ro\x7dme\x60\"".toList, by rfl⟩⟩
  have unread : Json.read (Text.trim ("Sure: " ++ "\x7b\"city\": \"Ro\x7dme\x60\"\x7d" ++ ". ")) =
      .error ⟨.value, 0⟩ := by rfl
  refine ⟨object, by decide, by decide, extract_recovers.1 _ _ _ _ object (by decide) (by decide)
    ?_ ?_⟩
  · rintro ⟨fault, failed, large⟩
    rw [unread] at failed
    cases failed
    cases large
  · intro whole read
    rw [unread] at read
    cases read

end Model

end Colloquy
