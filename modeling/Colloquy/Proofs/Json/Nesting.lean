import Colloquy.Json.Reader
import Colloquy.Proofs.Results
import Mathlib.Data.List.TakeWhile

/-!
# Nesting in documents

Braces outside the texts of a document are balanced. A scan over single characters follows this: it
counts the braces that are open, and tells whether it is inside a text. Every value that is read
takes the scan back to the depth where it began. So what is left of an object behind a place inside
it is no document, neither from a place outside its texts on nor from an opening brace on.
-/

set_option autoImplicit false

namespace Colloquy.Json

/-! ## The scan -/

/-- Where a scan is: outside of texts, inside one, or behind a backslash in one, with so many braces
open. -/
inductive Mode where
  | outside (depth : Nat)
  | inside (depth : Nat)
  | escaped (depth : Nat)
  deriving Repr, DecidableEq

/-- Where the scan is behind a character, unless that may not stand there. -/
def Mode.next? : Mode → Char → Option Mode
  | outside depth, character =>
      if character = '\x7b' then some (outside (depth + 1))
      else if character = '\x7d' then if depth = 0 then none else some (outside (depth - 1))
      else if character = '"' then some (inside depth)
      else if character = '\\' then none
      else some (outside depth)
  | inside depth, character =>
      if character = '"' then some (outside depth)
      else if character = '\\' then some (escaped depth)
      else if character.toNat < 0x20 then none
      else some (inside depth)
  | escaped depth, character =>
      if character = 'u' ∨ (escaped? character).isSome then some (inside depth) else none

def scan (mode : Mode) (characters : List Char) : Option Mode :=
  characters.foldlM Mode.next? mode

theorem scan_append (mode : Mode) (first second : List Char) :
    scan mode (first ++ second) = (scan mode first).bind fun between => scan between second :=
  List.foldlM_append

theorem scan_append_of_some {mode between : Mode} {first : List Char}
    (scanned : scan mode first = some between) (second : List Char) :
    scan mode (first ++ second) = scan between second := by
  rw [scan_append, scanned]
  rfl

theorem scan_append_eq_some {mode last : Mode} {first second : List Char}
    (scanned : scan mode (first ++ second) = some last) :
    ∃ between, scan mode first = some between ∧ scan between second = some last := by
  rw [scan_append] at scanned
  exact Option.bind_eq_some_iff.1 scanned

theorem scan_cons (mode : Mode) (first : Char) (rest : List Char) :
    scan mode (first :: rest) = (mode.next? first).bind fun between => scan between rest :=
  List.foldlM_cons

/-- A character that changes nothing outside of texts. -/
def IsPlain (character : Char) : Prop :=
  character ≠ '\x7b' ∧ character ≠ '\x7d' ∧ character ≠ '"' ∧ character ≠ '\\'

instance (character : Char) : Decidable (IsPlain character) :=
  inferInstanceAs (Decidable (_ ∧ _))

/-- Characters that bring a scan outside of texts back to its depth. -/
def Level (characters : List Char) : Prop :=
  ∀ depth, scan (.outside depth) characters = some (.outside depth)

namespace Level

theorem nil : Level [] := fun _ => rfl

theorem append {first second : List Char} (former : Level first) (latter : Level second) :
    Level (first ++ second) := by
  intro depth
  rw [scan_append_of_some (former depth)]
  exact latter depth

theorem of_plain {characters : List Char} (plain : ∀ character ∈ characters, IsPlain character) :
    Level characters := by
  intro depth
  induction characters with
  | nil => rfl
  | cons first rest ih =>
      obtain ⟨noOpening, noClosing, noQuote, noBackslash⟩ := plain first List.mem_cons_self
      have later := ih fun character member => plain character (List.mem_cons_of_mem _ member)
      rw [scan_cons, Mode.next?, if_neg noOpening, if_neg noClosing, if_neg noQuote,
        if_neg noBackslash]
      exact later

theorem one {character : Char} (plain : IsPlain character) : Level [character] :=
  of_plain fun _ member => by rwa [List.mem_singleton.1 member]

theorem braces {body : List Char} (level : Level body) : Level ('\x7b' :: (body ++ ['\x7d'])) := by
  intro depth
  have opened : Mode.next? (.outside depth) '\x7b' = some (.outside (depth + 1)) := rfl
  rw [scan_cons, opened]
  exact scan_append_of_some (level (depth + 1)) ['\x7d']

theorem quoted {body : List Char}
    (closes : ∀ depth, scan (.inside depth) body = some (.outside depth)) :
    Level ('"' :: body) := by
  intro depth
  have opened : Mode.next? (.outside depth) '"' = some (.inside depth) := rfl
  rw [scan_cons, opened]
  exact closes depth

end Level

/-! ## Texts -/

/-- Characters that keep a scan inside a text. -/
def Inner (characters : List Char) : Prop :=
  ∀ depth, scan (.inside depth) characters = some (.inside depth)

theorem Inner.append {first second : List Char} (former : Inner first) (latter : Inner second) :
    Inner (first ++ second) := by
  intro depth
  rw [scan_append_of_some (former depth)]
  exact latter depth

theorem Inner.of_each {characters : List Char} (each : ∀ character ∈ characters, Inner [character]) :
    Inner characters := by
  induction characters with
  | nil => exact fun _ => rfl
  | cons first rest ih =>
      exact (each first List.mem_cons_self).append
        (ih fun character member => each character (List.mem_cons_of_mem _ member))

theorem inner_of_plain {character : Char} (noQuote : character ≠ '"') (noBackslash : character ≠ '\\')
    (visible : ¬ character.toNat < 0x20) : Inner [character] := by
  intro depth
  rw [scan_cons, Mode.next?, if_neg noQuote, if_neg noBackslash, if_neg visible]
  rfl

theorem inner_of_escape {letter : Char} (known : letter = 'u' ∨ (escaped? letter).isSome) :
    Inner ['\\', letter] := by
  intro depth
  have behind : Mode.next? (.inside depth) '\\' = some (.escaped depth) := rfl
  rw [scan_cons, behind, Option.bind_some, scan_cons, Mode.next?, if_pos known]
  rfl

theorem inner_of_hexDigit {character : Char} (digit : (hexDigit? character).isSome = true) :
    Inner [character] := by
  have bounds : 48 ≤ character.toNat ∧ character.toNat ≠ 92 := by
    simp only [hexDigit?, Char.le_def, UInt32.le_iff_toNat_le] at digit
    change 48 ≤ character.val.toNat ∧ character.val.toNat ≠ 92
    split at digit
    next within =>
      have least : 48 ≤ character.val.toNat := within.1
      have greatest : character.val.toNat ≤ 57 := within.2
      omega
    · split at digit
      next within =>
        have least : 97 ≤ character.val.toNat := within.1
        omega
      · split at digit
        next within =>
          have least : 65 ≤ character.val.toNat := within.1
          have greatest : character.val.toNat ≤ 70 := within.2
          omega
        · cases digit
  refine inner_of_plain ?_ ?_ (by omega)
  · rintro rfl
    exact absurd bounds.1 (by decide)
  · rintro rfl
    exact bounds.2 rfl

/-- The digits of a number from those before on. -/
theorem digits_of_fold {digits : List Char} {number : Option Nat}
    (read : (digits.foldl (fun number digit => do
      return 16 * (← number) + (← hexDigit? digit)) number).isSome = true) :
    number.isSome = true ∧ ∀ digit ∈ digits, (hexDigit? digit).isSome = true := by
  induction digits generalizing number with
  | nil => exact ⟨read, fun _ member => nomatch member⟩
  | cons first rest ih =>
      obtain ⟨here, later⟩ := ih read
      cases number with
      | none => cases here
      | some before =>
          refine ⟨rfl, ?_⟩
          intro digit member
          rcases List.mem_cons.1 member with rfl | member
          · cases found : hexDigit? digit with
            | none => simp [found] at here
            | some value => rfl
          · exact later digit member

theorem inner_of_unit {digits : List Char} {unit : Nat} (read : unit? digits = some unit) :
    Inner digits := by
  unfold unit? at read
  split at read
  · have each := (digits_of_fold (by rw [read]; rfl)).2
    exact Inner.of_each fun digit member => inner_of_hexDigit (each digit member)
  · cases read

theorem inner_of_readUnit {digits : List Char} {offset count : Nat} {character : Char}
    (read : readUnit digits offset = .ok (character, count)) : Inner (digits.take count) := by
  unfold readUnit at read
  split at read
  · cases read
  · split at read
    · cases read
    next high first =>
      have four : Inner (digits.take 4) := inner_of_unit first
      dsimp only at read
      split at read
      next paired =>
        obtain ⟨_, _, long, start⟩ := paired
        split at read
        · cases read
        next low second =>
          split at read
          · obtain ⟨_, rfl⟩ := Prod.mk.inj (Except.ok.inj read)
            have six : digits.take 10 =
                digits.take 4 ++ ((digits.drop 4).take 2 ++ ((digits.drop 4).drop 2).take 4) := by
              rw [show 10 = 4 + (2 + 4) from rfl, List.take_add, List.take_add]
            rw [six, start]
            exact four.append ((inner_of_escape (.inl rfl)).append (inner_of_unit second))
          · cases read
            exact four
      · cases read
        exact four

/-! ## What the reader passes -/

theorem plain_of_isSpace {character : Char} (space : isSpace character = true) :
    IsPlain character := by
  simp only [isSpace, Bool.or_eq_true, decide_eq_true_eq] at space
  rcases space with ((rfl | rfl) | rfl) | rfl <;> decide

theorem rest_skipSpaces (place : Place) :
    place.skipSpaces.rest = place.rest.dropWhile isSpace := by
  have start : place.rest.takeWhile isSpace =
      place.rest.take (place.rest.takeWhile isSpace).length :=
    List.prefix_iff_eq_take.1 (List.takeWhile_prefix isSpace)
  have parts : place.rest.takeWhile isSpace ++ place.rest.dropWhile isSpace =
      place.rest.takeWhile isSpace ++ place.skipSpaces.rest := by
    rw [List.takeWhile_append_dropWhile, start]
    exact (List.take_append_drop _ _).symm
  exact (List.append_cancel_left parts).symm

/-- What is read between two places leaves the depth of a scan as it was. -/
def Passes (place next : Place) : Prop :=
  ∃ used, place.rest = used ++ next.rest ∧ Level used

namespace Passes

theorem refl (place : Place) : Passes place place := ⟨[], rfl, .nil⟩

theorem trans {first second third : Place} (former : Passes first second)
    (latter : Passes second third) : Passes first third := by
  obtain ⟨used, whole, level⟩ := former
  obtain ⟨used', whole', level'⟩ := latter
  exact ⟨used ++ used', by rw [whole, whole', List.append_assoc], level.append level'⟩

theorem skip {place : Place} {count : Nat} (level : Level (place.rest.take count)) :
    Passes place (place.skip count) :=
  ⟨place.rest.take count, (List.take_append_drop count place.rest).symm, level⟩

theorem spaces {spaces : List Char} {place next : Place}
    (whole : place.rest = spaces ++ next.rest)
    (blank : ∀ character ∈ spaces, isSpace character = true) : Passes place next :=
  ⟨spaces, whole, .of_plain fun character member => plain_of_isSpace (blank character member)⟩

theorem skipSpaces (place : Place) : Passes place place.skipSpaces :=
  .spaces (by rw [rest_skipSpaces, List.takeWhile_append_dropWhile])
    fun _ member => List.mem_takeWhile_imp member

end Passes

theorem readText_passes {start fuel : Nat} {reversed : List Char} {place next : Place}
    {text : String} (read : readText start fuel reversed place = .ok (text, next)) :
    ∃ used, place.rest = used ++ next.rest ∧
      ∀ depth, scan (.inside depth) used = some (.outside depth) := by
  induction fuel generalizing reversed place with
  | zero => cases read
  | succ fuel ih =>
      rw [readText] at read
      split at read
      · cases read
      next rest starts =>
        cases read
        exact ⟨['"'], by simp [starts, Place.skip], fun _ => rfl⟩
      next rest starts =>
        split at read
        · cases read
        next digits =>
          obtain ⟨⟨character, count⟩, unit, later⟩ := bind_eq_ok.1 read
          obtain ⟨used, whole, closes⟩ := ih later
          refine ⟨['\\', 'u'] ++ (digits.take count ++ used), ?_, fun depth => ?_⟩
          · rw [starts, List.append_assoc, List.append_assoc, ← whole]
            simp [Place.skip, starts, Nat.add_comm 2]
          · rw [scan_append_of_some (inner_of_escape (.inl rfl) depth),
              scan_append_of_some (inner_of_readUnit unit depth)]
            exact closes depth
        next letter others notUnit =>
          split at read
          next character known =>
            obtain ⟨used, whole, closes⟩ := ih read
            refine ⟨['\\', letter] ++ used, ?_, fun depth => ?_⟩
            · rw [starts, List.append_assoc, ← whole]
              simp [Place.skip, starts]
            · rw [scan_append_of_some (inner_of_escape (.inr (by rw [known]; rfl)) depth)]
              exact closes depth
          · cases read
      next first others noQuote noBackslash starts =>
        split at read
        · cases read
        next visible =>
          obtain ⟨used, whole, closes⟩ := ih read
          refine ⟨[first] ++ used, ?_, fun depth => ?_⟩
          · rw [starts, List.append_assoc, ← whole]
            simp [Place.skip, starts]
          · rw [scan_append_of_some (inner_of_plain noQuote ?_ visible depth)]
            · exact closes depth
            · exact noBackslash

/-! ## Numerals and words -/

theorem plain_of_isDigit {character : Char} (digit : character.isDigit = true) :
    IsPlain character := by
  refine ⟨?_, ?_, ?_, ?_⟩ <;>
  · rintro rfl
    cases digit

theorem Level.digits (characters : List Char) :
    Level (characters.take (characters.takeWhile Char.isDigit).length) := by
  rw [← List.prefix_iff_eq_take.1 (List.takeWhile_prefix Char.isDigit)]
  exact .of_plain fun _ member => plain_of_isDigit (List.mem_takeWhile_imp member)

/-- Characters are level as far as they are level up to a place and from there on. -/
theorem Level.take_add {characters : List Char} {first second : Nat}
    (former : Level (characters.take first))
    (latter : Level ((characters.drop first).take second)) :
    Level (characters.take (first + second)) := by
  rw [List.take_add]
  exact former.append latter

/-- One character that is there and plain, or none. -/
theorem Level.sign {characters : List Char} {present : Prop} [Decidable present]
    (plain : present → ∃ character, characters.head? = some character ∧ IsPlain character) :
    Level (characters.take (if present then 1 else 0)) := by
  split
  next here =>
    obtain ⟨character, first, changesNothing⟩ := plain here
    cases characters with
    | nil => cases first
    | cons head rest =>
        cases first
        exact .one changesNothing
  · exact .nil

theorem level_readExponent {rest : List Char} {exponent : Int} {length : Nat}
    (read : readExponent rest = some (exponent, length)) : Level (rest.take length) := by
  unfold readExponent at read
  split at read
  next letter behind =>
    split at read
    next mark =>
      obtain ⟨_, found⟩ := Option.ite_none_left_eq_some.1 read
      obtain ⟨_, rfl⟩ := Prod.mk.inj (Option.some.inj found)
      refine Level.take_add (Level.take_add ?_ (Level.sign ?_)) ?_
      · exact .one (by rcases mark with rfl | rfl <;> decide)
      · rintro (minus | plus)
        · exact ⟨'-', by simpa using minus, by decide⟩
        · exact ⟨'+', plus, by decide⟩
      · rw [← List.drop_drop]
        exact .digits _
    · cases read
  · cases read

theorem level_whole (body : List Char) :
    Level (body.take (if body.head? = some '0' then ['0']
      else body.takeWhile Char.isDigit).length) := by
  split
  next zero =>
    cases body with
    | nil => cases zero
    | cons first rest =>
        cases zero
        exact .one (by decide)
  · exact .digits body

theorem level_fraction (behind : List Char) :
    let fraction :=
      if behind.head? = some '.' then (behind.drop 1).takeWhile Char.isDigit else []
    Level (behind.take (if fraction.isEmpty then 0 else fraction.length + 1)) := by
  dsimp only
  split
  next point =>
    split
    · exact .nil
    · cases behind with
      | nil => cases point
      | cons first rest =>
          cases point
          exact (Level.one (by decide)).append (.digits rest)
  · exact .nil

theorem level_readNumeral {rest : List Char} {numeral : Numeral}
    (read : readNumeral? rest = some numeral) : Level (rest.take numeral.length) := by
  unfold readNumeral? at read
  dsimp only at read
  obtain ⟨_, found⟩ := Option.ite_none_left_eq_some.1 read
  cases found
  refine Level.take_add (Level.take_add (Level.take_add (Level.sign ?_) ?_) ?_) ?_
  · intro minus
    exact ⟨'-', by simpa using minus, by decide⟩
  · exact level_whole _
  · rw [← List.drop_drop]
    exact level_fraction _
  · rw [← List.drop_drop, ← List.drop_drop]
    split
    next exponent length found => exact level_readExponent found
    · exact .nil

theorem plain_words : words.all (fun word =>
    word.1.toList.all fun character => decide (IsPlain character)) = true := by
  decide

theorem plain_readWord {rest : List Char} {value : Datum} {length : Nat}
    (read : readWord? rest = some (value, length)) :
    ∀ character ∈ rest.take length, IsPlain character := by
  unfold readWord? at read
  obtain ⟨word, found, same⟩ := Option.map_eq_some_iff.1 read
  obtain ⟨_, rfl⟩ := Prod.mk.inj same
  have among := List.mem_of_find?_eq_some found
  have tested : word.1.toList.isPrefixOf rest = true := by
    simpa using List.find?_some found
  have starts : word.1.toList <+: rest := List.isPrefixOf_iff_prefix.1 tested
  have plain := List.all_eq_true.1 (List.all_eq_true.1 plain_words word among)
  rw [← String.length_toList, ← List.prefix_iff_eq_take.1 starts]
  exact fun character member => of_decide_eq_true (plain character member)

/-! ## Values -/

theorem rest_skip_one {place : Place} {first : Char} {rest : List Char}
    (starts : place.rest = first :: rest) : (place.skip 1).rest = rest := by
  show place.rest.drop 1 = rest
  rw [starts]
  rfl

theorem Passes.one {place : Place} {first : Char} {rest : List Char}
    (starts : place.rest = first :: rest) (plain : IsPlain first) : Passes place (place.skip 1) :=
  ⟨[first], by rw [rest_skip_one starts, starts]; rfl, .one plain⟩

/-- From an opening brace to what follows its closing one. -/
theorem Passes.braces {place close next : Place} {rest : List Char}
    (opens : place.rest = '\x7b' :: rest) (body : Passes (place.skip 1) close)
    (closes : close.rest = '\x7d' :: next.rest) : Passes place next := by
  obtain ⟨used, whole, level⟩ := body
  rw [rest_skip_one opens] at whole
  refine ⟨'\x7b' :: (used ++ ['\x7d']), ?_, level.braces⟩
  rw [opens, whole, closes]
  simp

theorem Passes.text {place next : Place} {rest : List Char} {start fuel : Nat} {text : String}
    (starts : place.rest = '"' :: rest)
    (read : readText start fuel [] (place.skip 1) = .ok (text, next)) : Passes place next := by
  obtain ⟨used, whole, closes⟩ := readText_passes read
  rw [rest_skip_one starts] at whole
  exact ⟨'"' :: used, by rw [starts, whole]; rfl, .quoted closes⟩

/-- What the reader passes with at most so much fuel. The members of an object end at its closing
brace, which is read as well. -/
structure ReaderPasses (fuel : Nat) : Prop where
  value : ∀ {depth place value next},
    readValue fuel depth place = .ok (value, next) → Passes place next
  members : ∀ {depth before place entries next},
    readMembers fuel depth before place = .ok (entries, next) →
      ∃ close, Passes place close ∧ close.rest = '\x7d' :: next.rest
  items : ∀ {depth place items next},
    readItems fuel depth place = .ok (items, next) → Passes place next

namespace ReaderPasses

variable {fuel : Nat} (passes : ReaderPasses fuel)

include passes

/-- An object reaches from its opening brace to a closing one. -/
theorem object_succ {depth : Nat} {place next : Place} {rest : List Char} {value : Datum}
    (opens : place.rest = '\x7b' :: rest)
    (read : readValue (fuel + 1) depth place = .ok (value, next)) :
    ∃ close, Passes (place.skip 1) close ∧ close.rest = '\x7d' :: next.rest := by
  rw [readValue] at read
  split at read
  next others quote => cases quote.symm.trans opens
  next others brace =>
    dsimp only at read
    split at read
    · cases read
    · split at read
      next closes =>
        cases read
        obtain ⟨rest', closes⟩ := List.head?_eq_some_iff.1 closes
        exact ⟨_, .skipSpaces _, by rw [closes, rest_skip_one closes]⟩
      · obtain ⟨⟨entries, place'⟩, here, same⟩ := bind_eq_ok.1 read
        cases same
        obtain ⟨close, body, closes⟩ := passes.members here
        exact ⟨close, (Passes.skipSpaces _).trans body, closes⟩
  next others bracket => cases bracket.symm.trans opens
  next noQuote noBrace noBracket => exact absurd opens (noBrace rest)

theorem value_succ {depth : Nat} {place next : Place} {value : Datum}
    (reads : readValue (fuel + 1) depth place = .ok (value, next)) : Passes place next := by
  have read := reads
  rw [readValue] at read
  split at read
  next rest starts =>
    obtain ⟨⟨text, place'⟩, here, same⟩ := bind_eq_ok.1 read
    cases same
    exact .text starts here
  next rest opens =>
    obtain ⟨close, body, closes⟩ := passes.object_succ opens reads
    exact .braces opens body closes
  next rest opens =>
    dsimp only at read
    have opened : Passes place (place.skip 1).skipSpaces :=
      (Passes.one opens (by decide)).trans (.skipSpaces _)
    split at read
    · cases read
    · split at read
      next closes =>
        cases read
        obtain ⟨rest', closes⟩ := List.head?_eq_some_iff.1 closes
        exact opened.trans (.one closes (by decide))
      · obtain ⟨⟨items, place'⟩, here, same⟩ := bind_eq_ok.1 read
        cases same
        exact opened.trans (passes.items here)
  · split at read
    next known length word =>
      cases read
      exact .skip (.of_plain (plain_readWord word))
    · split at read
      next numeral found =>
        split at read
        · cases read
          exact .skip (level_readNumeral found)
        · cases read
      · cases read

theorem members_succ {depth : Nat} {before entries : List (Datum × Datum)} {place next : Place}
    (read : readMembers (fuel + 1) depth before place = .ok (entries, next)) :
    ∃ close, Passes place close ∧ close.rest = '\x7d' :: next.rest := by
  rw [readMembers] at read
  split at read
  next rest starts =>
    obtain ⟨⟨name, named⟩, here, read⟩ := bind_eq_ok.1 read
    dsimp only at read
    split at read
    · cases read
    next colon =>
      obtain ⟨⟨value, valued⟩, there, read⟩ := bind_eq_ok.1 read
      obtain ⟨rest', colon⟩ := List.head?_eq_some_iff.1 (not_not.1 colon)
      have far : Passes place valued.skipSpaces :=
        (Passes.text starts here).trans <| (Passes.skipSpaces _).trans <|
          (Passes.one colon (by decide)).trans <| (Passes.skipSpaces _).trans <|
          (passes.value there).trans (.skipSpaces _)
      dsimp only at read
      split at read
      next rest'' closes =>
        cases read
        exact ⟨_, far, by rw [closes, rest_skip_one closes]⟩
      next rest'' comma =>
        obtain ⟨close, body, closes⟩ := passes.members read
        exact ⟨close, far.trans <| (Passes.one comma (by decide)).trans <|
          (Passes.skipSpaces _).trans body, closes⟩
      · cases read
  · cases read

theorem items_succ {depth : Nat} {items : List Datum} {place next : Place}
    (read : readItems (fuel + 1) depth place = .ok (items, next)) : Passes place next := by
  rw [readItems] at read
  obtain ⟨⟨value, valued⟩, here, read⟩ := bind_eq_ok.1 read
  have far : Passes place valued.skipSpaces := (passes.value here).trans (.skipSpaces _)
  dsimp only at read
  split at read
  next rest closes =>
    cases read
    exact far.trans (.one closes (by decide))
  next rest comma =>
    obtain ⟨⟨others, place'⟩, there, same⟩ := bind_eq_ok.1 read
    cases same
    exact far.trans <| (Passes.one comma (by decide)).trans <|
      (Passes.skipSpaces _).trans (passes.items there)
  · cases read

end ReaderPasses

theorem readerPasses (fuel : Nat) : ReaderPasses fuel := by
  induction fuel with
  | zero =>
      constructor
      · intro depth place value next read
        cases read
      · intro depth before place entries next read
        cases read
      · intro depth place items next read
        cases read
  | succ fuel ih => exact ⟨ih.value_succ, ih.members_succ, ih.items_succ⟩

/-! ## Documents -/

/-- A document is one value with spaces around it. -/
theorem read_eq_ok {text : String} {value : Datum} (reads : read text = .ok value) :
    ∃ fuel depth next, readValue (fuel + 1) depth (Place.mk text.toList 0).skipSpaces =
      .ok (value, next) ∧ next.skipSpaces.rest = [] := by
  unfold read at reads
  dsimp only at reads
  split at reads
  · cases reads
  · obtain ⟨⟨known, next⟩, here, ending⟩ := bind_eq_ok.1 reads
    dsimp only at ending
    split at ending
    next finished =>
      cases ending
      exact ⟨_, _, next, here, List.isEmpty_iff.1 finished⟩
    · cases ending

/-- All that is read as a document is level. -/
theorem level_of_read {text : String} {value : Datum} (reads : read text = .ok value) :
    Level text.toList := by
  obtain ⟨fuel, depth, next, here, finished⟩ := read_eq_ok reads
  obtain ⟨used, whole, level⟩ := (Passes.skipSpaces ⟨text.toList, 0⟩).trans <|
    ((readerPasses _).value here).trans (.skipSpaces next)
  rw [finished, List.append_nil] at whole
  rw [show text.toList = used from whole]
  exact level

/-- What is between the braces of an object is level by itself. -/
theorem level_of_read_braces {text : String} {value : Datum} {middle : List Char}
    (reads : read text = .ok value) (braced : text.toList = '\x7b' :: (middle ++ ['\x7d'])) :
    Level middle := by
  obtain ⟨fuel, depth, next, here, finished⟩ := read_eq_ok reads
  have opens : (Place.mk text.toList 0).skipSpaces.rest = '\x7b' :: (middle ++ ['\x7d']) := by
    rw [rest_skipSpaces, braced]
    rfl
  obtain ⟨close, ⟨used, whole, level⟩, closes⟩ := (readerPasses fuel).object_succ opens here
  rw [rest_skip_one opens, closes] at whole
  have spaces : ∀ character ∈ next.rest, isSpace character = true := by
    rw [rest_skipSpaces] at finished
    exact List.dropWhile_eq_nil_iff.1 finished
  rcases List.eq_nil_or_concat next.rest with none | ⟨others, last, some⟩
  · rw [none] at whole
    rw [List.append_cancel_right whole]
    exact level
  · have closing : last = '\x7d' := by
      have lasts := congrArg List.getLast? whole
      simpa [some, List.getLast?_cons] using lasts.symm
    have space := spaces last (by simp [some])
    rw [closing] at space
    cases space

/-- Two scans of the same characters, one of which is inside of texts where the other is outside. -/
inductive Opposed : Mode → Mode → Prop
  | inside (depth other : Nat) : Opposed (.inside depth) (.outside other)
  | outside (depth other : Nat) : Opposed (.outside depth) (.inside other)

theorem Opposed.symm {first second : Mode} (opposed : Opposed first second) :
    Opposed second first := by
  cases opposed with
  | inside depth other => exact .outside other depth
  | outside depth other => exact .inside other depth

theorem Opposed.next {depth other : Nat} {character : Char} {first second : Mode}
    (former : Mode.next? (.inside depth) character = some first)
    (latter : Mode.next? (.outside other) character = some second) : Opposed first second := by
  by_cases quote : character = '"'
  · subst quote
    cases former
    cases latter
    exact .outside depth other
  · by_cases backslash : character = '\\'
    · subst backslash
      cases latter
    · rw [Mode.next?, if_neg quote, if_neg backslash] at former
      obtain ⟨_, former⟩ := Option.ite_none_left_eq_some.1 former
      cases former
      rw [Mode.next?, if_neg quote, if_neg backslash] at latter
      split at latter
      · cases latter
        exact .inside _ _
      · split at latter
        · split at latter
          · cases latter
          · cases latter
            exact .inside _ _
        · cases latter
          exact .inside _ _

/-- Scans that are opposed stay so. -/
theorem Opposed.scan {characters : List Char} {first second first' second' : Mode}
    (opposed : Opposed first second) (former : scan first characters = some first')
    (latter : scan second characters = some second') : Opposed first' second' := by
  induction characters generalizing first second with
  | nil =>
      cases former
      cases latter
      exact opposed
  | cons character rest ih =>
      rw [scan_cons] at former latter
      obtain ⟨between, here, former'⟩ := Option.bind_eq_some_iff.1 former
      obtain ⟨between', here', latter'⟩ := Option.bind_eq_some_iff.1 latter
      cases opposed with
      | inside => exact ih (.next here here') former' latter'
      | outside => exact ih (Opposed.next here' here).symm former' latter'

/-- What is left of an object behind a place inside it is no document, if that place is outside of
texts or if an opening brace follows. -/
theorem not_level_suffix {middle front rest : List Char} (level : Level middle)
    (whole : middle ++ ['\x7d'] = front ++ rest) (left : rest ≠ [])
    (place : (∃ depth, scan (.outside 0) front = some (.outside depth)) ∨
      rest.head? = some '\x7b') : ¬ Level rest := by
  intro document
  obtain ⟨body, last, rfl⟩ := (List.eq_nil_or_concat rest).resolve_left left
  rw [List.concat_eq_append] at *
  rw [← List.append_assoc] at whole
  obtain ⟨rfl, same⟩ := List.append_inj' whole rfl
  cases same
  obtain ⟨mode, before, behind⟩ := scan_append_eq_some (level 0)
  cases mode with
  | outside depth =>
      -- read from here on, the last brace would close more than the document has opened
      have closed := document depth
      rw [scan_append_of_some behind] at closed
      cases closed
  | inside depth =>
      -- the document would end inside of a text
      obtain ⟨last, opened, closed⟩ := scan_append_eq_some (document 0)
      cases (Opposed.inside depth 0).scan behind opened
      cases closed
  | escaped depth =>
      rcases place with ⟨known, outside⟩ | brace
      · cases outside.symm.trans before
      · cases body with
        | nil => cases brace
        | cons first others =>
            cases brace
            cases behind

/-- A newline stands outside of texts. -/
theorem outside_of_newline {before blanks rest : List Char}
    (level : Level (before ++ '\n' :: (blanks ++ rest)))
    (plain : ∀ character ∈ blanks, IsPlain character) :
    ∃ depth, scan (.outside 0) (before ++ '\n' :: blanks) = some (.outside depth) := by
  obtain ⟨mode, front, behind⟩ := scan_append_eq_some (level 0)
  cases mode with
  | outside depth =>
      have newline : ∀ character ∈ '\n' :: blanks, IsPlain character := by
        intro character member
        rcases List.mem_cons.1 member with rfl | member
        · decide
        · exact plain character member
      exact ⟨depth, (scan_append_of_some front _).trans (Level.of_plain newline depth)⟩
  | inside depth => cases behind
  | escaped depth => cases behind

end Colloquy.Json
