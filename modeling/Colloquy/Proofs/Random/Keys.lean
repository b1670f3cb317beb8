import Colloquy.Random.Twister
import Mathlib

/-!
# Keys

The key of a seed is the list of its words. A key is stirred into a start block, word after word around
the block, and the block is settled then. Settling loses nothing. Nor does stirring, as far as the block
has room: a word of the block and the one before it tell what was added to make it.

So the words that a key adds can be read off the block, all but the first two and the last. Keys of the
same length leave different blocks, and so do those of seeds that lie near one another.
-/

set_option autoImplicit false

namespace Colloquy.Random

theorem Twister.size_grow (seed : UInt32) : (grow seed).size = 624 := by
  have grown (next : Array UInt32 → UInt32) (count : Nat) :
      (Nat.repeat (fun words : Array UInt32 => words.push (next words)) count
        (Array.singleton seed)).size = count + 1 := by
    induction count with
    | zero => rfl
    | succ count ih =>
      show (Array.push _ _).size = _
      rw [Array.size_push, ih]
  exact grown _ 623

theorem getD_setIfInBounds {words : Array UInt32} {place : Nat} (inside : place < words.size)
    (word : UInt32) (other : Nat) :
    (words.setIfInBounds place word).getD other 0 =
      if other = place then word else words.getD other 0 := by
  rw [Array.getD_eq_getD_getElem?, Array.getD_eq_getD_getElem?]
  split
  next same => rw [same, Array.getElem?_setIfInBounds_self_of_lt inside, Option.getD_some]
  next differ => rw [Array.getElem?_setIfInBounds_ne (Ne.symm differ)]

namespace Mixing

variable {mixing other : Mixing}

def wordAt (mixing : Mixing) (place : Nat) : UInt32 := mixing.words.getD place 0

/-- A mixing of a whole block, of which any word but the first may be the next to change. -/
structure Sound (mixing : Mixing) : Prop where
  whole : mixing.words.size = 624
  positive : 1 ≤ mixing.position
  inside : mixing.position ≤ 623

theorem Sound.ext (sound : mixing.Sound) (sound' : other.Sound)
    (position : mixing.position = other.position)
    (words : ∀ place < 624, mixing.wordAt place = other.wordAt place) : mixing = other := by
  obtain ⟨words₁, position₁⟩ := mixing
  obtain ⟨words₂, position₂⟩ := other
  have sizes : words₁.size = words₂.size := sound.whole.trans sound'.whole.symm
  rw [Mixing.mk.injEq]
  refine ⟨Array.ext sizes fun place inside inside' => ?_, position⟩
  have same := words place (sound.whole ▸ inside)
  simpa [wordAt, inside, inside'] using same

theorem advance_of_lt (early : mixing.position < 623) (word : UInt32) :
    mixing.advance word =
      ⟨mixing.words.setIfInBounds mixing.position word, mixing.position + 1⟩ :=
  if_pos (show mixing.position + 1 < 624 by omega)

theorem Sound.advance_of_last (sound : mixing.Sound) (last : mixing.position = 623) (word : UInt32) :
    mixing.advance word =
      ⟨(mixing.words.setIfInBounds 623 word).setIfInBounds 0 word, 1⟩ := by
  have written : (mixing.words.setIfInBounds 623 word).getD 623 0 = word := by
    rw [getD_setIfInBounds (by rw [sound.whole]; decide), if_pos rfl]
  unfold advance
  dsimp only
  rw [last, if_neg (by decide)]
  exact congrArg
    (fun copy => Mixing.mk ((mixing.words.setIfInBounds 623 word).setIfInBounds 0 copy) 1) written

theorem Sound.advance (sound : mixing.Sound) (word : UInt32) : (mixing.advance word).Sound := by
  obtain ⟨whole, positive, inside⟩ := sound
  rcases Nat.lt_or_eq_of_le inside with early | last
  · rw [advance_of_lt early]
    exact ⟨by rw [Array.size_setIfInBounds, whole], Nat.succ_pos _, early⟩
  · rw [Sound.advance_of_last ⟨whole, positive, inside⟩ last]
    exact ⟨by rw [Array.size_setIfInBounds, Array.size_setIfInBounds, whole], Nat.le_refl _,
      show 1 ≤ 623 by decide⟩

theorem Sound.position_advance (sound : mixing.Sound) (word : UInt32) :
    (mixing.advance word).position = if mixing.position = 623 then 1 else mixing.position + 1 := by
  split
  next last => rw [sound.advance_of_last last]
  next early => rw [advance_of_lt (Nat.lt_of_le_of_ne sound.inside early)]

theorem Sound.wordAt_advance (sound : mixing.Sound) (word : UInt32) (place : Nat) :
    (mixing.advance word).wordAt place =
      if place = mixing.position ∨ (place = 0 ∧ mixing.position = 623) then word
      else mixing.wordAt place := by
  obtain ⟨whole, positive, inside⟩ := sound
  rcases Nat.lt_or_eq_of_le inside with early | last
  · rw [advance_of_lt early, wordAt, getD_setIfInBounds (by omega)]
    congr 1
    rw [eq_iff_iff]
    omega
  · rw [Sound.advance_of_last ⟨whole, positive, inside⟩ last, wordAt,
      getD_setIfInBounds (by rw [Array.size_setIfInBounds]; omega), getD_setIfInBounds (by omega)]
    split_ifs <;> first | rfl | omega

/-- The first word is kept as a copy of the last one. -/
structure Closed (mixing : Mixing) : Prop extends Sound mixing where
  closed : mixing.wordAt 0 = mixing.wordAt 623

theorem Closed.advance (closed : mixing.Closed) (word : UInt32) : (mixing.advance word).Closed where
  toSound := closed.toSound.advance word
  closed := by
    have same := closed.closed
    have positive := closed.positive
    rw [closed.wordAt_advance, closed.wordAt_advance]
    split_ifs <;> first | rfl | omega

/-- What the word before the current one adds to it. -/
def spread (word multiplier : UInt32) : UInt32 := (word ^^^ (word >>> 30)) * multiplier

theorem blend_eq (mixing : Mixing) (multiplier : UInt32) :
    mixing.blend multiplier = mixing.wordAt mixing.position ^^^
      spread (mixing.wordAt (mixing.position - 1)) multiplier := rfl

/-- The current word is blended with the one before it, and its place is taken off. -/
def settle (mixing : Mixing) : Mixing :=
  mixing.advance (mixing.blend 1566083941 - UInt32.ofNat mixing.position)

/-- A step of settling loses nothing: -/
theorem Closed.eq_of_settle (closed : mixing.Closed) (closed' : other.Closed)
    (position : mixing.position = other.position) (same : mixing.settle = other.settle) :
    mixing = other := by
  have positive := closed.positive
  have after (place : Nat) : mixing.settle.wordAt place = other.settle.wordAt place := by rw [same]
  simp only [settle, closed.wordAt_advance, closed'.wordAt_advance, ← position] at after
  have others (place : Nat) (differs : place ≠ mixing.position)
      (kept : place = 0 → mixing.position ≠ 623) : mixing.wordAt place = other.wordAt place := by
    have here := after place
    rwa [if_neg (by tauto), if_neg (by tauto)] at here
  have current : mixing.wordAt mixing.position = other.wordAt mixing.position := by
    have here := after mixing.position
    rw [if_pos (.inl rfl), if_pos (.inl rfl), sub_left_inj, blend_eq, blend_eq, ← position,
      others (mixing.position - 1) (by omega) (by omega)] at here
    exact (UInt32.xor_left_inj _).1 here
  refine closed.toSound.ext closed'.toSound position fun place _ => ?_
  by_cases here : place = mixing.position
  · rw [here, current]
  by_cases first : place = 0 ∧ mixing.position = 623
  · rw [first.1, closed.closed, closed'.closed, ← first.2, current]
  · exact others place here fun zero last => first ⟨zero, last⟩

theorem Closed.settle (closed : mixing.Closed) : mixing.settle.Closed := closed.advance _

theorem Closed.settles (closed : mixing.Closed) (count : Nat) :
    (Nat.repeat Mixing.settle count mixing).Closed := by
  induction count with
  | zero => exact closed
  | succ count ih => exact ih.settle

theorem position_settles (closed : mixing.Closed) (closed' : other.Closed)
    (position : mixing.position = other.position) (count : Nat) :
    (Nat.repeat settle count mixing).position = (Nat.repeat settle count other).position := by
  induction count with
  | zero => exact position
  | succ count ih =>
      show (Mixing.settle _).position = (Mixing.settle _).position
      rw [settle, settle, (closed.settles count).position_advance,
        (closed'.settles count).position_advance, ih]

/-- However often two mixings are settled, they stay apart. -/
theorem eq_of_settles (closed : mixing.Closed) (closed' : other.Closed)
    (position : mixing.position = other.position) (count : Nat)
    (same : Nat.repeat settle count mixing = Nat.repeat settle count other) : mixing = other := by
  induction count with
  | zero => exact same
  | succ count ih =>
      exact ih ((closed.settles count).eq_of_settle (closed'.settles count)
        (position_settles closed closed' position count) same)

/-- The current word is blended with the one before it, and something is added. -/
def stir (mixing : Mixing) (addend : UInt32) : Mixing :=
  mixing.advance (mixing.blend 1664525 + addend)

/-- The start block, into which the first of a number of addends have been stirred. -/
def stirred (addends : Nat → UInt32) (count : Nat) : Mixing :=
  (List.range count).foldl (fun mixing step => mixing.stir (addends step)) ⟨Twister.grow 19650218, 1⟩

theorem stirred_succ (addends : Nat → UInt32) (count : Nat) :
    stirred addends (count + 1) = (stirred addends count).stir (addends count) := by
  rw [stirred, List.range_succ, List.foldl_append]
  rfl

theorem sound_stirred (addends : Nat → UInt32) (count : Nat) : (stirred addends count).Sound := by
  induction count with
  | zero => exact ⟨Twister.size_grow _, Nat.le_refl _, show 1 ≤ 623 by decide⟩
  | succ count ih =>
      rw [stirred_succ]
      exact ih.advance _

/-- After 623 addends the start block has been gone through. -/
theorem position_stirred (addends : Nat → UInt32) (count : Nat) :
    (stirred addends count).position = count % 623 + 1 := by
  induction count with
  | zero => rfl
  | succ count ih =>
      rw [stirred_succ, stir, (sound_stirred addends count).position_advance, ih]
      split <;> omega

theorem closed_stirred (addends : Nat → UInt32) {count : Nat} (through : 623 ≤ count) :
    (stirred addends count).Closed := by
  induction count, through using Nat.le_induction with
  | base =>
      have sound := sound_stirred addends 622
      have last : (stirred addends 622).position = 623 := position_stirred addends 622
      refine ⟨sound_stirred addends 623, ?_⟩
      rw [stirred_succ, stir, sound.wordAt_advance, sound.wordAt_advance, last,
        if_pos (.inr ⟨rfl, rfl⟩), if_pos (.inl rfl)]
  | succ count _ ih =>
      rw [stirred_succ]
      exact ih.advance _

/-- The word that a number of addends leaves behind when it is written for the first time. -/
def keyedWord (addends : Nat → UInt32) : Nat → UInt32
  | 0 => (Twister.grow 19650218).getD 0 0
  | before + 1 => ((Twister.grow 19650218).getD (before + 1) 0 ^^^
      spread (keyedWord addends before) 1664525) + addends before

variable {addends addends' : Nat → UInt32}

/-- A step writes one word, and the last word twice. -/
theorem wordAt_stirred_succ (count : Nat) {current : Nat} (here : count % 623 + 1 = current) (place : Nat) :
    (stirred addends (count + 1)).wordAt place =
      if place = current ∨ (place = 0 ∧ current = 623) then
        ((stirred addends count).wordAt current ^^^
          spread ((stirred addends count).wordAt (current - 1)) 1664525) + addends count
      else (stirred addends count).wordAt place := by
  rw [← here, ← position_stirred addends count, stirred_succ, stir,
    (sound_stirred addends count).wordAt_advance, blend_eq]

theorem wordAt_stirred_of_le {count : Nat} (early : count ≤ 622) (place : Nat) :
    (stirred addends count).wordAt place =
      if place ≤ count then keyedWord addends place else (Twister.grow 19650218).getD place 0 := by
  induction count generalizing place with
  | zero =>
      split
      next first => rw [Nat.le_zero.1 first]; rfl
      next => rfl
  | succ count ih =>
      rw [wordAt_stirred_succ count (show count % 623 + 1 = count + 1 by omega)]
      split
      next written =>
        obtain rfl : place = count + 1 := by omega
        rw [ih (by omega), ih (by omega), if_neg (by omega), if_pos (by omega), if_pos (Nat.le_refl _)]
        rfl
      next kept =>
        rw [ih (by omega)]
        congr 1
        rw [eq_iff_iff]
        omega

/-- When the last word is written, the first becomes a copy of it. -/
theorem wordAt_stirred_through {place : Nat} (inside : place ≤ 623) :
    (stirred addends 623).wordAt place = keyedWord addends (if place = 0 then 623 else place) := by
  rw [wordAt_stirred_succ 622 rfl]
  split
  next written =>
    have last : (if place = 0 then 623 else place) = 623 := by
      split <;> omega
    rw [last, wordAt_stirred_of_le (Nat.le_refl _), wordAt_stirred_of_le (Nat.le_refl _),
      if_neg (by omega), if_pos (by omega)]
    rfl
  next kept =>
    rw [wordAt_stirred_of_le (Nat.le_refl _), if_pos (by omega), if_neg (by omega)]

/-- The addend that is left over goes into the second word. -/
theorem wordAt_stirred_around {place : Nat} (inside : place ≤ 623) :
    (stirred addends 624).wordAt place =
      if place = 1 then (keyedWord addends 1 ^^^ spread (keyedWord addends 623) 1664525) + addends 623
      else keyedWord addends (if place = 0 then 623 else place) := by
  rw [wordAt_stirred_succ 623 rfl]
  split
  next written =>
    have second : place = 1 := by omega
    rw [if_pos second, wordAt_stirred_through (by omega), wordAt_stirred_through (by omega),
      if_neg (by omega), if_pos (by omega)]
  next kept => rw [if_neg (by omega), wordAt_stirred_through inside]

/-- A word and the one before it tell what was added. -/
theorem addend_eq_of_keyedWord {place : Nat}
    (before : keyedWord addends place = keyedWord addends' place)
    (same : keyedWord addends (place + 1) = keyedWord addends' (place + 1)) :
    addends place = addends' place := by
  rw [keyedWord, keyedWord, before] at same
  exact (UInt32.add_right_inj _).1 same

variable (same : stirred addends 624 = stirred addends' 624)
include same

theorem keyedWord_eq_of_stirred {place : Nat} (second : 2 ≤ place) (inside : place ≤ 623) :
    keyedWord addends place = keyedWord addends' place := by
  have words := congrArg (·.wordAt place) same
  rwa [wordAt_stirred_around inside, wordAt_stirred_around inside, if_neg (by omega),
    if_neg (by omega), if_neg (by omega)] at words

/-- What is left of the first two addends and the last is no more than two words. The others can be read
off the block. -/
theorem addend_eq_of_stirred {place : Nat} (second : 2 ≤ place) (inside : place ≤ 622) :
    addends place = addends' place :=
  addend_eq_of_keyedWord (keyedWord_eq_of_stirred same second (by omega))
    (keyedWord_eq_of_stirred same (by omega) (by omega))

theorem addend_one_eq_of_stirred (first : addends 0 = addends' 0) : addends 1 = addends' 1 := by
  refine addend_eq_of_keyedWord ?_ (keyedWord_eq_of_stirred same (Nat.le_refl _) (by decide))
  rw [keyedWord, keyedWord, first]
  rfl

end Mixing

/-! ## Words of seeds -/

section Words

theorem length_keyWords_pos (number : Nat) : 0 < (keyWords number).length := by
  unfold keyWords
  split <;> exact Nat.succ_pos _

theorem lt_wordCount_pow {number bound : Nat} (small : number < wordCount) (positive : bound ≠ 0) :
    number < wordCount ^ bound :=
  Nat.lt_of_lt_of_le small (Nat.le_self_pow positive _)

theorem length_keyWords_le_iff (number bound : Nat) :
    (keyWords number).length ≤ bound + 1 ↔ number < wordCount ^ (bound + 1) := by
  have positive : 0 < wordCount := by decide
  induction bound generalizing number with
  | zero =>
      rw [Nat.zero_add, Nat.pow_one, keyWords]
      split
      next small => exact iff_of_true (Nat.le_refl _) small
      next large =>
        have rest := length_keyWords_pos (number / wordCount)
        refine iff_of_false ?_ large
        rw [List.length_cons]
        omega
  | succ bound ih =>
      rw [keyWords]
      split
      next small =>
        exact iff_of_true (Nat.le_add_left _ _) (lt_wordCount_pow small (Nat.succ_ne_zero _))
      next large =>
        rw [List.length_cons, Nat.add_le_add_iff_right]
        exact (ih _).trans (by rw [Nat.div_lt_iff_lt_mul positive, ← Nat.pow_succ])

theorem length_keyWords_mono {number number' : Nat} (order : number ≤ number') :
    (keyWords number).length ≤ (keyWords number').length := by
  obtain ⟨before, length⟩ : ∃ before, (keyWords number').length = before + 1 :=
    ⟨_, (Nat.sub_add_cancel (length_keyWords_pos number')).symm⟩
  have bounded := (length_keyWords_le_iff number' before).1 (Nat.le_of_eq length)
  rw [length, length_keyWords_le_iff]
  exact Nat.lt_of_le_of_lt order bounded

theorem getD_keyWords (number place : Nat) :
    (keyWords number).getD place 0 = UInt32.ofNat (number / wordCount ^ place) := by
  have positive : 0 < wordCount := by decide
  induction place generalizing number with
  | zero =>
      rw [keyWords, Nat.pow_zero, Nat.div_one]
      split
      next => rfl
      next => exact UInt32.ofNat_mod_size
  | succ place ih =>
      rw [keyWords]
      split
      next small =>
        rw [Nat.div_eq_of_lt (lt_wordCount_pow small (Nat.succ_ne_zero _))]
        rfl
      next large =>
        rw [List.getD_cons_succ, ih, Nat.div_div_eq_div_mul, Nat.pow_succ, Nat.mul_comm]

/-- A number is told by its words. -/
theorem keyWords_injective : Function.Injective keyWords := by
  intro number
  induction number using Nat.strongRecOn with
  | ind number ih =>
    intro other same
    have positive : 0 < wordCount := by decide
    have first := congrArg (fun words => (words.getD 0 0).toNat) same
    rw [getD_keyWords, getD_keyWords, UInt32.toNat_ofNat', UInt32.toNat_ofNat', Nat.pow_zero, Nat.div_one,
      Nat.div_one] at first
    have short (some : Nat) : some < wordCount ↔ (keyWords some).length ≤ 1 := by
      rw [length_keyWords_le_iff some 0, Nat.zero_add, Nat.pow_one]
    have both : number < wordCount ↔ other < wordCount := by rw [short, short, same]
    by_cases small : number < wordCount
    · have small' := both.1 small
      have count : wordCount = 2 ^ 32 := rfl
      rw [count] at small small'
      rwa [Nat.mod_eq_of_lt small, Nat.mod_eq_of_lt small'] at first
    · have large' := mt both.2 small
      rw [keyWords.eq_def number, keyWords.eq_def other, if_neg small, if_neg large'] at same
      have rest := ih (number / wordCount) (Nat.div_lt_self (by omega) (by decide))
        (List.cons.inj same).2
      rw [← Nat.div_add_mod number wordCount, ← Nat.div_add_mod other wordCount, rest]
      exact congrArg _ first

end Words

/-- What a key adds in a step: one of its words, and the place of the word. -/
def addend (key : List UInt32) (step : Nat) : UInt32 :=
  key.getD (step % key.length) 0 + UInt32.ofNat (step % key.length)

theorem addend_congr (key : List UInt32) {step step' : Nat}
    (same : step % key.length = step' % key.length) : addend key step = addend key step' := by
  rw [addend, addend, same]

theorem key_eq_of_addend {key key' : List UInt32} (length : key.length = key'.length)
    (same : ∀ place < key.length, addend key place = addend key' place) : key = key' := by
  refine List.ext_getElem length fun place inside inside' => ?_
  have here := same place inside
  rw [addend, addend, ← length, Nat.mod_eq_of_lt inside, List.getD_eq_getElem _ _ inside,
    List.getD_eq_getElem _ _ inside'] at here
  exact (UInt32.add_left_inj _).1 here

open Mixing in
/-- Two keys of the same length leave different blocks. -/
theorem key_eq_of_stirred {key key' : List UInt32} (length : key.length = key'.length)
    (positive : 0 < key.length) (inside : key.length ≤ 622)
    (same : stirred (addend key) 624 = stirred (addend key') 624) : key = key' := by
  have first : addend key 0 = addend key' 0 := by
    -- The first word is added again in a step whose addend is known.
    obtain ⟨step, second, known, again⟩ : ∃ step, 2 ≤ step ∧ step ≤ 622 ∧ 0 % key.length = step % key.length := by
      by_cases single : key.length = 1
      · exact ⟨2, Nat.le_refl _, by decide, by rw [single]⟩
      · exact ⟨key.length, by omega, inside, by rw [Nat.mod_self, Nat.zero_mod]⟩
    rw [addend_congr key again, addend_congr key' (length ▸ again)]
    exact addend_eq_of_stirred same second known
  refine key_eq_of_addend length fun place within => ?_
  rcases Nat.lt_or_ge place 2 with early | late
  · interval_cases place
    · exact first
    · exact addend_one_eq_of_stirred same first
  · exact addend_eq_of_stirred same late (by omega)

section Near

theorem addend_keyWords {number length : Nat} (known : (keyWords number).length = length) (step : Nat) :
    (addend (keyWords number) step).toNat =
      (number / wordCount ^ (step % length) + step % length) % wordCount := by
  rw [addend, getD_keyWords, known, ← UInt32.ofNat_add, UInt32.toNat_ofNat']
  rfl

theorem length_keyWords_eq {number : Nat} (before : Nat) (least : wordCount ^ (before + 1) ≤ number)
    (bounded : number < wordCount ^ (before + 2)) : (keyWords number).length = before + 2 := by
  have upper := (length_keyWords_le_iff number (before + 1)).2 bounded
  have lower := mt (length_keyWords_le_iff number before).1 (Nat.not_lt.2 least)
  omega

variable {small large : Nat}

/-- Where a number gets one word more, its words are all full; they are empty behind. -/
theorem addend_ne_of_carry {before : Nat} (full : small < wordCount ^ (before + 1))
    (carried : wordCount ^ (before + 1) ≤ large) (near : large < small + wordCount)
    (length : (keyWords small).length = before + 1) (length' : (keyWords large).length = before + 2)
    (inside : before + 1 ≤ 622) :
    ∃ place, 2 ≤ place ∧ place ≤ 622 ∧ addend (keyWords small) place ≠ addend (keyWords large) place := by
  by_contra! same
  have at_place (place : Nat) (second : 2 ≤ place) (known : place ≤ 622) :
      (small / wordCount ^ (place % (before + 1)) + place % (before + 1)) % wordCount =
        (large / wordCount ^ (place % (before + 2)) + place % (before + 2)) % wordCount := by
    rw [← addend_keyWords length, ← addend_keyWords length', same place second known]
  rcases before with _ | _ | before
  · have second := at_place 2 (by decide) (by decide)
    have third := at_place 3 (by decide) (by decide)
    norm_num [wordCount] at full carried near second third
    omega
  · have fifth := at_place 5 (by decide) (by decide)
    norm_num [wordCount] at full carried near fifth
    omega
  · have second := at_place 2 (by decide) (by decide)
    rw [Nat.mod_eq_of_lt (show 2 < before + 1 + 1 + 1 by omega),
      Nat.mod_eq_of_lt (show 2 < before + 1 + 1 + 2 by omega)] at second
    rw [show before + 1 + 1 + 1 = before + 3 from rfl, Nat.pow_add] at full carried
    generalize wordCount ^ before = power at full carried
    norm_num [wordCount] at full carried near second
    omega

/-- Two numbers that are less than a word apart are told by the addends that can be read off a block. -/
theorem length_keyWords_eq_of_near (order : small < large) (near : large < small + wordCount)
    (short : (keyWords large).length ≤ 622)
    (same : ∀ place, 2 ≤ place → place ≤ 622 →
      addend (keyWords small) place = addend (keyWords large) place) :
    (keyWords small).length = (keyWords large).length := by
  obtain ⟨before, length⟩ : ∃ before, (keyWords small).length = before + 1 :=
    ⟨_, (Nat.sub_add_cancel (length_keyWords_pos small)).symm⟩
  have full := (length_keyWords_le_iff small before).1 (Nat.le_of_eq length)
  have longer := length_keyWords_mono (Nat.le_of_lt order)
  have power : wordCount ^ (before + 2) = wordCount ^ (before + 1) * wordCount := Nat.pow_succ ..
  have wide : wordCount ≤ wordCount ^ (before + 1) := Nat.le_self_pow (Nat.succ_ne_zero _) _
  by_contra differ
  have carried : wordCount ^ (before + 1) ≤ large :=
    Nat.not_lt.1 (mt (length_keyWords_le_iff large before).2 (by omega))
  have bounded : large < wordCount ^ (before + 2) := by
    have double : wordCount ^ (before + 1) * 2 ≤ wordCount ^ (before + 1) * wordCount :=
      Nat.mul_le_mul_left _ (by decide)
    omega
  have length' := length_keyWords_eq before carried bounded
  obtain ⟨place, second, known, apart⟩ :=
    addend_ne_of_carry full carried near length length' (by omega)
  exact apart (same place second known)

theorem length_keyWords_doubled {word : Nat} (least : 2 ≤ word) (inside : word < wordCount) :
    (keyWords word).length = 1 ∧ (keyWords (word + (word - 1) * wordCount)).length = 2 := by
  have count : wordCount = 4294967296 := rfl
  constructor
  · exact Nat.le_antisymm ((length_keyWords_le_iff word 0).2 (by rwa [Nat.zero_add, Nat.pow_one]))
      (length_keyWords_pos word)
  · refine length_keyWords_eq 0 ?_ ?_
    · rw [Nat.zero_add, Nat.pow_one, count]
      omega
    · rw [Nat.zero_add, Nat.pow_two, count]
      omega

/-- A word with one less behind it has the same addends as the word alone. -/
theorem addend_doubled {word : Nat} (least : 2 ≤ word) (inside : word < wordCount) :
    addend (keyWords word) = addend (keyWords (word + (word - 1) * wordCount)) := by
  obtain ⟨length, length'⟩ := length_keyWords_doubled least inside
  have positive : 0 < wordCount := by decide
  have high : (word + (word - 1) * wordCount) / wordCount = word - 1 := by
    rw [Nat.add_mul_div_right _ _ positive, Nat.div_eq_of_lt inside, Nat.zero_add]
  funext step
  refine UInt32.toNat_inj.1 ?_
  rw [addend_keyWords length, addend_keyWords length', Nat.mod_one, Nat.pow_zero, Nat.div_one,
    Nat.add_zero]
  rcases Nat.mod_two_eq_zero_or_one step with even | odd
  · rw [even, Nat.pow_zero, Nat.div_one, Nat.add_zero, Nat.add_mul_mod_self_right]
  · rw [odd, Nat.pow_one, high, Nat.sub_add_cancel (by omega)]

end Near

namespace Twister

open Mixing

theorem ofKey_eq (key : List UInt32) :
    ofKey key = ⟨(Nat.repeat settle 623
      (stirred (addend key) (max 624 key.length))).words.setIfInBounds 0 0x80000000, 624⟩ := by
  unfold ofKey stirred addend stir
  simp only [UInt32.add_assoc]
  rfl

theorem closed_keyed (key : List UInt32) (count : Nat) :
    (Nat.repeat settle count (stirred (addend key) (max 624 key.length))).Closed :=
  (closed_stirred _ (by omega)).settles count

@[simp]
theorem used_ofKey (key : List UInt32) : (ofKey key).used = size := by
  rw [ofKey_eq]
  rfl

@[simp]
theorem size_words_ofKey (key : List UInt32) : (ofKey key).words.size = size := by
  rw [ofKey_eq, Array.size_setIfInBounds]
  exact (closed_keyed key 623).whole

theorem getD_words_ofKey (key : List UInt32) (place : Nat) :
    (ofKey key).words.getD place 0 = if place = 0 then 0x80000000 else
      (Nat.repeat settle 623 (stirred (addend key) (max 624 key.length))).wordAt place := by
  have whole := (closed_keyed key 623).whole
  rw [ofKey_eq, getD_setIfInBounds (by omega)]
  rfl

/-- The generators of two keys are the same if and only if the keys leave the same block. -/
theorem ofKey_eq_iff {key key' : List UInt32} (short : key.length ≤ 624) (short' : key'.length ≤ 624) :
    ofKey key = ofKey key' ↔ stirred (addend key) 624 = stirred (addend key') 624 := by
  have rounds : max 624 key.length = 624 := Nat.max_eq_left short
  have rounds' : max 624 key'.length = 624 := Nat.max_eq_left short'
  have closed : (stirred (addend key) 624).Closed := closed_stirred _ (by decide)
  have closed' : (stirred (addend key') 624).Closed := closed_stirred _ (by decide)
  constructor
  · intro same
    have position : (stirred (addend key) 624).position = (stirred (addend key') 624).position := by
      rw [position_stirred, position_stirred]
    have others (place : Nat) (positive : place ≠ 0) :
        (Nat.repeat settle 623 (stirred (addend key) 624)).wordAt place =
          (Nat.repeat settle 623 (stirred (addend key') 624)).wordAt place := by
      have words := getD_words_ofKey key' place
      rw [← same, getD_words_ofKey, if_neg positive, if_neg positive, rounds, rounds'] at words
      exact words
    -- The first word was overwritten; it was the same as the last.
    refine eq_of_settles closed closed' position 623 ?_
    refine (closed.settles 623).toSound.ext (closed'.settles 623).toSound
      (position_settles closed closed' position 623) fun place _ => ?_
    by_cases first : place = 0
    · rw [first, (closed.settles 623).closed, (closed'.settles 623).closed, others 623 (by decide)]
    · exact others place first
  · intro same
    rw [ofKey_eq, ofKey_eq, rounds, rounds', same]

theorem used_ofSeed (seed : Int) : (ofSeed seed).used = size := used_ofKey (keyWords seed.natAbs)

theorem size_words_ofSeed (seed : Int) : (ofSeed seed).words.size = size :=
  size_words_ofKey (keyWords seed.natAbs)

/-- The first word of a generator says nothing. -/
theorem first_ofSeed (seed : Int) : (ofSeed seed).words.getD 0 0 = 0x80000000 := by
  rw [ofSeed, getD_words_ofKey, if_pos rfl]

/-- Seeds of up to 622 words have the same generator if and only if they are of the same size, provided
that they have as many words or that their sizes are less than a word apart. -/
theorem ofSeed_eq_iff {seed seed' : Int} (short : (keyWords seed.natAbs).length ≤ 622)
    (short' : (keyWords seed'.natAbs).length ≤ 622)
    (near : (keyWords seed.natAbs).length = (keyWords seed'.natAbs).length ∨
      (seed.natAbs < seed'.natAbs + wordCount ∧ seed'.natAbs < seed.natAbs + wordCount)) :
    ofSeed seed = ofSeed seed' ↔ seed.natAbs = seed'.natAbs := by
  refine ⟨fun same => ?_, fun same => by rw [ofSeed, ofSeed, same]⟩
  have stirs := (ofKey_eq_iff (Nat.le_trans short (by decide)) (Nat.le_trans short' (by decide))).1 same
  have known (place : Nat) (second : 2 ≤ place) (inside : place ≤ 622) :=
    addend_eq_of_stirred stirs second inside
  have length : (keyWords seed.natAbs).length = (keyWords seed'.natAbs).length := by
    rcases near with length | ⟨near, near'⟩
    · exact length
    rcases Nat.lt_trichotomy seed.natAbs seed'.natAbs with order | same | order
    · exact length_keyWords_eq_of_near order near' short' known
    · rw [same]
    · exact (length_keyWords_eq_of_near order near short
        fun place second inside => (known place second inside).symm).symm
  exact keyWords_injective (key_eq_of_stirred length (length_keyWords_pos _) short stirs)

theorem ofSeed_doubled {word : Nat} (least : 2 ≤ word) (inside : word < wordCount) :
    ofSeed word = ofSeed (word + (word - 1) * wordCount : Nat) := by
  obtain ⟨length, length'⟩ := length_keyWords_doubled least inside
  rw [ofSeed, ofSeed, Int.natAbs_natCast, Int.natAbs_natCast,
    ofKey_eq_iff (by rw [length]; decide) (by rw [length']; decide), addend_doubled least inside]

end Twister

end Colloquy.Random
