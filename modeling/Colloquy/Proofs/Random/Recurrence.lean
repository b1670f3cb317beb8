import Colloquy.Random.Stream
import Colloquy.Proofs.Random.Words
import Colloquy.Proofs.Number.Doubles

/-!
# The sequence of words

Block after block, the words of a generator are one sequence, in which each word comes from three that
stand before it. A seeded stream walks along this sequence and makes a double of two words at a time,
which tells all but the lowest six bits of both.

Still two sequences that show the same from some place on are the same: their difference is a sequence as
well, all of whose words are hidden, and a hidden word cannot be turned into another one unless it is
nothing.
-/

set_option autoImplicit false

namespace Colloquy.Random

/-- A sequence of words, each of which comes from three earlier ones. -/
def Recurs (words : Nat → UInt32) : Prop :=
  ∀ place, words (place + 624) = words (place + 397) ^^^ turned (words place) (words (place + 1))

namespace Twister

/-- A block in which the word at a place has been replaced by its successor. -/
def turnAt (words : Array UInt32) (place : Nat) : Array UInt32 :=
  words.setIfInBounds place (words.getD ((place + 397) % size) 0 ^^^
    turned (words.getD place 0) (words.getD ((place + 1) % size) 0))

/-- A block in which a number of words have been replaced, from the first on. -/
def turnedTo (words : Array UInt32) (count : Nat) : Array UInt32 :=
  (List.range count).foldl turnAt words

theorem twist_eq_turnedTo (words : Array UInt32) : twist words = turnedTo words size := by
  unfold twist turnedTo
  congr 1
  funext words place
  dsimp only [turnAt, turned, shifted, joined]
  rw [UInt32.xor_assoc]
  rfl

variable {words : Array UInt32}

theorem turnedTo_succ (words : Array UInt32) (count : Nat) :
    turnedTo words (count + 1) = turnAt (turnedTo words count) count := by
  rw [turnedTo, List.range_succ, List.foldl_append]
  rfl

@[simp]
theorem size_turnAt (words : Array UInt32) (place : Nat) :
    (turnAt words place).size = words.size :=
  Array.size_setIfInBounds

@[simp]
theorem size_turnedTo (words : Array UInt32) (count : Nat) :
    (turnedTo words count).size = words.size := by
  induction count with
  | zero => rfl
  | succ count ih => rw [turnedTo_succ, size_turnAt, ih]

@[simp]
theorem size_twist (words : Array UInt32) : (twist words).size = words.size := by
  rw [twist_eq_turnedTo, size_turnedTo]

theorem getD_turnAt_of_ne {place other : Nat} (differ : place ≠ other) :
    (turnAt words place).getD other 0 = words.getD other 0 := by
  simp only [turnAt, Array.getD_eq_getD_getElem?, Array.getElem?_setIfInBounds_ne differ]

theorem getD_turnAt_self {place : Nat} (inside : place < words.size) :
    (turnAt words place).getD place 0 = words.getD ((place + 397) % size) 0 ^^^
      turned (words.getD place 0) (words.getD ((place + 1) % size) 0) := by
  rw [turnAt, Array.getD_eq_getD_getElem?, Array.getElem?_setIfInBounds_self_of_lt inside,
    Option.getD_some]

theorem getD_turnedTo_of_le {count place : Nat} (later : count ≤ place) :
    (turnedTo words count).getD place 0 = words.getD place 0 := by
  induction count with
  | zero => rfl
  | succ count ih => rw [turnedTo_succ, getD_turnAt_of_ne (by omega), ih (by omega)]

theorem getD_turnedTo_of_lt {count place : Nat} (earlier : place < count) (inside : count ≤ size) :
    (turnedTo words count).getD place 0 = (twist words).getD place 0 := by
  have kept (more : Nat) : (turnedTo words (place + 1 + more)).getD place 0 =
      (turnedTo words (place + 1)).getD place 0 := by
    induction more with
    | zero => rfl
    | succ more ih => rw [← Nat.add_assoc, turnedTo_succ, getD_turnAt_of_ne (by omega), ih]
  have here := kept (count - (place + 1))
  have last := kept (size - (place + 1))
  rw [show place + 1 + (count - (place + 1)) = count by omega] at here
  rw [show place + 1 + (size - (place + 1)) = size by omega] at last
  rw [here, twist_eq_turnedTo, last]

/-- Each word of the next block comes from two words of this one and a far word, which is one of the
next block if this one is at its end. -/
theorem getD_twist (whole : words.size = size) {place : Nat} (inside : place < size) :
    (twist words).getD place 0 =
      (if place + 397 < size then words.getD (place + 397) 0
        else (twist words).getD (place + 397 - size) 0) ^^^
      turned (words.getD place 0)
        (if place + 1 < size then words.getD (place + 1) 0
          else (twist words).getD (place + 1 - size) 0) := by
  have wraps {other : Nat} (later : place < other) (near : other ≤ place + 397) :
      (turnedTo words place).getD (other % size) 0 =
        if other < size then words.getD other 0 else (twist words).getD (other - size) 0 := by
    have least : size = 624 := rfl
    split
    next early => rw [Nat.mod_eq_of_lt early, getD_turnedTo_of_le (Nat.le_of_lt later)]
    next late =>
      rw [Nat.mod_eq_sub_mod (Nat.not_lt.1 late), Nat.mod_eq_of_lt (by omega),
        getD_turnedTo_of_lt (by omega) (Nat.le_of_lt inside)]
  rw [← getD_turnedTo_of_lt (Nat.lt_succ_self place) inside, turnedTo_succ,
    getD_turnAt_self (by rwa [size_turnedTo, whole]), wraps (by omega) (by omega),
    wraps (by omega) (by omega), getD_turnedTo_of_le (Nat.le_refl _)]

/-- The words of all blocks that follow one, block after block. -/
def sequence (words : Array UInt32) (place : Nat) : UInt32 :=
  (twist^[place / size] words).getD (place % size) 0

theorem sequence_block (words : Array UInt32) (block : Nat) {place : Nat} (inside : place < size) :
    sequence words (size * block + place) = (twist^[block] words).getD place 0 := by
  have positive : 0 < size := by decide
  rw [sequence, Nat.mul_add_div positive, Nat.div_eq_of_lt inside, Nat.add_zero,
    Nat.mul_add_mod, Nat.mod_eq_of_lt inside]

theorem size_iterate_twist (words : Array UInt32) (block : Nat) :
    (twist^[block] words).size = words.size := by
  induction block with
  | zero => rfl
  | succ block ih => rw [Function.iterate_succ_apply', size_twist, ih]

theorem recurs_sequence (whole : words.size = size) : Recurs (sequence words) := by
  intro place
  obtain ⟨block, offset, inside, rfl⟩ : ∃ block offset, offset < size ∧ place = size * block + offset :=
    ⟨place / size, place % size, Nat.mod_lt _ (by decide), (Nat.div_add_mod ..).symm⟩
  have next {other : Nat} (bounded : other < size + size) :
      sequence words (size * block + other) =
        if other < size then (twist^[block] words).getD other 0
        else (twist (twist^[block] words)).getD (other - size) 0 := by
    split
    next early => exact sequence_block words block early
    next late =>
      rw [← Function.iterate_succ_apply' twist, ← sequence_block words (block + 1) (by omega)]
      rw [Nat.mul_succ, Nat.add_assoc, Nat.add_sub_cancel' (Nat.not_lt.1 late)]
  have turn := getD_twist ((size_iterate_twist words block).trans whole) inside
  have least : size = 624 := rfl
  rw [Nat.add_assoc, Nat.add_assoc, Nat.add_assoc, next (by omega), next (by omega), next (by omega),
    next (by omega), if_neg (by omega), if_pos inside, show offset + 624 - size = offset by omega]
  exact turn

/-- A generator that is about to give the word at a place of the sequence. -/
def StandsAt (words : Array UInt32) (place : Nat) (twister : Twister) : Prop :=
  ∃ block used, used ≤ size ∧ twister = ⟨twist^[block] words, used⟩ ∧ place = size * block + used

theorem StandsAt.nextWord {place : Nat} {twister : Twister} (stands : StandsAt words place twister) :
    twister.nextWord.1 = temper (sequence words place) ∧
      StandsAt words (place + 1) twister.nextWord.2 := by
  obtain ⟨block, used, inside, rfl, rfl⟩ := stands
  unfold Twister.nextWord
  dsimp only
  split
  next early => exact ⟨by rw [sequence_block words block early], block, used + 1, early, rfl, rfl⟩
  next late =>
    obtain rfl : used = size := Nat.le_antisymm inside (Nat.not_lt.1 late)
    have first := sequence_block words (block + 1) (show 0 < size by decide)
    rw [Nat.mul_succ, Nat.add_zero, Function.iterate_succ_apply'] at first
    refine ⟨by rw [first], block + 1, 1, by decide, ?_, ?_⟩
    · rw [Function.iterate_succ_apply']
    · rw [Nat.mul_succ]

/-- The double that two words make. -/
def fraction (first second : UInt32) : Float :=
  ((first >>> 5).toUInt64 * (67108864 : UInt64) + (second >>> 6).toUInt64).toFloat *
    (1.0 / 9007199254740992.0)

theorem StandsAt.nextDouble {place : Nat} {twister : Twister}
    (stands : StandsAt words place twister) :
    twister.nextDouble.1 =
        fraction (temper (sequence words place)) (temper (sequence words (place + 1))) ∧
      StandsAt words (place + 2) twister.nextDouble.2 := by
  obtain ⟨first, stands⟩ := stands.nextWord
  obtain ⟨second, stands⟩ := stands.nextWord
  refine ⟨?_, stands⟩
  rw [← first, ← second]
  rfl

theorem toNat_numerator (first second : UInt32) :
    ((first >>> 5).toUInt64 * (67108864 : UInt64) + (second >>> 6).toUInt64).toNat =
      first.toNat / 32 * 67108864 + second.toNat / 64 := by
  have below := first.toNat_lt
  have below' := second.toNat_lt
  have high : (first >>> 5).toUInt64.toNat = first.toNat / 32 := by
    rw [UInt32.toNat_toUInt64, UInt32.toNat_shiftRight]
    exact Nat.shiftRight_eq_div_pow _ 5
  have low : (second >>> 6).toUInt64.toNat = second.toNat / 64 := by
    rw [UInt32.toNat_toUInt64, UInt32.toNat_shiftRight]
    exact Nat.shiftRight_eq_div_pow _ 6
  have scale : (67108864 : UInt64).toNat = 67108864 := rfl
  rw [UInt64.toNat_add, UInt64.toNat_mul, high, low, scale]
  omega

/-- A double tells the higher bits of both words. -/
theorem fraction_injective {first second first' second' : UInt32}
    (same : fraction first second = fraction first' second') :
    first >>> 6 = first' >>> 6 ∧ second >>> 6 = second' >>> 6 := by
  have below := first.toNat_lt
  have below' := second.toNat_lt
  have below'' := first'.toNat_lt
  have below''' := second'.toNat_lt
  have numerators := congrArg UInt64.toNat (Number.fraction_injective
    (by rw [toNat_numerator]; omega) (by rw [toNat_numerator]; omega) same)
  rw [toNat_numerator, toNat_numerator] at numerators
  have high (word : UInt32) : (word >>> 6).toNat = word.toNat / 64 := by
    rw [UInt32.toNat_shiftRight]
    exact Nat.shiftRight_eq_div_pow _ 6
  constructor
  · refine UInt32.toNat_inj.1 ?_
    rw [high, high]
    omega
  · refine UInt32.toNat_inj.1 ?_
    rw [high, high]
    omega

end Twister

/-- The value that a stream gives after a number of others. -/
def Stream.nth (stream : Stream) : Nat → Float
  | 0 => stream.next.1
  | before + 1 => stream.next.2.nth before

theorem Stream.nth_of_standsAt {words : Array UInt32} {place : Nat} {stream : Stream} {seed : Int}
    (seeded : stream.source = .seeded seed) (stands : Twister.StandsAt words place stream.twister)
    (before : Nat) :
    stream.nth before = Twister.fraction (Twister.temper (Twister.sequence words (place + 2 * before)))
      (Twister.temper (Twister.sequence words (place + 2 * before + 1))) := by
  induction before generalizing stream place with
  | zero =>
      rw [Stream.nth, Stream.next, seeded]
      exact stands.nextDouble.1
  | succ before ih =>
      have after : stream.next.2.twister = stream.twister.nextDouble.2 := by
        rw [Stream.next, seeded]
      rw [Stream.nth, ih (by rw [Stream.source_next, seeded]) (after ▸ stands.nextDouble.2)]
      congr 3 <;> omega

/-! ## What doubles tell about words -/

open Twister (temper sequence)

theorem Recurs.xor {words words' : Nat → UInt32} (recurs : Recurs words) (recurs' : Recurs words') :
    Recurs fun place => words place ^^^ words' place := fun place => by
  dsimp only
  rw [recurs, recurs', turned_xor]
  ac_rfl

/-- A word is hidden if the bits that doubles show of it are all zero. -/
def Hidden (word : UInt32) : Prop := temper word >>> 6 = 0

theorem Hidden.xor {word word' : UInt32} (hidden : Hidden word) (hidden' : Hidden word') :
    Hidden (word ^^^ word') := by
  unfold Hidden at *
  rw [linear_temper, UInt32.shiftRight_xor, hidden, hidden', UInt32.xor_self]

theorem Hidden.exists_untemper {word : UInt32} (hidden : Hidden word) :
    ∃ low < 64, word = untemper (UInt32.ofNat low) := by
  refine ⟨(temper word).toNat, ?_, by rw [UInt32.ofNat_toNat, untemper_temper]⟩
  have high : (temper word >>> 6).toNat = (temper word).toNat / 64 := by
    rw [UInt32.toNat_shiftRight]
    exact Nat.shiftRight_eq_div_pow _ 6
  rw [hidden] at high
  change 0 = _ at high
  omega

theorem turned_and (word next : UInt32) : turned (word &&& 0x80000000) next = turned word next := by
  rw [turned, turned, joined, joined, UInt32.and_assoc, UInt32.and_self]

theorem and_highest_cases (word : UInt32) :
    ∃ high : Bool, word &&& 0x80000000 = if high then 0x80000000 else 0 := by
  have bit : (word &&& 0x80000000).toNat = (word.toNat.testBit 31).toNat * 2 ^ 31 := by
    rw [UInt32.toNat_and]
    exact Nat.and_two_pow word.toNat 31
  refine ⟨word.toNat.testBit 31, UInt32.toNat_inj.1 ?_⟩
  rw [bit]
  cases word.toNat.testBit 31 <;> rfl

/-- What is turned into a hidden word is nothing, if the rest of it was hidden before. -/
theorem Hidden.of_turned {word next : UInt32} (hidden : Hidden next)
    (turns : Hidden (turned word next)) : word &&& 0x80000000 = 0 ∧ next = 0 := by
  -- There are 64 hidden words, and none of them but zero is turned into another.
  have checked : ∀ low < 64, ∀ high : Bool,
      temper (turned (if high then 0x80000000 else 0) (untemper (UInt32.ofNat low))) >>> 6 = 0 →
        high = false ∧ low = 0 := by decide +kernel
  obtain ⟨low, small, rfl⟩ := hidden.exists_untemper
  obtain ⟨high, bit⟩ := and_highest_cases word
  rw [← turned_and, bit] at turns
  obtain ⟨rfl, rfl⟩ := checked low small high turns
  exact ⟨bit, by decide⟩

namespace Recurs

variable {words words' : Nat → UInt32}

theorem eq_zero_of_hidden_later (recurs : Recurs words)
    (hidden : ∀ place, 624 ≤ place → Hidden (words place)) {place : Nat} (later : 625 ≤ place) :
    words place = 0 := by
  obtain ⟨before, rfl⟩ : ∃ before, place = before + 1 := ⟨place - 1, by omega⟩
  have turned : turned (words before) (words (before + 1)) =
      words (before + 624) ^^^ words (before + 397) := by
    rw [recurs before, UInt32.xor_comm, ← UInt32.xor_assoc, UInt32.xor_self, UInt32.zero_xor]
  refine (Hidden.of_turned (hidden (before + 1) (by omega))
    (?_ : Hidden (Random.turned (words before) _))).2
  rw [turned]
  exact (hidden _ (by omega)).xor (hidden _ (by omega))

theorem turned_eq_zero (recurs : Recurs words) (place : Nat)
    (far : words (place + 624) = 0) (near : words (place + 397) = 0) :
    turned (words place) (words (place + 1)) = 0 := by
  have step := recurs place
  rwa [far, near, UInt32.zero_xor, eq_comm] at step

/-- A sequence of words that are hidden from some place on is nothing from its second word on; of its
first word the highest bit is nothing. -/
theorem eq_zero_of_hidden (recurs : Recurs words)
    (hidden : ∀ place, 624 ≤ place → Hidden (words place)) :
    words 0 &&& 0x80000000 = 0 ∧ ∀ place, 1 ≤ place → words place = 0 := by
  -- The sequence is followed backwards: three words that are nothing leave nothing before them.
  have back (steps : Nat) : ∀ place, 1 ≤ place → 625 ≤ place + steps → words place = 0 := by
    induction steps with
    | zero => exact fun place _ late => recurs.eq_zero_of_hidden_later hidden late
    | succ steps ih =>
        intro place positive late
        obtain ⟨before, rfl⟩ : ∃ before, place = before + 1 := ⟨place - 1, by omega⟩
        have low := recurs.turned_eq_zero before (ih _ (by omega) (by omega))
          (ih _ (by omega) (by omega))
        have high := recurs.turned_eq_zero (before + 1) (ih _ (by omega) (by omega))
          (ih _ (by omega) (by omega))
        exact eq_zero_of_parts (Random.turned_eq_zero high).1 (Random.turned_eq_zero low).2
  have all (place : Nat) (positive : 1 ≤ place) : words place = 0 :=
    back 625 place positive (by omega)
  exact ⟨(Random.turned_eq_zero
    (recurs.turned_eq_zero 0 (all _ (by omega)) (all _ (by omega)))).1, all⟩

/-- Two sequences that show the same from some place on are the same from their second word on. -/
theorem eq_of_shown (recurs : Recurs words) (recurs' : Recurs words')
    (same : ∀ place, 624 ≤ place → temper (words place) >>> 6 = temper (words' place) >>> 6) :
    words 0 &&& 0x80000000 = words' 0 &&& 0x80000000 ∧
      ∀ place, 1 ≤ place → words place = words' place := by
  have hidden (place : Nat) (late : 624 ≤ place) : Hidden (words place ^^^ words' place) := by
    rw [Hidden, linear_temper, UInt32.shiftRight_xor, same place late, UInt32.xor_self]
  obtain ⟨first, others⟩ := (recurs.xor recurs').eq_zero_of_hidden hidden
  rw [and_xor] at first
  exact ⟨UInt32.xor_eq_zero_iff.1 first, fun place positive =>
    UInt32.xor_eq_zero_iff.1 (others place positive)⟩

end Recurs

end Colloquy.Random
