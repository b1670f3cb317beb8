import Colloquy.Random.Twister
import Mathlib

/-!
# Words under exclusive or

The generator changes words by shifts, masks and exclusive or, and all of these respect exclusive or
themselves. So the difference of two runs of the generator goes the way that a run goes. A tempered
word can be untempered again, and a word that the generator turns into nothing is nothing itself.
-/

set_option autoImplicit false

namespace Colloquy.Random

theorem and_xor (left right bits : UInt32) :
    (left ^^^ right) &&& bits = (left &&& bits) ^^^ (right &&& bits) := by
  refine UInt32.toBitVec_inj.1 ?_
  ext place inside
  simp [Bool.and_xor_distrib_right]

/-- A change of words that respects exclusive or. -/
def Linear (change : UInt32 → UInt32) : Prop :=
  ∀ left right, change (left ^^^ right) = change left ^^^ change right

namespace Linear

variable {change other : UInt32 → UInt32}

theorem id : Linear fun word => word := fun _ _ => rfl

theorem comp (outer : Linear other) (inner : Linear change) :
    Linear fun word => other (change word) := fun left right =>
  (congrArg other (inner left right)).trans (outer _ _)

theorem xor (linear : Linear change) (linear' : Linear other) :
    Linear fun word => change word ^^^ other word := fun left right => by
  dsimp only
  rw [linear, linear']
  ac_rfl

theorem shiftRight (places : UInt32) : Linear fun word => word >>> places :=
  fun _ _ => UInt32.shiftRight_xor

theorem shiftLeft (places : UInt32) : Linear fun word => word <<< places :=
  fun _ _ => UInt32.shiftLeft_xor

theorem mask (bits : UInt32) : Linear fun word => word &&& bits := fun _ _ => and_xor ..

theorem zero (linear : Linear change) : change 0 = 0 := by
  have twice := linear 0 0
  rwa [UInt32.xor_self, UInt32.xor_self] at twice

/-- A linear change is fixed by what it does to single bits. -/
theorem eq_of_bits (linear : Linear change) (linear' : Linear other)
    (bits : ∀ place < 32, change (1 <<< UInt32.ofNat place) = other (1 <<< UInt32.ofNat place))
    (word : UInt32) : change word = other word := by
  have below (size : Nat) (inside : size ≤ 32) :
      ∀ word : UInt32, word.toNat < 2 ^ size → change word = other word := by
    induction size with
    | zero =>
        intro word small
        obtain rfl : word = 0 := UInt32.toNat_inj.1 (by simpa using small)
        rw [linear.zero, linear'.zero]
    | succ size ih =>
        intro word small
        by_cases lower : word.toNat < 2 ^ size
        · exact ih (by omega) word lower
        · -- Without its highest bit the word is one of fewer bits.
          let bit : UInt32 := 1 <<< UInt32.ofNat size
          have value : bit.toNat = 2 ^ size := by
            rw [UInt32.toNat_shiftLeft, UInt32.toNat_ofNat_of_lt' (lt_trans inside (by decide)),
              Nat.mod_eq_of_lt inside]
            show 1 <<< size % 2 ^ 32 = 2 ^ size
            rw [Nat.one_shiftLeft, Nat.mod_eq_of_lt (Nat.pow_lt_pow_right (by omega) inside)]
          have high : word.toNat / 2 ^ size = 1 := by
            rw [pow_succ] at small
            exact Nat.div_eq_of_lt_le (by omega) (by omega)
          have rest : (word ^^^ bit).toNat < 2 ^ size := by
            refine Nat.lt_of_div_eq_zero (by positivity) ?_
            rw [UInt32.toNat_xor, value, Nat.xor_div_two_pow, high, Nat.div_self (by positivity),
              Nat.xor_self]
          have split : word = word ^^^ bit ^^^ bit := by
            rw [UInt32.xor_assoc, UInt32.xor_self, UInt32.xor_zero]
          rw [split, linear, linear', ih (by omega) _ rest, bits size (by omega)]
  exact below 32 (by omega) word word.toNat_lt

end Linear

/-! ## Tempering -/

theorem linear_temper : Linear Twister.temper := by
  have first : Linear fun word : UInt32 => word ^^^ (word >>> 11) := .xor .id (.shiftRight 11)
  have second : Linear fun word : UInt32 => word ^^^ ((word <<< 7) &&& 0x9d2c5680) :=
    .xor .id ((Linear.mask _).comp (.shiftLeft 7))
  have third : Linear fun word : UInt32 => word ^^^ ((word <<< 15) &&& 0xefc60000) :=
    .xor .id ((Linear.mask _).comp (.shiftLeft 15))
  have fourth : Linear fun word : UInt32 => word ^^^ (word >>> 18) := .xor .id (.shiftRight 18)
  exact fourth.comp (third.comp (second.comp first))

/-- What the second step of tempering adds to a word. -/
def folded (word : UInt32) : UInt32 := (word <<< 7) &&& 0x9d2c5680

/-- The steps of tempering, undone from the last to the first. -/
def untemper (word : UInt32) : UInt32 :=
  let word := word ^^^ (word >>> 18)
  let word := word ^^^ ((word <<< 15) &&& 0xefc60000)
  let word := word ^^^ folded (word ^^^ folded (word ^^^ folded (word ^^^ folded word)))
  word ^^^ (word >>> 11) ^^^ (word >>> 22)

theorem linear_untemper : Linear untemper := by
  have first : Linear fun word : UInt32 => word ^^^ (word >>> 18) := .xor .id (.shiftRight 18)
  have second : Linear fun word : UInt32 => word ^^^ ((word <<< 15) &&& 0xefc60000) :=
    .xor .id ((Linear.mask _).comp (.shiftLeft 15))
  have bits : Linear folded := (Linear.mask _).comp (.shiftLeft 7)
  have third : Linear fun word : UInt32 =>
      word ^^^ folded (word ^^^ folded (word ^^^ folded (word ^^^ folded word))) :=
    .xor .id (bits.comp (.xor .id (bits.comp (.xor .id (bits.comp (.xor .id bits))))))
  have fourth : Linear fun word : UInt32 => word ^^^ (word >>> 11) ^^^ (word >>> 22) :=
    .xor (.xor .id (.shiftRight 11)) (.shiftRight 22)
  exact fourth.comp (third.comp (second.comp first))

theorem untemper_temper (word : UInt32) : untemper (Twister.temper word) = word :=
  (linear_untemper.comp linear_temper).eq_of_bits .id (by decide +kernel) word

/-! ## Turning -/

/-- The highest bit of a word before the lower bits of the next. -/
def joined (word next : UInt32) : UInt32 := (word &&& 0x80000000) ||| (next &&& 0x7fffffff)

/-- A joined word as it is added to the state. -/
def shifted (word : UInt32) : UInt32 :=
  (word >>> 1) ^^^ (if word &&& 1 = 1 then 0x9908b0df else 0)

def turned (word next : UInt32) : UInt32 := shifted (joined word next)

theorem joined_eq_xor (word next : UInt32) :
    joined word next = (word &&& 0x80000000) ^^^ (next &&& 0x7fffffff) := by
  have lower : (0x7fffffff : UInt32) = ~~~0x80000000 := by decide
  unfold joined
  rw [lower]
  refine UInt32.toBitVec_inj.1 ?_
  ext place inside
  simp only [UInt32.toBitVec_or, UInt32.toBitVec_xor, UInt32.toBitVec_and, UInt32.toBitVec_not,
    BitVec.getElem_or, BitVec.getElem_xor, BitVec.getElem_and, BitVec.getElem_not]
  generalize (UInt32.toBitVec 0x80000000)[place] = bit
  cases bit <;> simp

theorem joined_xor (word word' next next' : UInt32) :
    joined (word ^^^ word') (next ^^^ next') = joined word next ^^^ joined word' next' := by
  simp only [joined_eq_xor, and_xor]
  ac_rfl

theorem joined_self (word : UInt32) : joined word word = word := by
  have lower : (0x7fffffff : UInt32) = ~~~0x80000000 := by decide
  unfold joined
  rw [lower]
  refine UInt32.toBitVec_inj.1 ?_
  ext place inside
  simp only [UInt32.toBitVec_or, UInt32.toBitVec_and, UInt32.toBitVec_not, BitVec.getElem_or,
    BitVec.getElem_and, BitVec.getElem_not]
  generalize (UInt32.toBitVec 0x80000000)[place] = bit
  cases bit <;> simp

theorem joined_eq_zero {word next : UInt32} :
    joined word next = 0 ↔ word &&& 0x80000000 = 0 ∧ next &&& 0x7fffffff = 0 :=
  UInt32.or_eq_zero_iff

theorem toNat_and_one (word : UInt32) : (word &&& 1).toNat = word.toNat % 2 := by
  rw [UInt32.toNat_and]
  exact Nat.and_one_is_mod _

theorem and_one_cases (word : UInt32) : word &&& 1 = 0 ∨ word &&& 1 = 1 := by
  have bit := toNat_and_one word
  rcases Nat.mod_two_eq_zero_or_one word.toNat with even | odd
  · exact .inl (UInt32.toNat_inj.1 (bit.trans even))
  · exact .inr (UInt32.toNat_inj.1 (bit.trans odd))

theorem linear_shifted : Linear shifted := by
  have added : Linear fun word => if word &&& 1 = 1 then 0x9908b0df else 0 := by
    intro left right
    dsimp only
    rw [and_xor]
    rcases and_one_cases left with even | odd <;> rcases and_one_cases right with even' | odd' <;>
      simp [*]
  exact .xor (.shiftRight 1) added

theorem turned_xor (word word' next next' : UInt32) :
    turned (word ^^^ word') (next ^^^ next') = turned word next ^^^ turned word' next' := by
  unfold turned
  rw [joined_xor, linear_shifted]

theorem shifted_eq_zero {word : UInt32} (nothing : shifted word = 0) : word = 0 := by
  have halved : (word >>> 1).toNat = word.toNat / 2 := by
    rw [UInt32.toNat_shiftRight]
    exact Nat.shiftRight_one _
  have below := word.toNat_lt
  have bit := toNat_and_one word
  unfold shifted at nothing
  rcases and_one_cases word with even | odd
  · rw [even, if_neg (by decide), UInt32.xor_zero] at nothing
    rw [nothing] at halved
    rw [even] at bit
    refine UInt32.toNat_inj.1 ?_
    show word.toNat = 0
    change 0 = _ at halved bit
    omega
  · -- A word that is moved down has no highest bit, but what is added then has one.
    rw [odd, if_pos rfl, UInt32.xor_eq_zero_iff] at nothing
    rw [nothing] at halved
    change 2567483615 = _ at halved
    omega

theorem turned_eq_zero {word next : UInt32} (nothing : turned word next = 0) :
    word &&& 0x80000000 = 0 ∧ next &&& 0x7fffffff = 0 :=
  joined_eq_zero.1 (shifted_eq_zero nothing)

theorem eq_zero_of_parts {word : UInt32} (high : word &&& 0x80000000 = 0)
    (low : word &&& 0x7fffffff = 0) : word = 0 := by
  rw [← joined_self word]
  exact joined_eq_zero.2 ⟨high, low⟩

end Colloquy.Random
