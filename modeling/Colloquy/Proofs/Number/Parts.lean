import Colloquy.Proofs.Number.Doubles

/-!
# Parts of a count

A double from zero to one times the double that stands for a count is finite and not below zero, so
that it has an integer part.
-/

set_option autoImplicit false

namespace Colloquy.Number

open Float.Model (UnpackedFloat Format totalExponent)
open Float.Model.UnpackedFloat (Sign ExtendedMantissa unpackSign unpackExponent unpackMantissa
  packComponents roundWithAccuracy shiftToTargetExponent)

/-- A double that is not below zero and has an exponent of at most a limit. -/
def IsModest (limit : Int) : UnpackedFloat → Prop
  | .zero _ => True
  | .finite sign _ exponent _ => sign = .positive ∧ exponent ≤ limit
  | _ => False

theorem IsModest.isFinite {limit : Int} {value : UnpackedFloat} (modest : IsModest limit value) :
    value.isFinite = true := by
  cases value <;> first | exact modest.elim | rfl

section Packing

variable {limit : Int}

theorem isModest_unpack {bits : Bits} (sign : unpackSign bits = 0#1)
    (exponent : (unpackExponent bits).toNat ≤ limit + 1075) (lower : -1074 ≤ limit)
    (upper : limit ≤ 970) : IsModest limit (UnpackedFloat.unpack .binary64 bits) := by
  simp only [UnpackedFloat.unpack, sign, eq_full_iff, eq_zero_iff]
  have bias : (Format.binary64.exponentBias : Int) + ((52 : Nat) : Int) = 1075 := rfl
  have full : twoTo 11 = 2048 := rfl
  have positive : Sign.ofBitVec 0#1 = .positive := rfl
  rw [bias, positive, full]
  split_ifs with infinite zero tiny zero
  · omega
  · omega
  · trivial
  · exact ⟨rfl, by omega⟩
  · exact ⟨rfl, by omega⟩

theorem isModest_pack {value : UnpackedFloat} (modest : IsModest limit value) (lower : -1074 ≤ limit)
    (upper : limit ≤ 970) : IsModest limit (Float.Model.pack value).unpack := by
  show IsModest limit (UnpackedFloat.unpack .binary64 (UnpackedFloat.pack .binary64 value))
  rcases value with _ | _ | sign | ⟨sign, significand, exponent, nonzero⟩
  · exact modest.elim
  · exact modest.elim
  · cases sign <;> trivial
  obtain ⟨rfl, small⟩ := modest
  -- the exponent stays below the greatest one, which would be an infinity
  have bias : (Format.binary64.exponentBias : Int) + ((52 : Nat) : Int) = 1075 := rfl
  have biased : (exponent + (Format.binary64.exponentBias : Int) + ((52 : Nat) : Int)).toNat ≤
      limit + 1075 := by omega
  simp only [UnpackedFloat.pack]
  rw [if_neg (by omega)]
  split
  · refine isModest_unpack (by simp [Sign.toBitVec]) ?_ lower upper
    simp only [Float.Model.UnpackedFloat.unpackExponent_packComponents, BitVec.toNat_ofNat]
    exact (Int.ofNat_le.2 (Nat.mod_le _ _)).trans biased
  · refine isModest_unpack (by simp [Sign.toBitVec]) ?_ lower upper
    simp only [Float.Model.UnpackedFloat.unpackExponent_packComponents, BitVec.toNat_ofNat]
    omega

end Packing

section Rounding

theorem mantissa_shift_le (mantissa : ExtendedMantissa) (amount : Nat) :
    (mantissa >>> amount).mantissa ≤ mantissa.mantissa := by
  show (amount.repeat ExtendedMantissa.shiftRightOne mantissa).mantissa ≤ _
  induction amount with
  | zero => exact le_rfl
  | succ amount ih => exact (Nat.div_le_self _ 2).trans ih

theorem roundedMantissa_le (mantissa : ExtendedMantissa) :
    mantissa.roundedMantissa ≤ mantissa.mantissa + 1 := by
  obtain ⟨significand, roundBit, stickyBit⟩ := mantissa
  have parity := Nat.mod_lt significand Nat.two_pos
  cases roundBit <;> cases stickyBit <;>
    simp [ExtendedMantissa.roundedMantissa, ExtendedMantissa.accuracy,
      Float.Model.UnpackedFloat.Accuracy.roundToNearestEven]
  omega

theorem log2_lt {number size : Nat} (positive : 0 < size) (small : number < 2 ^ size) :
    number.log2 < size := by
  by_cases zero : number = 0
  · rw [zero, Nat.log2_zero]
    exact positive
  · exact (Nat.log2_lt zero).2 small

/-- Rounding raises the exponent only by as many bits as the significand has too many. -/
theorem isModest_round {significand : Nat} {exponent limit : Int} (small : significand < 2 ^ 106)
    (upper : exponent ≤ limit) (nonneg : 0 ≤ limit) :
    IsModest (limit + 120) (roundWithAccuracy .binary64 .positive significand exponent .exact) := by
  have shifted (mantissa : Nat) (exponent : Int) :
      (shiftToTargetExponent .binary64 mantissa exponent .exact).2 =
        exponent + (max ((mantissa.log2 : Int) + 1 + exponent - 53) (-1074) - exponent).toNat := rfl
  unfold roundWithAccuracy
  generalize first : shiftToTargetExponent .binary64 significand exponent .exact = once
  have exponent_once := shifted significand exponent
  rw [first] at exponent_once
  have rounded_small : once.1.roundedMantissa < 2 ^ 107 := by
    have bound := roundedMantissa_le once.1
    have shrinks : once.1.mantissa ≤ significand := by
      rw [← first]
      exact mantissa_shift_le _ _
    omega
  dsimp only
  split
  · trivial
  · refine ⟨rfl, ?_⟩
    rw [shifted]
    have bits := log2_lt (by omega) small
    have rounded_bits := log2_lt (by omega) rounded_small
    omega

theorem isModest_mul {left right : UnpackedFloat} {limit limit' : Int} (canonical : IsCanonical left)
    (canonical' : IsCanonical right) (modest : IsModest limit left) (modest' : IsModest limit' right)
    (nonneg : 0 ≤ limit) (nonneg' : 0 ≤ limit') :
    IsModest (limit + limit' + 120) (UnpackedFloat.mul .binary64 left right) := by
  rcases left with _ | _ | sign | ⟨sign, significand, exponent, nonzero⟩
  · exact modest.elim
  · exact modest.elim
  · rcases right with _ | _ | sign' | ⟨sign', significand', exponent', nonzero'⟩
    · exact modest'.elim
    · exact modest'.elim
    · trivial
    · trivial
  · rcases right with _ | _ | sign' | ⟨sign', significand', exponent', nonzero'⟩
    · exact modest'.elim
    · exact modest'.elim
    · trivial
    · obtain ⟨rfl, upper⟩ := modest
      obtain ⟨rfl, upper'⟩ := modest'
      have small : significand * significand' < 2 ^ 106 := by
        have product := Nat.mul_lt_mul'' canonical.1 canonical'.1
        exact product
      exact isModest_round small (by omega) (by omega)

end Rounding

section Counts

theorem isModest_ofBits {number : Nat} (small : number < 1096 * 2 ^ 52) :
    IsModest 20 (Float.ofBits (UInt64.ofNat number)).toModel.unpack := by
  show IsModest 20 (Float.Model.pack (UnpackedFloat.unpack .binary64 (BitVec.ofNat 64 number))).unpack
  have word : (BitVec.ofNat 64 number).toNat = number := by
    rw [BitVec.toNat_ofNat]
    omega
  refine isModest_pack (isModest_unpack ?_ ?_ (by omega) (by omega)) (by omega) (by omega)
  · rw [← BitVec.toNat_inj, toNat_unpackSign, word, Nat.div_eq_of_lt (by simp [twoTo]; omega)]
    rfl
  · rw [toNat_unpackExponent, word]
    simp [twoTo]
    omega

/-- A count is scaled to a significand that is hardly too long. -/
theorem scaledQuotient_le {count : Nat} {exponent : Int} (wide : (count.log2 : Int) - 53 ≤ exponent) :
    scaledQuotient count 1 exponent ≤ 2 ^ 54 := by
  have upper : count < 2 ^ (count.log2 + 1) := Nat.lt_log2_self
  unfold scaledQuotient
  by_cases negative : exponent < 0
  · have scaled : count * 2 ^ (-exponent).toNat < 2 ^ 54 := by
      calc count * 2 ^ (-exponent).toNat
          < 2 ^ (count.log2 + 1) * 2 ^ (-exponent).toNat :=
            Nat.mul_lt_mul_of_pos_right upper (Nat.two_pow_pos _)
        _ = 2 ^ (count.log2 + 1 + (-exponent).toNat) := (Nat.pow_add _ _ _).symm
        _ ≤ 2 ^ 54 := Nat.pow_le_pow_right Nat.two_pos (by omega)
    simp only [if_pos negative, Nat.div_one, Nat.mod_one, twoTo]
    split
    · omega
    · exact scaled.le
  · have quotient : count / (1 * 2 ^ exponent.toNat) < 2 ^ 54 := by
      rw [one_mul, Nat.div_lt_iff_lt_mul (Nat.two_pow_pos _), ← Nat.pow_add]
      exact upper.trans_le (Nat.pow_le_pow_right Nat.two_pos (by omega))
    simp only [if_neg negative, twoTo]
    split
    · exact quotient
    · exact quotient.le

theorem packBits_lt {significand : Nat} {exponent : Int} (small : significand ≤ 2 ^ 54)
    (upper : exponent ≤ 10) : packBits false significand exponent < 1096 * 2 ^ 52 := by
  have fraction : twoTo 52 = 2 ^ 52 := rfl
  simp only [packBits, fraction, Bool.false_eq_true, if_false, Nat.add_zero]
  refine (Nat.min_le_left _ _).trans_lt ?_
  split <;> omega

theorem isModest_ofInt {count : Nat} (small : count < 2 ^ 63) :
    IsModest 20 (ofInt count).toModel.unpack := by
  unfold ofInt ofQuotient
  rw [Int.natAbs_natCast, decide_eq_false (by omega)]
  split
  · trivial
  have bits := log2_lt (by omega) small
  have guess : (count.log2 : Int) - 53 ≤ significandExponent count 1 ∧
      significandExponent count 1 ≤ 10 := by
    have one : Nat.log2 1 = 0 := rfl
    simp only [significandExponent, one]
    split <;> split <;> omega
  exact isModest_ofBits (packBits_lt (scaledQuotient_le guess.1) guess.2)

/-- A count that is not too large is a double. -/
theorem ofInt?_eq {count : Nat} (small : count < 2 ^ 63) : ofInt? count = some (ofInt count) := by
  have finite := (isModest_ofInt small).isFinite
  rw [ofInt?, Binary64.ofFloat_eq_ofUnpacked]
  generalize (ofInt count).toModel.unpack = unpacked at finite
  rcases unpacked with _ | _ | _ | _
  · cases finite
  · rfl
  · rfl
  · rfl

end Counts

section Draws

theorem isModest_draw {draw : Float} (lower : ¬draw < 0) (upper : draw < 1) :
    IsModest 0 draw.toModel.unpack := by
  have less : UnpackedFloat.lt draw.toModel.unpack (1 : Float).toModel.unpack = true :=
    of_decide_eq_true upper
  have nonneg : ¬UnpackedFloat.lt draw.toModel.unpack (0 : Float).toModel.unpack = true :=
    fun below => lower (decide_eq_true below)
  have bounded (finite : draw.toModel.unpack.isFinite = true) : rational draw.toModel.unpack < 1 := by
    have known := (lt_iff_rational finite rfl).1 upper
    rwa [rational_one] at known
  generalize draw.toModel.unpack = unpacked at *
  rcases unpacked with sign | _ | sign | ⟨sign, significand, exponent, positive⟩
  · cases sign
    · exact absurd rfl nonneg
    · cases less
  · cases less
  · trivial
  cases sign with
  | negative => exact absurd rfl nonneg
  | positive =>
      refine ⟨rfl, ?_⟩
      by_contra large
      have power : (1 : Rat) ≤ 2 ^ exponent := one_le_zpow₀ one_le_two (by omega)
      have whole : (1 : Rat) ≤ significand := by exact_mod_cast positive
      exact (one_le_mul_of_one_le_of_one_le whole power).not_gt (bounded rfl)

theorem truncate?_of_modest {value : Float} {limit : Int} (modest : IsModest limit value.toModel.unpack) :
    ∃ place : Nat, truncate? value = some (place : Int) := by
  rw [truncate?, fraction?, Binary64.ofFloat_eq_ofUnpacked]
  generalize value.toModel.unpack = unpacked at modest
  rcases unpacked with _ | _ | sign | ⟨sign, significand, exponent, positive⟩
  · exact modest.elim
  · exact modest.elim
  · refine ⟨0, ?_⟩
    simp only [Binary64.ofUnpacked]
    generalize (-1074 : Int) = exponent
    cases sign <;> simp [isNegative]
  · obtain ⟨rfl, -⟩ := modest
    exact ⟨_, congrArg some (Int.ofNat_tdiv _ _).symm⟩

/-- A part of a count has an integer part. -/
theorem truncate?_part {draw : Float} {count : Nat} (lower : ¬draw < 0) (upper : draw < 1)
    (small : count < 2 ^ 63) :
    ∃ place : Nat, truncate? (draw * ofInt count) = some (place : Int) := by
  have product : IsModest 140 (UnpackedFloat.mul .binary64 draw.toModel.unpack
      (ofInt count).toModel.unpack) :=
    isModest_mul (isCanonical_unpack _) (isCanonical_unpack _) (isModest_draw lower upper)
      (isModest_ofInt small) (by omega) (by omega)
  exact truncate?_of_modest (isModest_pack product (by omega) (by omega))

end Draws

end Colloquy.Number
