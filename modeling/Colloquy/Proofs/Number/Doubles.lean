import Colloquy.Number.Binary64
import Mathlib

/-!
# The numbers that doubles stand for

A finite double stands for a rational number. Doubles compare as these numbers do, so a double that
is found to be between two others stands for a number between theirs.

An integer of at most 53 bits is a double, and so is its product with a power of two. So a double that
is made by dividing such an integer by two to the 53rd tells which integer it was.
-/

set_option autoImplicit false

namespace Colloquy.Number

open Float.Model (UnpackedFloat)
open Float.Model.UnpackedFloat (Sign unpackSign unpackExponent unpackMantissa)

def isNegative : Sign → Bool
  | .negative => true
  | .positive => false

/-- The exact content of an unpacked double. -/
def Binary64.ofUnpacked : UnpackedFloat → Binary64
  | .infinity sign => .infinite (isNegative sign)
  | .notANumber => .notANumber
  | .zero sign => .finite (isNegative sign) 0 (-1074)
  | .finite sign significand exponent _ => .finite (isNegative sign) significand exponent

abbrev Bits := BitVec Float.Model.Format.binary64.numBits

theorem toNat_unpackMantissa (bits : Bits) :
    (unpackMantissa bits).toNat = bits.toNat % twoTo 52 := by
  simp [unpackMantissa, twoTo]

theorem toNat_unpackMantissa_lt (bits : Bits) : (unpackMantissa bits).toNat < twoTo 52 :=
  (unpackMantissa bits).isLt

theorem toNat_unpackExponent (bits : Bits) :
    (unpackExponent bits).toNat = bits.toNat / twoTo 52 % twoTo 11 := by
  simp [unpackExponent, twoTo, Nat.shiftRight_eq_div_pow]

theorem toNat_unpackSign (bits : Bits) : (unpackSign bits).toNat = bits.toNat / twoTo 63 % 2 := by
  simp [unpackSign, twoTo, Nat.shiftRight_eq_div_pow]

theorem isNegative_unpackSign (bits : Bits) :
    isNegative (Sign.ofBitVec (unpackSign bits)) = decide (bits.toNat / twoTo 63 % 2 = 1) := by
  rw [← toNat_unpackSign]
  generalize unpackSign bits = sign
  revert sign
  decide

theorem toNat_append_one (fraction : BitVec 52) :
    (1#1 ++ fraction).toNat = fraction.toNat + twoTo 52 := by
  rw [BitVec.toNat_append, ← Nat.shiftLeft_add_eq_or_of_lt fraction.isLt, Nat.add_comm]
  rfl

theorem eq_zero_iff {width : Nat} (bits : BitVec width) :
    bits = BitVec.ofNat width 0 ↔ bits.toNat = 0 := by
  rw [← BitVec.toNat_inj, BitVec.toNat_zero]

theorem eq_full_iff (exponent : BitVec 11) : exponent = -1#11 ↔ exponent.toNat = twoTo 11 - 1 := by
  rw [← BitVec.toNat_inj]
  rfl

theorem Binary64.ofFloat_eq_ofUnpacked (value : Float) :
    ofFloat value = ofUnpacked value.toModel.unpack := by
  have bits : value.toBits.toNat = value.toModel.toBits.toBitVec.toNat := rfl
  simp only [ofFloat, bits, Float.Model.unpack, UnpackedFloat.unpack]
  generalize value.toModel.toBits.toBitVec = bits
  rw [← isNegative_unpackSign, ← toNat_unpackExponent, ← toNat_unpackMantissa]
  simp only [eq_full_iff, eq_zero_iff]
  have bias : (Float.Model.Format.binary64.exponentBias : Int) + ((52 : Nat) : Int) = 1075 := rfl
  rw [bias]
  split_ifs with full zero tiny zero
  · rfl
  · rfl
  · simp [ofUnpacked, zero]
  · simp [ofUnpacked, tiny]
  · simp [ofUnpacked, toNat_append_one]

/-- How doubles are unpacked: the significand has 53 bits, or fewer at the least exponent. -/
def IsCanonical : UnpackedFloat → Prop
  | .finite _ significand exponent _ =>
      significand < twoTo 53 ∧ -1074 ≤ exponent ∧ (twoTo 52 ≤ significand ∨ exponent = -1074)
  | _ => True

theorem isCanonical_unpack (value : Float) : IsCanonical value.toModel.unpack := by
  simp only [Float.Model.unpack, UnpackedFloat.unpack]
  generalize value.toModel.toBits.toBitVec = bits
  have bias : (Float.Model.Format.binary64.exponentBias : Int) + ((52 : Nat) : Int) = 1075 := rfl
  have fraction := toNat_unpackMantissa_lt bits
  have half : twoTo 53 = twoTo 52 * 2 := rfl
  simp only [eq_full_iff, eq_zero_iff, bias]
  split_ifs with full zero tiny zero
  · trivial
  · trivial
  · trivial
  · simp only [IsCanonical, tiny]
    omega
  · simp only [IsCanonical, toNat_append_one]
    omega

def withSign (sign : Sign) (magnitude : Rat) : Rat :=
  match sign with
  | .negative => -magnitude
  | .positive => magnitude

/-- The number that an unpacked double stands for. What is not finite stands for none. -/
def rational : UnpackedFloat → Rat
  | .finite sign significand exponent _ => withSign sign (significand * 2 ^ exponent)
  | _ => 0

theorem twoTo_div_twoTo (exponent : Int) :
    ((twoTo exponent.toNat : Nat) : Rat) / (twoTo (-exponent).toNat : Nat) = 2 ^ exponent := by
  obtain ⟨size, rfl | rfl⟩ := exponent.eq_nat_or_neg
  · simp [twoTo]
  · simp [twoTo]

/-- The fraction that is read off a double is the number it stands for. -/
theorem quotient_fraction? (value : Float) :
    (match fraction? value with
      | some (num, den) => (num : Rat) / (den : Rat)
      | none => 0) = rational value.toModel.unpack := by
  rw [fraction?, Binary64.ofFloat_eq_ofUnpacked]
  rcases value.toModel.unpack with _ | _ | sign | ⟨sign, significand, exponent, _⟩
  · rfl
  · rfl
  · simp only [Binary64.ofUnpacked]
    generalize (-1074 : Int) = exponent
    cases sign <;> simp [isNegative, rational]
  · cases sign <;>
      simp [Binary64.ofUnpacked, isNegative, rational, withSign, ← twoTo_div_twoTo, mul_div_assoc,
        neg_div]

theorem magnitude_lt {significand significand' : Nat} {exponent exponent' : Int}
    (small : significand < twoTo 53) (large : twoTo 52 ≤ significand')
    (below : exponent < exponent') :
    (significand : Rat) * 2 ^ exponent < significand' * 2 ^ exponent' := by
  have upper : (significand : Rat) < 2 ^ 53 := by exact_mod_cast small
  have lower : (2 : Rat) ^ 52 ≤ significand' := by exact_mod_cast large
  calc (significand : Rat) * 2 ^ exponent
      < 2 ^ 53 * 2 ^ exponent := by gcongr
    _ = 2 ^ 52 * 2 ^ (exponent + 1) := by rw [zpow_add_one₀ two_ne_zero]; ring
    _ ≤ 2 ^ 52 * 2 ^ exponent' := by
        have next : exponent + 1 ≤ exponent' := below
        gcongr
        norm_num
    _ ≤ significand' * 2 ^ exponent' := by gcongr

/-- The magnitudes of doubles compare by their exponents first. -/
theorem compare_magnitudes {significand significand' : Nat} {exponent exponent' : Int}
    {sign sign' : Sign} {positive : 0 < significand} {positive' : 0 < significand'}
    (canonical : IsCanonical (.finite sign significand exponent positive))
    (canonical' : IsCanonical (.finite sign' significand' exponent' positive')) :
    (compare exponent exponent').then (compare significand significand') =
      compare ((significand : Rat) * 2 ^ exponent) (significand' * 2 ^ exponent') := by
  obtain ⟨small, least, normal⟩ := canonical
  obtain ⟨small', least', normal'⟩ := canonical'
  rcases lt_trichotomy exponent exponent' with below | rfl | above
  · have less := magnitude_lt small (normal'.resolve_right (by omega)) below
    rw [compare_lt_iff_lt.2 below, compare_lt_iff_lt.2 less]
    rfl
  · have power : (0 : Rat) < 2 ^ exponent := by positivity
    rw [compare_eq_iff_eq.2 rfl]
    rcases lt_trichotomy significand significand' with less | rfl | more
    · have scaled : (significand : Rat) * 2 ^ exponent < significand' * 2 ^ exponent := by gcongr
      rw [compare_lt_iff_lt.2 less, compare_lt_iff_lt.2 scaled]
      rfl
    · rw [compare_eq_iff_eq.2 rfl, compare_eq_iff_eq.2 rfl]
      rfl
    · have scaled : (significand' : Rat) * 2 ^ exponent < significand * 2 ^ exponent := by gcongr
      rw [compare_gt_iff_gt.2 more, compare_gt_iff_gt.2 scaled]
      rfl
  · have more := magnitude_lt small' (normal.resolve_right (by omega)) above
    rw [compare_gt_iff_gt.2 above, compare_gt_iff_gt.2 more]
    rfl

theorem compare_neg (left right : Rat) : compare (-left) (-right) = (compare left right).swap := by
  rcases lt_trichotomy left right with less | rfl | more
  · rw [compare_lt_iff_lt.2 less, compare_gt_iff_gt.2 (neg_lt_neg less)]
    rfl
  · rw [compare_eq_iff_eq.2 rfl, compare_eq_iff_eq.2 rfl]
    rfl
  · rw [compare_gt_iff_gt.2 more, compare_lt_iff_lt.2 (neg_lt_neg more)]
    rfl

/-- Doubles compare as the numbers that they stand for. -/
theorem compare_unpacked {left right : UnpackedFloat} (canonical : IsCanonical left)
    (canonical' : IsCanonical right) (finite : left.isFinite = true)
    (finite' : right.isFinite = true) :
    left.compare right = some (compare (rational left) (rational right)) := by
  have magnitude_pos {significand : Nat} (exponent : Int) (positive : 0 < significand) :
      (0 : Rat) < significand * 2 ^ exponent := by positivity
  rcases left with _ | _ | _ | ⟨sign, significand, exponent, positive⟩
  · cases finite
  · cases finite
  · rcases right with _ | _ | _ | ⟨sign', significand', exponent', positive'⟩
    · cases finite'
    · cases finite'
    · rfl
    · have more := magnitude_pos exponent' positive'
      cases sign' with
      | negative => exact congrArg some (compare_gt_iff_gt.2 (neg_lt_zero.2 more)).symm
      | positive => exact congrArg some (compare_lt_iff_lt.2 more).symm
  · have more := magnitude_pos exponent positive
    rcases right with _ | _ | _ | ⟨sign', significand', exponent', positive'⟩
    · cases finite'
    · cases finite'
    · cases sign with
      | negative => exact congrArg some (compare_lt_iff_lt.2 (neg_lt_zero.2 more)).symm
      | positive => exact congrArg some (compare_gt_iff_gt.2 more).symm
    · have more' := magnitude_pos exponent' positive'
      cases sign <;> cases sign'
      · show some (Ordering.swap _) = some (compare (-_) (-_))
        rw [compare_magnitudes canonical canonical', compare_neg]
      · exact congrArg some
          (compare_lt_iff_lt.2 ((neg_lt_zero.2 more).trans more')).symm
      · exact congrArg some
          (compare_gt_iff_gt.2 ((neg_lt_zero.2 more').trans more)).symm
      · exact congrArg some (compare_magnitudes canonical canonical')

theorem lt_iff_rational {left right : Float} (finite : left.toModel.unpack.isFinite = true)
    (finite' : right.toModel.unpack.isFinite = true) :
    left < right ↔ rational left.toModel.unpack < rational right.toModel.unpack := by
  have unpacked : left < right ↔ left.toModel.unpack.lt right.toModel.unpack = true := by
    show decide (left.toModel < right.toModel) = true ↔ _
    rw [decide_eq_true_iff]
    rfl
  rw [unpacked, UnpackedFloat.lt, beq_iff_eq, compare_unpacked (isCanonical_unpack left)
    (isCanonical_unpack right) finite finite', Option.some.injEq, compare_lt_iff_lt]

theorem isFinite_of_bounded {value : Float} (number : value.isNaN = false) (lower : ¬value < 0)
    (upper : ¬1 < value) : value.toModel.unpack.isFinite = true := by
  have upper : ¬(UnpackedFloat.lt _ value.toModel.unpack = true) := fun less => upper (decide_eq_true less)
  have lower : ¬(UnpackedFloat.lt value.toModel.unpack _ = true) := fun less => lower (decide_eq_true less)
  have number : value.toModel.unpack.isNaN = false := number
  generalize value.toModel.unpack = unpacked at *
  rcases unpacked with sign | _ | _ | _
  · cases sign
    · exact absurd rfl lower
    · exact absurd rfl upper
  · cases number
  · rfl
  · rfl

theorem rational_one : rational (1 : Float).toModel.unpack = 1 := by
  show ((2 ^ 52 : Nat) : Rat) * 2 ^ (-52 : Int) = 1
  norm_num

/-- A double from zero to one stands for a number from zero to one. -/
theorem rational_bounded {value : Float} (number : value.isNaN = false) (lower : ¬value < 0)
    (upper : ¬1 < value) :
    0 ≤ rational value.toModel.unpack ∧ rational value.toModel.unpack ≤ 1 := by
  have finite := isFinite_of_bounded number lower upper
  rw [lt_iff_rational finite rfl, not_lt] at lower
  rw [lt_iff_rational rfl finite, not_lt] at upper
  exact ⟨lower, rational_one ▸ upper⟩

/-! ## Doubles that are made of integers -/

section Fractions

open Float.Model (UnpackedFloat Format totalExponent)
open Float.Model.UnpackedFloat

theorem log2_mul_twoPow {number : Nat} (positive : 0 < number) (places : Nat) :
    (number * 2 ^ places).log2 = number.log2 + places := by
  induction places with
  | zero => simp
  | succ places ih =>
      rw [pow_succ', Nat.mul_left_comm, Nat.log2_two_mul (by positivity), ih, Nat.add_assoc]

theorem shiftRight_exact (significand places : Nat) :
    (⟨significand * 2 ^ places, false, false⟩ : ExtendedMantissa) >>> places =
      ⟨significand, false, false⟩ := by
  induction places generalizing significand with
  | zero => rw [Nat.pow_zero, Nat.mul_one]; rfl
  | succ places ih =>
      have step (given : ExtendedMantissa) :
          given >>> (places + 1) = (given >>> places).shiftRightOne := rfl
      have doubled : significand * 2 ^ (places + 1) = significand * 2 * 2 ^ places := by ring
      rw [step, doubled, ih]
      simp [ExtendedMantissa.shiftRightOne]

/-- A significand of 53 bits that is followed by zeros loses these zeros only. -/
theorem shiftToTargetExponent_exact {significand : Nat} (size : significand.log2 = 52)
    (places : Nat) {exponent : Int} (least : -1074 ≤ exponent + places) :
    shiftToTargetExponent .binary64 (significand * 2 ^ places) exponent .exact =
      (⟨significand, false, false⟩, exponent + places) := by
  have positive : 0 < significand := Nat.pos_of_ne_zero fun zero => by simp [zero] at size
  have target : Format.binary64.targetExponent
      (totalExponent (significand * 2 ^ places) exponent) = exponent + places := by
    simp only [Format.targetExponent, totalExponent, Format.mantissaBits, Format.minExponent,
      log2_mul_twoPow positive, size]
    norm_num
    omega
  have shift : (exponent + places - exponent).toNat = places := by omega
  rw [shiftToTargetExponent, target, shiftToExponent, shift,
    ExtendedMantissa.ofMantissaAndAccuracy, shiftRight_exact]

theorem roundWithAccuracy_exact {significand : Nat} (positive : 0 < significand)
    (size : significand.log2 = 52) (sign : Sign) (places : Nat) {exponent : Int}
    (least : -1074 ≤ exponent + places) :
    roundWithAccuracy .binary64 sign (significand * 2 ^ places) exponent .exact =
      .finite sign significand (exponent + places) positive := by
  have rounded : (⟨significand, false, false⟩ : ExtendedMantissa).roundedMantissa = significand := rfl
  have again := shiftToTargetExponent_exact size 0
    (show -1074 ≤ (exponent + places) + ((0 : Nat) : Int) by simpa using least)
  rw [Nat.pow_zero, Nat.mul_one] at again
  rw [roundWithAccuracy, shiftToTargetExponent_exact size places least]
  simp only [rounded, again]
  rw [dif_neg (Nat.ne_of_gt positive)]
  simp

theorem pack_normal {significand : Nat} (positive : 0 < significand)
    (size : significand.log2 = 52) (sign : Sign) {biased : Nat} (most : biased < 2046) :
    pack .binary64 (.finite sign significand (biased - 1074 : Int) positive) =
      packComponents .binary64 sign (BitVec.ofNat 11 (biased + 1)) (BitVec.ofNat 52 significand) := by
  have shifted : ((biased - 1074 : Int) + (Format.binary64.exponentBias : Int) +
      (Format.binary64.mantissaBitsWithoutImplicit : Nat)).toNat = biased + 1 := by
    show ((biased : Int) - 1074 + 1023 + (52 : Nat)).toNat = biased + 1
    omega
  have fits : ¬2 ^ Format.binary64.exponentBits ≤ biased + 1 + 1 := by
    show ¬2 ^ 11 ≤ biased + 1 + 1
    omega
  unfold pack
  rw [shifted]
  dsimp only
  rw [if_neg fits, if_pos (by rw [size]; rfl)]

theorem unpack_normal {significand : Nat} (positive : 0 < significand)
    (size : significand.log2 = 52) (sign : Sign) {biased : Nat} (most : biased < 2046) :
    unpack .binary64 (packComponents .binary64 sign (BitVec.ofNat 11 (biased + 1))
        (BitVec.ofNat 52 significand)) =
      .finite sign significand (biased - 1074 : Int) positive := by
  have bounds := (Nat.log2_eq_iff (Nat.ne_of_gt positive)).1 size
  have exponentBits : (BitVec.ofNat 11 (biased + 1)).toNat = biased + 1 := by
    rw [BitVec.toNat_ofNat, Nat.mod_eq_of_lt (by omega)]
  have fraction : (1#1 ++ BitVec.ofNat 52 significand).toNat = significand := by
    have half : twoTo 52 = 4503599627370496 := rfl
    rw [toNat_append_one, BitVec.toNat_ofNat, half]
    omega
  have bias : (Format.binary64.exponentBias : Int) + ((52 : Nat) : Int) = 1075 := rfl
  have finite : ¬biased + 1 = twoTo 11 - 1 := by
    have full : twoTo 11 = 2048 := rfl
    omega
  unfold unpack
  simp only [unpackExponent_packComponents, unpackMantissa_packComponents,
    unpackSign_packComponents, Sign.ofBitVec_toBitVec, eq_full_iff, eq_zero_iff, exponentBits,
    fraction, bias, finite, Nat.add_one_ne_zero, ↓reduceIte]
  congr 1
  omega

/-- What is packed into the bits of a double comes out of them again. -/
theorem unpack_pack_finite {significand : Nat} (positive : 0 < significand)
    (size : significand.log2 = 52) (sign : Sign) {exponent : Int} (least : -1074 ≤ exponent)
    (most : exponent ≤ 971) :
    (Float.Model.pack (.finite sign significand exponent positive)).unpack =
      .finite sign significand exponent positive := by
  obtain ⟨biased, rfl⟩ : ∃ biased : Nat, exponent = biased - 1074 :=
    ⟨(exponent + 1074).toNat, by omega⟩
  show unpack .binary64 (pack .binary64 _) = _
  rw [pack_normal positive size sign (by omega), unpack_normal positive size sign (by omega)]

/-- A positive integer as a significand of 53 bits. -/
def aligned (number : Nat) : Nat := number * 2 ^ (52 - number.log2)

theorem aligned_pos {number : Nat} (positive : 0 < number) : 0 < aligned number := by
  unfold aligned
  positivity

theorem log2_aligned {number : Nat} (positive : 0 < number) (small : number.log2 ≤ 52) :
    (aligned number).log2 = 52 := by
  rw [aligned, log2_mul_twoPow positive]
  omega

/-- An integer of at most 53 bits is itself a double. -/
theorem unpack_toFloat {number : UInt64} (positive : 0 < number.toNat)
    (small : number.toNat.log2 ≤ 52) :
    number.toFloat.toModel.unpack = .finite .positive (aligned number.toNat)
      ((number.toNat.log2 : Int) - 52) (aligned_pos positive) := by
  have size := log2_aligned positive small
  have target : Format.binary64.targetExponent (totalExponent number.toNat 0) =
      (number.toNat.log2 : Int) - 52 := by
    simp only [Format.targetExponent, totalExponent, Format.mantissaBits, Format.minExponent]
    norm_num
    omega
  have decreased : decreaseExponent number.toNat 0 ((number.toNat.log2 : Int) - 52) =
      (aligned number.toNat, (number.toNat.log2 : Int) - 52) := by
    have shift : ((0 : Int) - ((number.toNat.log2 : Int) - 52)).toNat = 52 - number.toNat.log2 := by
      omega
    rw [decreaseExponent, shift, Nat.shiftLeft_eq, aligned, Prod.mk.injEq]
    exact ⟨rfl, by omega⟩
  have rounded := roundWithAccuracy_exact (aligned_pos positive) size .positive 0
    (show -1074 ≤ (number.toNat.log2 : Int) - 52 + ((0 : Nat) : Int) by omega)
  rw [Nat.pow_zero, Nat.mul_one] at rounded
  have normal : ofUInt64 .binary64 number = .finite .positive (aligned number.toNat)
      ((number.toNat.log2 : Int) - 52) (aligned_pos positive) := by
    show UnpackedFloat.normalize .binary64 (number.toNat : Int) 0 .positive = _
    unfold UnpackedFloat.normalize
    rw [compare_gt_iff_gt.2 (by omega)]
    dsimp only
    rw [UnpackedFloat.round, Int.toNat_natCast, target, decreased]
    dsimp only
    rw [rounded]
    simp
  show (Float.Model.pack (ofUInt64 .binary64 number)).unpack = _
  rw [normal, unpack_pack_finite _ size _ (by omega) (by omega)]

theorem unpack_scale : (1.0 / 9007199254740992.0 : Float).toModel.unpack =
    .finite .positive (2 ^ 52) (-105) (by decide) := rfl

theorem unpack_fraction {number : UInt64} (positive : 0 < number.toNat)
    (small : number.toNat.log2 ≤ 52) :
    (number.toFloat * (1.0 / 9007199254740992.0)).toModel.unpack =
      .finite .positive (aligned number.toNat) ((number.toNat.log2 : Int) - 105)
        (aligned_pos positive) := by
  have size := log2_aligned positive small
  have product : mul .binary64 number.toFloat.toModel.unpack
      (1.0 / 9007199254740992.0 : Float).toModel.unpack =
        .finite .positive (aligned number.toNat) ((number.toNat.log2 : Int) - 105)
          (aligned_pos positive) := by
    rw [unpack_toFloat positive small, unpack_scale]
    show roundWithAccuracy .binary64 (.positive * .positive) _ _ _ = _
    rw [roundWithAccuracy_exact (aligned_pos positive) size _ 52 (by omega)]
    congr 1
    push_cast
    ring
  show (Float.Model.pack (mul .binary64 _ _)).unpack = _
  rw [product, unpack_pack_finite _ size _ (by omega) (by omega)]

theorem unpack_fraction_zero :
    ((0 : UInt64).toFloat * (1.0 / 9007199254740992.0)).toModel.unpack = .zero .positive := rfl

/-- A double that is an integer of 53 bits over two to the 53rd is that number exactly. -/
theorem rational_fraction {number : UInt64} (small : number.toNat < 2 ^ 53) :
    rational (number.toFloat * (1.0 / 9007199254740992.0)).toModel.unpack =
      number.toNat / 2 ^ 53 := by
  rcases Nat.eq_zero_or_pos number.toNat with zero | positive
  · obtain rfl : number = 0 := UInt64.toNat_inj.1 zero
    rw [unpack_fraction_zero]
    simp [rational]
  · have bits : number.toNat.log2 ≤ 52 :=
      Nat.lt_succ_iff.1 ((Nat.log2_lt (Nat.ne_of_gt positive)).2 small)
    rw [unpack_fraction positive bits]
    show ((aligned number.toNat : Nat) : Rat) * 2 ^ ((number.toNat.log2 : Int) - 105) = _
    have exponent : ((number.toNat.log2 : Int) - 105) = -((52 - number.toNat.log2 : Nat) : Int) - 53 := by
      omega
    rw [aligned, exponent, zpow_sub₀ two_ne_zero, zpow_neg, zpow_natCast]
    push_cast
    field_simp
    norm_num

/-- So the integer can be told from the double. -/
theorem fraction_injective {first second : UInt64} (small : first.toNat < 2 ^ 53)
    (small' : second.toNat < 2 ^ 53)
    (same : first.toFloat * (1.0 / 9007199254740992.0) =
      second.toFloat * (1.0 / 9007199254740992.0)) : first = second := by
  have equal := congrArg (fun value : Float => rational value.toModel.unpack) same
  rw [rational_fraction small, rational_fraction small'] at equal
  have numbers : ((first.toNat : Nat) : Rat) = second.toNat := by
    field_simp at equal
    exact equal
  exact UInt64.toNat_inj.1 (by exact_mod_cast numbers)

end Fractions

end Colloquy.Number
