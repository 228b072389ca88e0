import Mathlib
import XmlTemplate.Decimal.Layout

/-!
# Bit patterns of numbers

A floating-point number is its sign and the pattern of its absolute value, up to the pattern of
infinity (`exists_ofPattern`); the one value beyond is NaN. What a number is can be read off its
pattern: whether it is zero, negative or infinite, and its significand and exponent.
-/

namespace XmlTemplate.Decimal

open Float.Model (Format)
open Float.Model.UnpackedFloat

/-! ## The fields of a word -/

section Word

variable (word : UInt64)

theorem toNat_unpackExponent : (@unpackExponent .binary64 word.toBitVec).toNat
    = word.toNat / hiddenBit % 2048 := by
  rw [unpackExponent_def]
  simp [BitVec.extractLsb'_toNat, Nat.shiftRight_eq_div_pow, hiddenBit]

theorem toNat_unpackMantissa : (@unpackMantissa .binary64 word.toBitVec).toNat
    = word.toNat % hiddenBit := by
  rw [unpackMantissa_def]
  simp [BitVec.extractLsb'_toNat, hiddenBit]

theorem toNat_unpackSign : (@unpackSign .binary64 word.toBitVec).toNat
    = word.toNat / signBit := by
  have := word.toNat_lt
  rw [unpackSign_def]
  simp [BitVec.extractLsb'_toNat, Nat.shiftRight_eq_div_pow, signBit]
  omega

theorem unpackExponent_eq_ones_iff : @unpackExponent .binary64 word.toBitVec = -1 ↔
    word.toNat / hiddenBit % 2048 = 2047 := by
  rw [← BitVec.toNat_inj, toNat_unpackExponent]
  rfl

theorem unpackExponent_eq_zero_iff : @unpackExponent .binary64 word.toBitVec = 0 ↔
    word.toNat / hiddenBit % 2048 = 0 := by
  rw [← BitVec.toNat_inj, toNat_unpackExponent]
  rfl

theorem unpackMantissa_eq_zero_iff : @unpackMantissa .binary64 word.toBitVec = 0 ↔
    word.toNat % hiddenBit = 0 := by
  rw [← BitVec.toNat_inj, toNat_unpackMantissa]
  rfl

/-- Behind the pattern of infinity there are only patterns of NaN. -/
theorem isNaNBits_iff : @isNaNBits .binary64 word.toBitVec = true ↔
    infinityBits < word.toNat % signBit := by
  rw [isNaNBits, decide_eq_true_eq]
  refine ((unpackExponent_eq_ones_iff word).and (unpackMantissa_eq_zero_iff word).not).trans ?_
  simp only [hiddenBit, infinityBits, signBit]
  omega

end Word

/-! ## Words of numbers -/

/-- The word of a number: its pattern, and the bit of its sign. -/
def wordOf (negative : Bool) (bits : Nat) : UInt64 :=
  .ofNat (bits + if negative then signBit else 0)

section Pattern

variable {negative : Bool} {bits : Nat}

theorem toNat_wordOf (negative : Bool) (h : bits ≤ infinityBits) :
    (wordOf negative bits).toNat = bits + if negative then signBit else 0 := by
  refine UInt64.toNat_ofNat_of_lt' ?_
  simp only [infinityBits, signBit, UInt64.size] at *
  split <;> omega

theorem toNat_wordOf_mod (negative : Bool) (h : bits ≤ infinityBits) :
    (wordOf negative bits).toNat % signBit = bits := by
  rw [toNat_wordOf negative h]
  simp only [infinityBits, signBit] at *
  split <;> omega

/-- The word of a number is kept, as it is none of NaN. -/
theorem toBits_ofPattern (h : bits ≤ infinityBits) :
    (ofPattern negative bits).toBits = wordOf negative bits := by
  have number : ¬@isNaNBits .binary64 (wordOf negative bits).toBitVec = true := by
    rw [isNaNBits_iff, toNat_wordOf_mod negative h]
    omega
  have packed := @pack_unpack .binary64 (wordOf negative bits).toBitVec (by decide)
  rw [if_neg number] at packed
  exact UInt64.toBitVec_inj.mp packed

/-- Every number has a sign and a pattern. -/
theorem exists_ofPattern {x : Float} (number : x.isNaN = false) :
    ∃ negative bits, bits ≤ infinityBits ∧ x = ofPattern negative bits := by
  have range : x.toBits.toNat % signBit ≤ infinityBits := by
    by_contra beyond
    have nan := (isNaNBits_iff x.toBits).mpr (Nat.lt_of_not_le beyond)
    rw [isNaNBits, decide_eq_true_eq] at nan
    -- of the patterns beyond infinity, only one is a float
    have packed := (isNaN_unpack_iff_of_valid x.toModel.valid).mpr
      (x.toModel.valid.eq_packedNaN nan.1 nan.2)
    exact Bool.false_ne_true (number.symm.trans packed)
  refine ⟨decide (signBit ≤ x.toBits.toNat), x.toBits.toNat % signBit, range, ?_⟩
  rw [← Float.toBits_inj, toBits_ofPattern range, ← UInt64.toNat_inj, toNat_wordOf _ range]
  have := x.toBits.toNat_lt
  by_cases negative : signBit ≤ x.toBits.toNat
  · rw [decide_eq_true negative, if_pos rfl]
    simp only [signBit] at *
    omega
  · rw [decide_eq_false negative, if_neg Bool.false_ne_true]
    simp only [signBit] at *
    omega

/-! ## What a pattern says -/

/-- The sign of a number. -/
def signOf (negative : Bool) : Sign :=
  if negative then .negative else .positive

theorem sign_wordOf (h : bits ≤ infinityBits) :
    Sign.ofBitVec (@unpackSign .binary64 (wordOf negative bits).toBitVec)
      = signOf negative := by
  have field := toNat_unpackSign (wordOf negative bits)
  rw [toNat_wordOf negative h] at field
  rw [Sign.ofBitVec, signOf]
  simp only [infinityBits, signBit] at h field
  cases negative with
  | false =>
      have zero : @unpackSign .binary64 (wordOf false bits).toBitVec = 0#1 := by
        refine BitVec.eq_of_toNat_eq (field.trans ?_)
        simp only [Bool.false_eq_true, ↓reduceIte, BitVec.toNat_ofNat]
        omega
      rw [if_pos zero]
      rfl
  | true =>
      have one : @unpackSign .binary64 (wordOf true bits).toBitVec ≠ 0#1 := by
        intro zero
        rw [zero] at field
        simp only [↓reduceIte, BitVec.toNat_ofNat] at field
        omega
      rw [if_neg one]
      rfl

/-- A number is zero, infinite or between. -/
theorem unpack_ofPattern (negative : Bool) (h : bits ≤ infinityBits) :
    (bits = 0 ∧ (ofPattern negative bits).toModel.unpack = .zero (signOf negative)) ∨
    (bits = infinityBits ∧
      (ofPattern negative bits).toModel.unpack = .infinity (signOf negative)) ∨
    (0 < bits ∧ bits < infinityBits ∧ ∃ m e positive,
      (ofPattern negative bits).toModel.unpack = .finite (signOf negative) m e positive) := by
  have fields : (ofPattern negative bits).toModel.unpack
      = unpack Format.binary64 (ofPattern negative bits).toBits.toBitVec := rfl
  have ones := unpackExponent_eq_ones_iff (wordOf negative bits)
  have zero := unpackExponent_eq_zero_iff (wordOf negative bits)
  have none := unpackMantissa_eq_zero_iff (wordOf negative bits)
  have range := toNat_wordOf_mod negative h
  rw [fields, toBits_ofPattern h, ← sign_wordOf h]
  simp only [hiddenBit, infinityBits, signBit] at *
  fun_cases unpack Format.binary64 (wordOf negative bits).toBitVec
  case case1 exponent mantissa =>
      have := ones.mp exponent
      have := none.mp mantissa
      exact .inr (.inl ⟨by omega, rfl⟩)
  case case2 exponent mantissa =>
      have := ones.mp exponent
      have := none.not.mp mantissa
      omega
  case case3 exponent mantissa =>
      have := zero.mp exponent
      have := none.mp mantissa
      exact .inl ⟨by omega, rfl⟩
  case case4 finite exponent mantissa =>
      have := ones.not.mp finite
      have := zero.mp exponent
      have := none.not.mp mantissa
      exact .inr (.inr ⟨by omega, by omega, _, _, _, rfl⟩)
  case case5 finite exponent =>
      have := ones.not.mp finite
      have := zero.not.mp exponent
      exact .inr (.inr ⟨by omega, by omega, _, _, _, rfl⟩)

theorem isNaN_ofPattern (h : bits ≤ infinityBits) : (ofPattern negative bits).isNaN = false := by
  show (ofPattern negative bits).toModel.unpack.isNaN = false
  rcases unpack_ofPattern negative h with
    ⟨_, unpacked⟩ | ⟨_, unpacked⟩ | ⟨_, _, _, _, _, unpacked⟩
  all_goals
    rw [unpacked]
    rfl

theorem isInf_ofPattern (h : bits ≤ infinityBits) :
    (ofPattern negative bits).isInf = true ↔ bits = infinityBits := by
  show (ofPattern negative bits).toModel.unpack.isInf = true ↔ _
  rcases unpack_ofPattern negative h with
    ⟨zero, unpacked⟩ | ⟨infinite, unpacked⟩ | ⟨_, finite, _, _, _, unpacked⟩
  · rw [unpacked, zero]
    exact iff_of_false Bool.false_ne_true (by decide)
  · rw [unpacked, infinite]
    exact iff_of_true rfl rfl
  · rw [unpacked]
    exact iff_of_false Bool.false_ne_true finite.ne

theorem beq_zero_ofPattern (h : bits ≤ infinityBits) :
    (ofPattern negative bits == 0) = true ↔ bits = 0 := by
  show Float.Model.UnpackedFloat.beq (ofPattern negative bits).toModel.unpack
    (.zero .positive) = true ↔ _
  rcases unpack_ofPattern negative h with
    ⟨zero, unpacked⟩ | ⟨infinite, unpacked⟩ | ⟨positive, _, _, _, _, unpacked⟩
  · rw [unpacked, zero]
    exact iff_of_true rfl rfl
  · rw [unpacked, infinite]
    cases negative <;> decide
  · rw [unpacked]
    cases negative <;> exact iff_of_false Bool.false_ne_true positive.ne'

theorem lt_zero_ofPattern (h : bits ≤ infinityBits) :
    ofPattern negative bits < 0 ↔ negative = true ∧ bits ≠ 0 := by
  have compared : ofPattern negative bits < 0 ↔ Float.Model.UnpackedFloat.lt
      (ofPattern negative bits).toModel.unpack (.zero .positive) = true := decide_eq_true_iff
  rw [compared]
  rcases unpack_ofPattern negative h with
    ⟨zero, unpacked⟩ | ⟨infinite, unpacked⟩ | ⟨positive, _, _, _, _, unpacked⟩
  · rw [unpacked, zero]
    cases negative <;> decide
  · rw [unpacked, infinite]
    cases negative <;> decide
  · rw [unpacked]
    cases negative with
    | false => exact iff_of_false Bool.false_ne_true (by simp)
    | true => exact iff_of_true rfl ⟨rfl, positive.ne'⟩

end Pattern

end XmlTemplate.Decimal
