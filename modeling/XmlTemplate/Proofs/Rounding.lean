import Mathlib
import XmlTemplate.Proofs.Pattern

/-!
# Rounding to the nearest number

The absolute values of numbers ascend with their bit patterns (`strictMono_magnitude`), so that what
is rounded to a number lies between the midpoints to its two neighbours, one of which may belong to
it: `Rounds`. This says to which pattern a fraction is rounded (`Rounds.unique`), and no other
number is nearer to it (`Rounds.isNearest`).
-/

namespace XmlTemplate.Decimal

/-! ## Absolute values -/

/-- The significand and the exponent that a pattern stands for. -/
def Binary.ofBits (bits : Nat) : Binary :=
  let places := bits / hiddenBit - 1
  ⟨bits - places * hiddenBit, leastExponent + places⟩

theorem Binary.ofFloat_ofPattern {negative : Bool} {bits : Nat} (h : bits ≤ infinityBits) :
    Binary.ofFloat (ofPattern negative bits) = Binary.ofBits bits := by
  have word := toNat_wordOf negative h
  have low : (wordOf negative bits).toNat % hiddenBit = bits % hiddenBit := by
    rw [word]
    simp only [hiddenBit, signBit]
    split <;> omega
  have high : (wordOf negative bits).toNat / hiddenBit % 2048 = bits / hiddenBit := by
    rw [word]
    simp only [hiddenBit, signBit, infinityBits] at *
    split <;> omega
  rw [Binary.ofFloat, toBits_ofPattern h, Binary.ofBits, low, high]
  have parts := Nat.div_add_mod' bits hiddenBit
  cases biased : bits / hiddenBit with
  | zero =>
      rw [biased] at parts
      simp only [Binary.mk.injEq]
      omega
  | succ biased' =>
      rw [biased, Nat.succ_mul] at parts
      simp only [Nat.add_sub_cancel, Binary.mk.injEq, and_true]
      omega

/-- The number that a significand and an exponent denote. -/
def Binary.value (x : Binary) : ℚ :=
  x.significand * 2 ^ x.exponent

/-- The absolute value of the number with the pattern. What comes behind the pattern of infinity
continues the sequence, as if exponents had no end. -/
def magnitude (bits : Nat) : ℚ :=
  (Binary.ofBits bits).value

/-- A significand that is not full has the least exponent; one of twice the hidden bit is already
the first one of the next exponent. -/
theorem magnitude_of_parts {places significand : Nat} (fits : significand ≤ 2 * hiddenBit)
    (normal : places = 0 ∨ hiddenBit ≤ significand) :
    magnitude (places * hiddenBit + significand) = significand * 2 ^ (leastExponent + places) := by
  have positive : 0 < hiddenBit := by decide
  rw [magnitude, Binary.ofBits, Binary.value]
  dsimp only
  rw [Nat.add_comm, Nat.add_mul_div_right _ _ positive]
  rcases Nat.lt_or_ge significand hiddenBit with subnormal | normal'
  · obtain rfl : places = 0 := by omega
    simp [Nat.div_eq_of_lt subnormal]
  rcases Nat.lt_or_ge significand (2 * hiddenBit) with small | full
  · have one : significand / hiddenBit = 1 := Nat.div_eq_of_lt_le (by omega) (by omega)
    have rest : 1 + places - 1 = places := by omega
    rw [one, rest, Nat.add_sub_cancel]
  · obtain rfl : significand = 2 * hiddenBit := by omega
    have rest : 2 + places - 1 = places + 1 := by omega
    rw [Nat.mul_div_cancel _ positive, rest]
    have whole : 2 * hiddenBit + places * hiddenBit - (places + 1) * hiddenBit = hiddenBit := by
      rw [Nat.add_mul, Nat.one_mul]
      omega
    rw [whole]
    push_cast
    rw [← add_assoc, zpow_add_one₀ two_ne_zero]
    ring

theorem exists_parts (bits : Nat) : ∃ places significand, bits = places * hiddenBit + significand ∧
    significand < 2 * hiddenBit ∧ (places = 0 ∨ hiddenBit ≤ significand) ∧
    Binary.ofBits bits = ⟨significand, leastExponent + places⟩ := by
  refine ⟨bits / hiddenBit - 1, bits - (bits / hiddenBit - 1) * hiddenBit, ?_, ?_, ?_, rfl⟩
  all_goals
    simp only [hiddenBit]
    omega

/-- The numbers of one exponent are as far from each other as the last place of their significands
says. -/
theorem magnitude_succ (bits : Nat) :
    magnitude (bits + 1) = magnitude bits + 2 ^ (Binary.ofBits bits).exponent := by
  obtain ⟨places, significand, rfl, fits, normal, read⟩ := exists_parts bits
  rw [Nat.add_assoc, magnitude_of_parts fits (normal.imp_right (by omega)),
    magnitude_of_parts fits.le normal, read]
  push_cast
  ring

theorem strictMono_magnitude : StrictMono magnitude := by
  refine strictMono_nat_of_lt_succ fun bits => ?_
  rw [magnitude_succ]
  exact lt_add_of_pos_right _ (zpow_pos two_pos _)

theorem magnitude_zero : magnitude 0 = 0 := by
  rw [magnitude, Binary.value]
  simp [Binary.ofBits]

/-! ## What is rounded to a pattern -/

/-- The number halfway between the one with the pattern and the next. -/
def midpoint (bits : Nat) : ℚ :=
  (magnitude bits + magnitude (bits + 1)) / 2

theorem strictMono_midpoint : StrictMono midpoint := by
  refine strictMono_nat_of_lt_succ fun bits => ?_
  have first := strictMono_magnitude (Nat.lt_succ_self bits)
  have second := strictMono_magnitude (Nat.lt_succ_self (bits + 1))
  rw [midpoint, midpoint]
  linarith

theorem midpoint_lt_magnitude_succ (bits : ℕ) : midpoint bits < magnitude (bits + 1) := by
  have := strictMono_magnitude (Nat.lt_succ_self bits)
  rw [midpoint]
  linarith

theorem magnitude_lt_midpoint (bits : ℕ) : magnitude bits < midpoint bits := by
  have := strictMono_magnitude (Nat.lt_succ_self bits)
  rw [midpoint]
  linarith

theorem midpoint_of_parts {places significand : ℕ} (fits : significand < 2 * hiddenBit)
    (normal : places = 0 ∨ hiddenBit ≤ significand) :
    midpoint (places * hiddenBit + significand)
      = (significand + 1 / 2) * 2 ^ (leastExponent + places) := by
  rw [midpoint, Nat.add_assoc, magnitude_of_parts fits.le normal,
    magnitude_of_parts fits (normal.imp_right (by omega))]
  push_cast
  ring

theorem cast_hiddenBit : (hiddenBit : ℚ) = 2 ^ (52 : ℤ) := by
  norm_num [hiddenBit]

/-- The first numbers of the exponents are the powers of two. -/
theorem magnitude_power (places : ℕ) :
    magnitude (places * hiddenBit + hiddenBit) = 2 ^ (52 + (leastExponent + places)) := by
  rw [magnitude_of_parts (by decide) (.inr le_rfl), cast_hiddenBit, ← zpow_add₀ two_ne_zero]

theorem magnitude_infinityBits : magnitude infinityBits = 2 ^ 1024 :=
  (magnitude_power 2046).trans (zpow_natCast 2 1024)

theorem midpoint_zero : midpoint 0 = 2 ^ (-1075 : ℤ) := by
  have middle : midpoint (0 * hiddenBit + 0) = ((0 : ℕ) + 1 / 2) * 2 ^ (leastExponent + (0 : ℕ)) :=
    midpoint_of_parts (by decide) (.inl rfl)
  rw [Nat.zero_mul, Nat.add_zero] at middle
  have half : ((0 : ℕ) : ℚ) + 1 / 2 = 2 ^ (-1 : ℤ) := by norm_num
  rw [middle, half, ← zpow_add₀ two_ne_zero]
  rfl

/-- The first number is less than the second. They may be equal only where that is admitted. -/
def LeIf (admitted : Prop) (a b : ℚ) : Prop :=
  a ≤ b ∧ (a = b → admitted)

theorem LeIf.of_lt {admitted : Prop} {a b : ℚ} (h : a < b) : LeIf admitted a b :=
  ⟨h.le, fun same => absurd same h.ne⟩

theorem LeIf.mul_right_iff {admitted : Prop} {a b c : ℚ} (positive : 0 < c) :
    LeIf admitted (a * c) (b * c) ↔ LeIf admitted a b := by
  rw [LeIf, LeIf, mul_le_mul_iff_left₀ positive, mul_left_inj' positive.ne']

/-- The fraction lies between the midpoints to the neighbours. A midpoint belongs to the even of its
two patterns. -/
structure Rounds (q : ℚ) (bits : Nat) : Prop where
  low : ∀ below, bits = below + 1 → LeIf (Even bits) (midpoint below) q
  high : LeIf (Even bits) q (midpoint bits)

theorem Rounds.unique {q : ℚ} {bits bits' : Nat} (h : Rounds q bits) (h' : Rounds q bits') :
    bits = bits' := by
  -- two different patterns would have a midpoint in common, and one of them is odd
  have apart {bits bits' : Nat} (h : Rounds q bits) (h' : Rounds q bits') : ¬bits < bits' := by
    intro lt
    obtain ⟨below, rfl⟩ := Nat.exists_eq_succ_of_ne_zero (Nat.ne_zero_of_lt lt)
    obtain ⟨low, even'⟩ := h'.low below rfl
    obtain ⟨high, even⟩ := h.high
    have mono := strictMono_midpoint.monotone (Nat.le_of_lt_succ lt)
    have same : midpoint bits = midpoint below := le_antisymm mono (low.trans high)
    have tie : midpoint below = q := le_antisymm low (same ▸ high)
    have even := even (tie.symm.trans same.symm)
    rw [strictMono_midpoint.injective same] at even
    exact Nat.even_add_one.mp (even' tie) even
  exact Nat.le_antisymm (Nat.le_of_not_lt (apart h' h)) (Nat.le_of_not_lt (apart h h'))

theorem Rounds.zero {q : ℚ} (h : q < midpoint 0) : Rounds q 0 :=
  ⟨nofun, .of_lt h⟩

theorem Rounds.le_of_magnitude_le {q : ℚ} {bits bits' : ℕ} (h : Rounds q bits)
    (le : magnitude bits' ≤ q) : bits' ≤ bits := by
  refine Nat.le_of_lt_succ (strictMono_magnitude.lt_iff_lt.mp ?_)
  exact (le.trans h.high.1).trans_lt (midpoint_lt_magnitude_succ bits)

theorem Rounds.le_of_le_magnitude {q : ℚ} {bits bits' : ℕ} (h : Rounds q bits)
    (le : q ≤ magnitude bits') : bits ≤ bits' := by
  rcases bits with _ | below
  · exact Nat.zero_le _
  · refine strictMono_magnitude.lt_iff_lt.mp ?_
    exact (magnitude_lt_midpoint below).trans_le ((h.low below rfl).1.trans le)

/-- No absolute value is nearer to the fraction, and if another one is as near, the pattern is
even. -/
structure IsNearest (q : ℚ) (bits : Nat) : Prop where
  nearest : ∀ other, |q - magnitude bits| ≤ |q - magnitude other|
  even : ∀ other ≠ bits, |q - magnitude bits| = |q - magnitude other| → Even bits

theorem Rounds.isNearest {q : ℚ} {bits : Nat} (h : Rounds q bits) : IsNearest q bits := by
  have below {other : Nat} (lt : other < bits) : |q - magnitude bits| ≤ |q - magnitude other| ∧
      (|q - magnitude bits| = |q - magnitude other| → Even bits) := by
    obtain ⟨last, rfl⟩ := Nat.exists_eq_succ_of_ne_zero (Nat.ne_zero_of_lt lt)
    have less := strictMono_magnitude lt
    have mono := strictMono_magnitude.monotone (Nat.le_of_lt_succ lt)
    obtain ⟨low, even⟩ := h.low last rfl
    rw [midpoint] at low even
    rw [abs_of_nonneg (show 0 ≤ q - magnitude other by linarith)]
    refine ⟨abs_le.mpr ⟨by linarith, by linarith⟩, fun same => even ?_⟩
    rcases abs_cases (q - magnitude (last + 1)) with ⟨value, _⟩ | ⟨value, _⟩
    · linarith
    · linarith
  have above {other : Nat} (lt : bits < other) : |q - magnitude bits| ≤ |q - magnitude other| ∧
      (|q - magnitude bits| = |q - magnitude other| → Even bits) := by
    have less := strictMono_magnitude lt
    have mono := strictMono_magnitude.monotone (Nat.succ_le_of_lt lt)
    obtain ⟨high, even⟩ := h.high
    rw [midpoint] at high even
    rw [abs_of_nonpos (show q - magnitude other ≤ 0 by linarith)]
    refine ⟨abs_le.mpr ⟨by linarith, by linarith⟩, fun same => even ?_⟩
    rcases abs_cases (q - magnitude bits) with ⟨value, _⟩ | ⟨value, _⟩
    · linarith
    · linarith
  constructor
  · intro other
    rcases Nat.lt_trichotomy other bits with lt | rfl | lt
    · exact (below lt).1
    · exact le_rfl
    · exact (above lt).1
  · intro other ne same
    rcases Nat.lt_or_gt_of_ne ne with lt | lt
    · exact (below lt).2 same
    · exact (above lt).2 same

end XmlTemplate.Decimal
