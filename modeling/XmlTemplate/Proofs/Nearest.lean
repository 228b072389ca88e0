import Mathlib
import XmlTemplate.Proofs.Rounding

/-!
# Nearest numbers

Fractions, integers and decimals become the numbers that they are rounded to
(`exists_rounds_nearestBits`, `exists_rounds_ofInt`, `exists_rounds_ofDigits`): the pattern is the
one of `Rounds`, or that of infinity when it comes behind it.
-/

namespace XmlTemplate.Decimal

/-! ## Rounding to an integer -/

/-- The integer is at most a half away, and at a half it is even. -/
structure HalfEven (q : ℚ) (n : ℕ) : Prop where
  low : LeIf (Even n) (n - 1 / 2) q
  high : LeIf (Even n) q (n + 1 / 2)

theorem halfEven_roundHalfEven (num : ℕ) {den : ℕ} (positive : 0 < den) :
    HalfEven (num / den) (roundHalfEven num den) := by
  have positive' : (0 : ℚ) < den := by exact_mod_cast positive
  have parts : (num : ℚ) / den = (num / den : ℕ) + ((num % den : ℕ) : ℚ) / den := by
    rw [div_eq_iff positive'.ne', add_mul, div_mul_cancel₀ _ positive'.ne']
    exact_mod_cast (Nat.div_add_mod' num den).symm
  have nonneg : 0 ≤ ((num % den : ℕ) : ℚ) / den := by positivity
  have small : ((num % den : ℕ) : ℚ) / den < 1 := by
    rw [div_lt_one positive']
    exact_mod_cast Nat.mod_lt num positive
  rw [parts, roundHalfEven]
  split
  case isTrue less =>
    have half : ((num % den : ℕ) : ℚ) / den < 1 / 2 := by
      rw [div_lt_div_iff₀ positive' two_pos]
      exact_mod_cast (by omega : num % den * 2 < 1 * den)
    exact ⟨.of_lt (by linarith), .of_lt (by linarith)⟩
  split
  case isTrue more =>
    have half : 1 / 2 < ((num % den : ℕ) : ℚ) / den := by
      rw [div_lt_div_iff₀ two_pos positive']
      exact_mod_cast (by omega : 1 * den < num % den * 2)
    constructor
    · refine .of_lt ?_
      push_cast
      linarith
    · refine .of_lt ?_
      push_cast
      linarith
  case isFalse notLess notMore =>
    have half : ((num % den : ℕ) : ℚ) / den = 1 / 2 := by
      rw [div_eq_div_iff positive'.ne' two_ne_zero]
      exact_mod_cast (by omega : num % den * 2 = 1 * den)
    have even : Even (num / den + num / den % 2) := by
      rw [Nat.even_iff]
      omega
    have up : ((num / den % 2 : ℕ) : ℚ) ≤ 1 := by
      exact_mod_cast (by omega : num / den % 2 ≤ 1)
    have down : 0 ≤ ((num / den % 2 : ℕ) : ℚ) := Nat.cast_nonneg _
    rw [half]
    constructor
    · refine ⟨?_, fun _ => even⟩
      push_cast
      linarith
    · refine ⟨?_, fun _ => even⟩
      push_cast
      linarith

theorem HalfEven.le_of_lt {q : ℚ} {n bound : ℕ} (h : HalfEven q n) (lt : q < bound) :
    n ≤ bound := by
  have low := h.low.1
  have : (n : ℚ) < (bound + 1 : ℕ) := by
    push_cast
    linarith
  exact Nat.lt_succ_iff.mp (by exact_mod_cast this)

theorem HalfEven.le_of_le {q : ℚ} {n bound : ℕ} (h : HalfEven q n) (le : bound ≤ q) :
    bound ≤ n := by
  have high := h.high.1
  have : (bound : ℚ) < (n + 1 : ℕ) := by
    push_cast
    linarith
  exact Nat.lt_succ_iff.mp (by exact_mod_cast this)

/-! ## Powers -/

theorem zpow_eq_div (base : ℕ) (exponent : ℤ) :
    (base : ℚ) ^ exponent = (base ^ exponent.toNat : ℕ) / (base ^ (-exponent).toNat : ℕ) := by
  cases exponent with
  | ofNat n => simp
  | negSucc n => simp [zpow_negSucc, Int.neg_negSucc]

theorem two_zpow_eq_div (exponent : ℤ) :
    (2 : ℚ) ^ exponent = (2 ^ exponent.toNat : ℕ) / (2 ^ (-exponent).toNat : ℕ) := by
  exact_mod_cast zpow_eq_div 2 exponent

theorem div_of_scaled {n base num den : ℕ} {exponent : ℤ}
    (split : scaled n base exponent = (num, den)) :
    (num : ℚ) / den = n * (base : ℚ) ^ exponent := by
  obtain ⟨rfl, rfl⟩ := Prod.mk.inj split
  rw [zpow_eq_div, ← mul_div_assoc, ← Nat.cast_mul]
  rfl

theorem two_zpow_log2_le {n : ℕ} (positive : 0 < n) : (2 : ℚ) ^ (n.log2 : ℤ) ≤ n := by
  rw [zpow_natCast]
  exact_mod_cast Nat.log2_self_le positive.ne'

theorem lt_two_zpow_log2 (n : ℕ) : (n : ℚ) < 2 ^ ((n.log2 : ℤ) + 1) := by
  exact_mod_cast Nat.lt_log2_self (n := n)

theorem binaryOrder_spec {num den : ℕ} (numerator : 0 < num) (denominator : 0 < den) :
    (2 : ℚ) ^ binaryOrder num den ≤ num / den ∧
      (num : ℚ) / den < 2 ^ (binaryOrder num den + 1) := by
  have positive : (0 : ℚ) < den := by exact_mod_cast denominator
  have above : (num : ℚ) / den < 2 ^ ((num.log2 : ℤ) - den.log2 + 1) := by
    rw [div_lt_iff₀ positive]
    calc (num : ℚ) < 2 ^ ((num.log2 : ℤ) - den.log2 + 1) * 2 ^ (den.log2 : ℤ) := by
          rw [← zpow_add₀ two_ne_zero]
          convert lt_two_zpow_log2 num using 2
          ring
      _ ≤ 2 ^ ((num.log2 : ℤ) - den.log2 + 1) * den := by
          gcongr
          exact two_zpow_log2_le denominator
  have below : (2 : ℚ) ^ ((num.log2 : ℤ) - den.log2 - 1) ≤ num / den := by
    rw [le_div_iff₀ positive]
    calc (2 : ℚ) ^ ((num.log2 : ℤ) - den.log2 - 1) * den
        ≤ 2 ^ ((num.log2 : ℤ) - den.log2 - 1) * 2 ^ ((den.log2 : ℤ) + 1) := by
          gcongr
          exact (lt_two_zpow_log2 den).le
      _ = 2 ^ (num.log2 : ℤ) := by
          rw [← zpow_add₀ two_ne_zero]
          congr 1
          ring
      _ ≤ num := two_zpow_log2_le numerator
  rw [binaryOrder]
  have guess (e : ℤ) : den * 2 ^ e.toNat ≤ num * 2 ^ (-e).toNat ↔ (2 : ℚ) ^ e ≤ num / den := by
    rw [two_zpow_eq_div, div_le_div_iff₀ (by positivity) positive, mul_comm den]
    norm_cast
  split
  case isTrue reached =>
    exact ⟨(guess _).mp reached, above⟩
  case isFalse missed =>
    rw [sub_add_cancel]
    exact ⟨below, lt_of_not_ge ((guess _).not.mp missed)⟩

theorem digitCount_le_iff (n k : ℕ) : digitCount n ≤ k ↔ n < 10 ^ k := by
  rw [digitCount]
  split
  case isTrue zero =>
    simp [zero]
  case isFalse positive =>
    rcases Nat.eq_zero_or_pos k with rfl | places
    · have := Nat.length_toDigits_pos (b := 10) (n := n)
      rw [pow_zero]
      omega
    · exact Nat.length_toDigits_le_iff (by decide) places

/-! ## The nearest pattern -/

theorem even_parts (places significand : ℕ) :
    Even (places * hiddenBit + significand) ↔ Even significand := by
  rw [Nat.even_add, iff_true_left (Even.mul_left (by decide) places)]

/-- A number of places of some width is rounded to an integral number of them, unless that takes it
to another exponent. -/
theorem rounds_of_halfEven {r : ℚ} {places significand : ℕ} (rounded : HalfEven r significand)
    (fits : r < (2 * hiddenBit : ℕ)) (normal : places = 0 ∨ hiddenBit ≤ r) :
    Rounds (r * 2 ^ (leastExponent + places)) (places * hiddenBit + significand) := by
  have fits' := rounded.le_of_lt fits
  have normal' : places = 0 ∨ hiddenBit ≤ significand := normal.imp_right rounded.le_of_le
  have place : (0 : ℚ) < 2 ^ (leastExponent + places) := zpow_pos two_pos _
  have self := magnitude_of_parts fits' normal'
  have even : Even (places * hiddenBit + significand) = Even significand :=
    propext (even_parts places significand)
  constructor
  case high =>
    rcases Nat.lt_or_ge significand (2 * hiddenBit) with small | full
    · rw [midpoint_of_parts small normal', LeIf.mul_right_iff place, even]
      exact rounded.high
    · -- the number itself is already above
      refine .of_lt (lt_trans ?_ (magnitude_lt_midpoint _))
      rw [self, mul_lt_mul_iff_left₀ place, Nat.le_antisymm fits' full]
      exact fits
  case low =>
    intro below next
    by_cases first : places ≠ 0 ∧ significand = hiddenBit
    · -- the number itself is already below
      refine .of_lt ((midpoint_lt_magnitude_succ below).trans_le ?_)
      rw [← next, self, mul_le_mul_iff_left₀ place, first.2]
      exact normal.resolve_left first.1
    · obtain ⟨last, rfl⟩ : ∃ last, significand = last + 1 := by
        refine Nat.exists_eq_succ_of_ne_zero ?_
        rintro rfl
        have : 0 < hiddenBit := by decide
        have : places = 0 := by omega
        simp [this] at next
      obtain rfl : below = places * hiddenBit + last := by omega
      have middle : (last : ℚ) + 1 / 2 = (last + 1 : ℕ) - 1 / 2 := by
        push_cast
        ring
      rw [midpoint_of_parts (by omega) (by omega), LeIf.mul_right_iff place, even, middle]
      exact rounded.low

/-- A fraction counted in places of some width. -/
theorem cast_places (num den : ℕ) (exponent : ℤ) :
    ((num * Nat.pow 2 (-exponent).toNat : ℕ) : ℚ) / (den * Nat.pow 2 exponent.toNat : ℕ)
      = num / den / 2 ^ exponent := by
  rw [two_zpow_eq_div, div_div_div_eq, ← Nat.cast_mul, ← Nat.cast_mul]
  rfl

theorem exists_rounds_nearestBits (num : ℕ) {den : ℕ} (positive : 0 < den) :
    ∃ bits, Rounds (num / den) bits ∧ nearestBits num den = min infinityBits bits := by
  rw [nearestBits]
  split
  case isTrue zero =>
    refine ⟨0, .zero ?_, rfl⟩
    rw [zero, Nat.cast_zero, zero_div, ← magnitude_zero]
    exact magnitude_lt_midpoint 0
  case isFalse nonzero =>
    obtain ⟨low, high⟩ := binaryOrder_spec (Nat.pos_of_ne_zero nonzero) positive
    generalize binaryOrder num den = order at *
    obtain ⟨places, exponent⟩ : ∃ places : ℕ,
        max (order - 52) leastExponent = leastExponent + places :=
      ⟨(order - 52 - leastExponent).toNat, by omega⟩
    rw [exponent]
    dsimp only
    have place : (0 : ℚ) < 2 ^ (leastExponent + places) := zpow_pos two_pos _
    have power : 0 < Nat.pow 2 (leastExponent + places).toNat := Nat.pow_pos two_pos
    have rounded := halfEven_roundHalfEven (num * Nat.pow 2 (-(leastExponent + places)).toNat)
      (Nat.mul_pos positive power)
    rw [cast_places] at rounded
    generalize roundHalfEven (num * Nat.pow 2 _) _ = significand at rounded ⊢
    have fits : (num : ℚ) / den / 2 ^ (leastExponent + places) < (2 * hiddenBit : ℕ) := by
      rw [div_lt_iff₀ place, Nat.cast_mul, cast_hiddenBit, Nat.cast_two, mul_assoc,
        ← zpow_add₀ two_ne_zero, ← zpow_one_add₀ two_ne_zero]
      exact high.trans_le (zpow_le_zpow_right₀ one_le_two (by omega))
    have normal : places = 0 ∨ (hiddenBit : ℚ) ≤ num / den / 2 ^ (leastExponent + places) := by
      rw [le_div_iff₀ place, cast_hiddenBit, ← zpow_add₀ two_ne_zero]
      refine (Nat.eq_zero_or_pos places).imp_right fun _ => ?_
      exact (zpow_le_zpow_right₀ one_le_two (by omega)).trans low
    have rounds := rounds_of_halfEven rounded fits normal
    rw [div_mul_cancel₀ _ place.ne'] at rounds
    refine ⟨_, rounds, ?_⟩
    split
    case isTrue subnormal =>
      have first : places = 0 :=
        normal.resolve_right fun normal' => Nat.not_lt.mpr (rounded.le_of_le normal') subnormal
      have finite : hiddenBit < infinityBits := by decide
      rw [first, Nat.zero_mul, Nat.zero_add, Nat.min_eq_right (subnormal.trans finite).le]
    case isFalse normal' =>
      have same : (leastExponent + places - leastExponent).toNat = places := by omega
      rw [same]

/-- The pattern of an integer is the one that its absolute value is rounded to. -/
theorem exists_rounds_ofInt (n : ℤ) : ∃ bits, Rounds n.natAbs bits ∧
    ofInt n = ofPattern (decide (n < 0)) (min infinityBits bits) := by
  obtain ⟨bits, rounds, found⟩ := exists_rounds_nearestBits n.natAbs one_pos
  rw [Nat.cast_one, div_one] at rounds
  exact ⟨bits, rounds, by rw [ofInt, nearest, found]⟩

section Digits

variable {digits : ℕ} (exponent : ℤ)

theorem lt_zpow_digitCount :
    (digits : ℚ) * 10 ^ exponent < 10 ^ (exponent + digitCount digits) := by
  have below : digits < 10 ^ digitCount digits := (digitCount_le_iff _ _).mp le_rfl
  rw [zpow_add₀ (by norm_num), zpow_natCast, mul_comm]
  refine mul_lt_mul_of_pos_left ?_ (by positivity)
  exact_mod_cast below

theorem zpow_digitCount_le (positive : 0 < digits) :
    10 ^ (exponent + digitCount digits - 1) ≤ (digits : ℚ) * 10 ^ exponent := by
  obtain ⟨count, counted⟩ : ∃ count, digitCount digits = count + 1 := by
    refine Nat.exists_eq_succ_of_ne_zero fun none => ?_
    have := (digitCount_le_iff digits 0).mp none.le
    omega
  have above : 10 ^ count ≤ digits := by
    refine Nat.le_of_not_lt fun below => ?_
    have := (digitCount_le_iff digits count).mpr below
    omega
  have order : exponent + digitCount digits - 1 = count + exponent := by omega
  rw [order, zpow_add₀ (by norm_num), zpow_natCast]
  refine mul_le_mul_of_nonneg_right ?_ (by positivity)
  exact_mod_cast above

/-- The pattern of a decimal is the one that its absolute value is rounded to. What is decided by
the order of magnitude alone is no exception. -/
theorem exists_rounds_ofDigits (negative : Bool) : ∃ bits, Rounds (digits * 10 ^ exponent) bits ∧
    ofDigits negative digits exponent = ofPattern negative (min infinityBits bits) := by
  rw [ofDigits]
  dsimp only
  split
  case isTrue small =>
    refine ⟨0, .zero ?_, rfl⟩
    rw [midpoint_zero]
    rcases small with rfl | small
    · rw [Nat.cast_zero, zero_mul]
      positivity
    · calc (digits : ℚ) * 10 ^ exponent < 10 ^ (exponent + digitCount digits) :=
            lt_zpow_digitCount exponent
        _ ≤ 10 ^ (-401 : ℤ) := zpow_le_zpow_right₀ (by norm_num) (by omega)
        _ ≤ (10 ^ (-16 : ℤ)) ^ (25 : ℤ) := by
          rw [← zpow_mul]
          exact zpow_le_zpow_right₀ (by norm_num) (by norm_num)
        _ ≤ (2 ^ (-43 : ℤ)) ^ (25 : ℤ) :=
          zpow_le_zpow_left₀ (by norm_num) (by positivity) (by norm_num)
        _ = 2 ^ (-1075 : ℤ) := by rw [← zpow_mul]; rfl
  rename_i notSmall
  obtain ⟨nonzero, _⟩ := not_or.mp notSmall
  obtain ⟨num, den, split, positive⟩ : ∃ num den,
      scaled digits 10 exponent = (num, den) ∧ 0 < den := ⟨_, _, rfl, Nat.pow_pos (by decide)⟩
  have exact := div_of_scaled split
  rw [Nat.cast_ofNat] at exact
  obtain ⟨bits, rounds, found⟩ := exists_rounds_nearestBits num positive
  rw [exact] at rounds
  refine ⟨bits, rounds, ?_⟩
  split
  case isTrue large =>
    have reached : infinityBits ≤ bits := by
      refine rounds.le_of_magnitude_le ?_
      rw [magnitude_infinityBits]
      calc (2 : ℚ) ^ 1024 = (2 ^ 64) ^ 16 := by rw [← pow_mul]
        _ ≤ (10 ^ 25) ^ 16 := pow_le_pow_left₀ (by norm_num) (by norm_num) 16
        _ = 10 ^ (400 : ℤ) := by rw [← pow_mul]; rfl
        _ ≤ 10 ^ (exponent + digitCount digits - 1) := zpow_le_zpow_right₀ (by norm_num) (by omega)
        _ ≤ digits * 10 ^ exponent := zpow_digitCount_le exponent (Nat.pos_of_ne_zero nonzero)
    rw [Nat.min_eq_left reached, infinity]
  case isFalse =>
    rw [split, nearest, found]

end Digits

end XmlTemplate.Decimal
