import Mathlib
import XmlTemplate.Proofs.Nearest

/-!
# Shortest decimals are read back

The interval of a number reaches to the midpoints to its neighbours, so that the decimals in it are
rounded to the number (`Interval.Spans.rounds_of_covers`). Seventeen digits are always enough to hit
the interval (`withDigits?_ne_none`): the shortest decimal exists and is rounded to the number
(`rounds_shortest`).
-/

namespace XmlTemplate.Decimal

/-- The number that digits with an exponent of ten denote. -/
def Digits.value (d : Digits) : ℚ :=
  d.digits * 10 ^ d.exponent

/-! ## The interval of a number -/

/-- The ends of the interval are the midpoints to the neighbours of the number. -/
structure Interval.Spans (i : Interval) (quarter : ℚ) (below : ℕ) : Prop where
  low : i.low * quarter = midpoint below
  high : i.high * quarter = midpoint (below + 1)
  closed : i.closed = true ↔ Even (below + 1)

/-- The last number of an exponent has a full significand, and the first one of the next exponent is
half of one of its places away from the midpoint between them. -/
theorem midpoint_before_power (before : ℕ) :
    midpoint (before * hiddenBit + (2 * hiddenBit - 1))
      = (4 * hiddenBit - 1 : ℕ) * 2 ^ (leastExponent + (before + 1 : ℕ) - 2) := by
  have positive : 0 < hiddenBit := by decide
  have half : (2 : ℚ) ^ (leastExponent + before)
      = 2 * 2 ^ (leastExponent + (before + 1 : ℕ) - 2) := by
    rw [← zpow_one_add₀ two_ne_zero]
    congr 1
    push_cast
    ring
  rw [midpoint_of_parts (by omega) (.inr (by omega)), half, Nat.cast_sub (by omega),
    Nat.cast_sub (by omega)]
  push_cast
  ring

theorem spans_ofBinary (below : ℕ) :
    (Interval.ofBinary (.ofBits (below + 1))).Spans
      (2 ^ ((Binary.ofBits (below + 1)).exponent - 2)) below := by
  obtain ⟨places, significand, parts, fits, normal, read⟩ := exists_parts (below + 1)
  have place : (2 : ℚ) ^ (leastExponent + places) = 4 * 2 ^ (leastExponent + places - 2) := by
    rw [zpow_sub₀ two_ne_zero]
    ring
  have positive : 0 < hiddenBit := by decide
  rw [read]
  constructor
  · rw [Interval.ofBinary]
    dsimp only
    split
    case isTrue first =>
      obtain ⟨rfl, later⟩ := first
      obtain ⟨before, rfl⟩ : ∃ before, places = before + 1 :=
        Nat.exists_eq_succ_of_ne_zero (by omega)
      have last : below = before * hiddenBit + (2 * hiddenBit - 1) := by
        rw [Nat.add_mul] at parts
        omega
      rw [last, midpoint_before_power]
    case isFalse later =>
      obtain ⟨last, rfl⟩ : ∃ last, significand = last + 1 := by
        refine Nat.exists_eq_succ_of_ne_zero ?_
        rintro rfl
        have : places = 0 := by omega
        simp [this] at parts
      have last' : below = places * hiddenBit + last := by omega
      have normal' : places = 0 ∨ hiddenBit ≤ last := by omega
      rw [last', midpoint_of_parts (by omega) normal', place, Nat.cast_sub (by omega)]
      push_cast
      ring
  · rw [parts, midpoint_of_parts fits normal, place]
    simp only [Interval.ofBinary]
    push_cast
    ring
  · rw [parts, even_parts, Nat.even_iff]
    simp only [Interval.ofBinary, beq_iff_eq]

section Covers

variable {i : Interval} {quarter width : ℚ} {unit step below : ℕ}

theorem Interval.covers_iff {point : ℕ} : i.covers unit step point = true ↔
    LeIf (i.closed = true) (i.low * unit : ℕ) (point * step : ℕ) ∧
    LeIf (i.closed = true) (point * step : ℕ) (i.high * unit : ℕ) := by
  rw [Interval.covers, LeIf, LeIf, Nat.cast_le, Nat.cast_inj, Nat.cast_le, Nat.cast_inj]
  split
  case isTrue closed =>
    simp [closed]
  case isFalse opened =>
    simp [opened, Nat.lt_iff_le_and_ne]

/-- What lies in the interval is rounded to the number. -/
theorem Interval.Spans.rounds_of_covers (spans : i.Spans quarter below) {denominator : ℚ}
    (positive : 0 < denominator) (unit_eq : unit = quarter * denominator)
    (step_eq : step = width * denominator) {point : ℕ} (h : i.covers unit step point = true) :
    Rounds (point * width) (below + 1) := by
  have scale (edge : ℕ) (m : ℚ) (h : edge * quarter = m) :
      ((edge * unit : ℕ) : ℚ) = m * denominator := by
    rw [Nat.cast_mul, unit_eq, ← h, mul_assoc]
  have here : ((point * step : ℕ) : ℚ) = point * width * denominator := by
    rw [Nat.cast_mul, step_eq, mul_assoc]
  rw [Interval.covers_iff, scale _ _ spans.low, scale _ _ spans.high, here,
    LeIf.mul_right_iff positive, LeIf.mul_right_iff positive, propext spans.closed] at h
  refine ⟨?_, h.2⟩
  rintro _ ⟨⟩
  exact h.1

theorem Interval.covers_of_nearestMultiple? {found : ℕ}
    (h : i.nearestMultiple? unit step = some found) : i.covers unit step found = true := by
  rw [Interval.nearestMultiple?] at h
  split at h
  case h_1 first second =>
    obtain rfl := Option.some.inj h
    split
    · exact first
    · exact second
  case h_2 first _ =>
    obtain rfl := Option.some.inj h
    exact first
  case h_3 _ second =>
    obtain rfl := Option.some.inj h
    exact second
  case h_4 =>
    cases h

/-- What lies strictly between the ends is covered. -/
theorem Interval.covers_of_lt {point : ℕ} (above : i.low * unit < point * step)
    (under : point * step < i.high * unit) : i.covers unit step point = true :=
  Interval.covers_iff.mpr ⟨.of_lt (by exact_mod_cast above), .of_lt (by exact_mod_cast under)⟩

/-- One of two neighbouring multiples is less than half of a last place away, if they are close
enough to each other. -/
theorem Interval.nearestMultiple?_ne_none (step_pos : 0 < step) (high : i.high = i.middle + 2)
    (close : i.middle = i.low + 2 ∧ step < 4 * unit ∨ i.middle = i.low + 1 ∧ step < 2 * unit) :
    i.nearestMultiple? unit step ≠ none := by
  have parts := Nat.div_add_mod' (i.middle * unit) step
  have rest := Nat.mod_lt (i.middle * unit) step_pos
  have high' : i.high * unit = i.middle * unit + 2 * unit := by rw [high, Nat.add_mul]
  rw [Interval.nearestMultiple?]
  generalize i.middle * unit / step = first at *
  generalize i.middle * unit % step = behind at *
  have second : (first + 1) * step = first * step + step := by rw [Nat.add_mul, Nat.one_mul]
  have covered : i.covers unit step first = true ∨ i.covers unit step (first + 1) = true := by
    rcases close with ⟨low, width⟩ | ⟨low, width⟩
    · have low' : i.middle * unit = i.low * unit + 2 * unit := by rw [low, Nat.add_mul]
      rcases Nat.lt_or_ge behind (2 * unit) with near | far
      · exact .inl (covers_of_lt (by omega) (by omega))
      · exact .inr (covers_of_lt (by omega) (by omega))
    · have low' : i.middle * unit = i.low * unit + 1 * unit := by rw [low, Nat.add_mul]
      exact .inr (covers_of_lt (by omega) (by omega))
  split
  case h_4 notFirst notSecond =>
    simp [notFirst, notSecond] at covered
  all_goals exact Option.some_ne_none _

end Covers

/-! ## Seventeen digits -/

/-- The parts of a scaled number stay apart when they are brought over a common denominator. -/
theorem cast_of_scaled {n base num den : ℕ} {exponent : ℤ} (base_pos : 0 < base)
    (split : scaled n base exponent = (num, den)) :
    0 < den ∧ (num : ℚ) = n * (base : ℚ) ^ exponent * den := by
  have den_pos : 0 < den := by
    obtain ⟨-, rfl⟩ := Prod.mk.inj split
    exact Nat.pow_pos base_pos
  refine ⟨den_pos, ?_⟩
  rw [← div_of_scaled split, div_mul_cancel₀]
  exact_mod_cast den_pos.ne'

/-- The unit and the step that decimals with so many digits are counted in, over a common
denominator. -/
theorem exists_common (x : Binary) (order : ℤ) (count : ℕ) : ∃ unit step denominator : ℕ,
    0 < step ∧ 0 < (denominator : ℚ) ∧ (unit : ℚ) = 2 ^ (x.exponent - 2) * denominator ∧
    (step : ℚ) = 10 ^ (order + 1 - count) * denominator ∧
    withDigits? x order count = ((Interval.ofBinary x).nearestMultiple? unit step).map fun digits =>
      if digits = Nat.pow 10 count then ⟨1, order + 1 - count + count⟩
      else ⟨digits, order + 1 - count⟩ := by
  obtain ⟨unitNum, unitDen, unit⟩ : ∃ unitNum unitDen,
      scaled 1 2 (x.exponent - 2) = (unitNum, unitDen) := ⟨_, _, rfl⟩
  obtain ⟨stepNum, stepDen, step⟩ : ∃ stepNum stepDen,
      scaled 1 10 (order + 1 - count) = (stepNum, stepDen) := ⟨_, _, rfl⟩
  obtain ⟨unitDen_pos, unit'⟩ := cast_of_scaled (by decide) unit
  obtain ⟨stepDen_pos, step'⟩ := cast_of_scaled (by decide) step
  have stepNum_pos : 0 < stepNum := by
    have : (0 : ℚ) < stepNum := by
      rw [step']
      positivity
    exact_mod_cast this
  refine ⟨unitNum * stepDen, stepNum * unitDen, unitDen * stepDen, by positivity, by positivity,
    ?_, ?_, ?_⟩
  · push_cast [unit']
    ring
  · push_cast [step']
    ring
  · rw [withDigits?]
    dsimp only
    rw [unit, step]

theorem rounds_of_withDigits? {below count : ℕ} {order : ℤ} {d : Digits}
    (h : withDigits? (.ofBits (below + 1)) order count = some d) : Rounds d.value (below + 1) := by
  obtain ⟨unit, step, denominator, -, positive, unit_eq, step_eq, eq⟩ :=
    exists_common (.ofBits (below + 1)) order count
  rw [eq] at h
  obtain ⟨digits, found, rfl⟩ := Option.map_eq_some_iff.mp h
  have rounds := (spans_ofBinary below).rounds_of_covers positive unit_eq step_eq
    (Interval.covers_of_nearestMultiple? found)
  split
  case isTrue full =>
    have power : (digits : ℚ) = 10 ^ (count : ℤ) := by
      rw [full, zpow_natCast]
      exact Nat.cast_pow 10 count
    rw [power, ← zpow_add₀ (by norm_num)] at rounds
    rw [Digits.value, Nat.cast_one, one_mul, Int.add_comm]
    exact rounds
  case isFalse =>
    exact rounds

/-- A step of the seventeenth digit is less than a last place, and less than half of it where the
significand is the hidden bit alone. -/
theorem withDigits?_ne_none {below : ℕ} {order : ℤ}
    (le : (10 : ℚ) ^ order ≤ magnitude (below + 1)) :
    withDigits? (.ofBits (below + 1)) order 17 ≠ none := by
  obtain ⟨unit, step, denominator, step_pos, positive, unit_eq, step_eq, eq⟩ :=
    exists_common (.ofBits (below + 1)) order 17
  obtain ⟨places, significand, -, fits, -, read⟩ := exists_parts (below + 1)
  rw [eq, ne_eq, Option.map_eq_none_iff]
  rw [magnitude, read, Binary.value] at le
  rw [read] at unit_eq ⊢
  dsimp only at le unit_eq
  have unit' : (4 * unit : ℚ) = 2 ^ (leastExponent + places) * denominator := by
    rw [unit_eq, zpow_sub₀ two_ne_zero]
    ring
  have step' : (step : ℚ) * 10 ^ 16 ≤ significand * (4 * unit) := by
    have exponent : order + 1 - (17 : ℕ) = order - 16 := by omega
    calc (step : ℚ) * 10 ^ 16 = 10 ^ order * denominator := by
          rw [step_eq, exponent, zpow_sub₀ (by norm_num)]
          field_simp
        _ ≤ significand * 2 ^ (leastExponent + places) * denominator := by gcongr
        _ = significand * (4 * unit) := by rw [unit', mul_assoc]
  have step'' : step * 10 ^ 16 ≤ significand * (4 * unit) := by exact_mod_cast step'
  have most : significand * (4 * unit) ≤ (2 * hiddenBit - 1) * (4 * unit) :=
    Nat.mul_le_mul_right _ (by omega)
  have significand_pos : 0 < significand := by
    refine Nat.pos_of_ne_zero ?_
    rintro rfl
    omega
  refine Interval.nearestMultiple?_ne_none step_pos rfl ?_
  rw [Interval.ofBinary]
  dsimp only
  split
  case isTrue first =>
    refine .inr ⟨by omega, ?_⟩
    rw [first.1] at step''
    simp only [hiddenBit] at step''
    omega
  case isFalse =>
    refine .inl ⟨by omega, ?_⟩
    simp only [hiddenBit] at most
    omega

theorem zpow_decimalOrder_le {num den : ℕ} (numerator : 0 < num) (denominator : 0 < den) :
    (10 : ℚ) ^ decimalOrder num den ≤ num / den := by
  have positive : (0 : ℚ) < den := by exact_mod_cast denominator
  rw [decimalOrder]
  split
  case isTrue large =>
    have quotient := zpow_digitCount_le 0 (Nat.div_pos large denominator)
    rw [zpow_zero, mul_one, zero_add] at quotient
    exact quotient.trans Nat.cast_div_le
  case isFalse small =>
    have below : (den - 1) / num < 10 ^ digitCount ((den - 1) / num) :=
      (digitCount_le_iff _ _).mp le_rfl
    rw [Nat.div_lt_iff_lt_mul numerator] at below
    have below' : den ≤ 10 ^ digitCount ((den - 1) / num) * num := by omega
    rw [zpow_neg, zpow_natCast, le_div_iff₀ positive, inv_mul_le_iff₀ (by positivity)]
    exact_mod_cast below'

/-- The shortest decimal is read back as the number. -/
theorem rounds_shortest {bits : ℕ} (positive : 0 < bits) :
    Rounds (shortest (.ofBits bits)).value bits := by
  obtain ⟨below, rfl⟩ := Nat.exists_eq_succ_of_ne_zero positive.ne'
  obtain ⟨num, den, split⟩ : ∃ num den, scaled (Binary.ofBits (below + 1)).significand 2
      (Binary.ofBits (below + 1)).exponent = (num, den) := ⟨_, _, rfl⟩
  obtain ⟨den_pos, -⟩ := cast_of_scaled (by decide) split
  have exact : (num : ℚ) / den = magnitude (below + 1) := div_of_scaled split
  have num_pos : 0 < num := by
    refine Nat.pos_of_ne_zero ?_
    rintro rfl
    rw [Nat.cast_zero, zero_div] at exact
    exact (magnitude_zero.symm.trans_lt (strictMono_magnitude below.succ_pos)).ne exact
  have order := zpow_decimalOrder_le num_pos den_pos
  rw [exact] at order
  rw [shortest, split]
  dsimp only
  cases found : (List.range' 1 17).findSome?
      (withDigits? (.ofBits (below + 1)) (decimalOrder num den)) with
  | none =>
      have := List.findSome?_eq_none_iff.mp found 17 (by decide)
      exact absurd this (withDigits?_ne_none order)
  | some d =>
      obtain ⟨count, -, found'⟩ := List.exists_of_findSome?_eq_some found
      exact rounds_of_withDigits? found'

end XmlTemplate.Decimal
