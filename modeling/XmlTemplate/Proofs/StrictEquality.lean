import Mathlib
import XmlTemplate.Value.Equality
import XmlTemplate.Proofs.Operand

/-!
# Strict equality

Floats are compared as the numbers that they denote (`beq_iff_denoted?`), integers as integers, and
an integer with a float after it has been rounded to one. So strict equality is symmetric, and
reflexive where there is something to compare; but an integer that no float denotes is equal to the
float it is rounded to, which keeps the relation from being transitive: a float can be equal to two
different integers. `strictEq_partial_equivalence` says that nothing else keeps it from that, and
for which integers being equal to a float is being the same number.
-/

namespace XmlTemplate

namespace Decimal

/-! ## The number that a float denotes -/

/-- The number with a sign. -/
def signed (negative : Bool) (q : ℚ) : ℚ :=
  if negative then -q else q

/-- The number that the float denotes, if it is finite. -/
def denoted? (x : Float) : Option ℚ :=
  if x.isNaN || x.isInf then none
  else some (signed (decide (x < 0)) (Binary.ofFloat x).value)

theorem magnitude_eq_zero_iff {bits : ℕ} : magnitude bits = 0 ↔ bits = 0 := by
  rw [← magnitude_zero]
  exact strictMono_magnitude.injective.eq_iff

theorem magnitude_nonneg (bits : ℕ) : 0 ≤ magnitude bits := by
  rw [← magnitude_zero]
  exact strictMono_magnitude.monotone (Nat.zero_le bits)

theorem signed_natAbs (n : ℤ) : signed (decide (n < 0)) n.natAbs = n := by
  rw [signed, Nat.cast_natAbs]
  rcases lt_or_ge n 0 with negative | nonneg
  · rw [if_pos (decide_eq_true negative), abs_of_neg negative, Int.cast_neg, neg_neg]
  · rw [if_neg (by simpa using nonneg), abs_of_nonneg nonneg]

theorem abs_signed (negative : Bool) (q : ℚ) : |signed negative q| = |q| := by
  cases negative with
  | false => rfl
  | true => exact abs_neg q

section Pattern

variable {negative negative' : Bool} {bits bits' : ℕ}

/-- Numbers with different patterns are different. A zero has no sign. -/
theorem signed_magnitude_inj : signed negative (magnitude bits) = signed negative' (magnitude bits')
    ↔ bits = bits' ∧ (negative = negative' ∨ bits = 0) := by
  have nonneg := magnitude_nonneg bits
  have nonneg' := magnitude_nonneg bits'
  -- of two numbers with different signs, both are zero or they differ
  have apart : magnitude bits = -magnitude bits' ↔ bits = bits' ∧ bits = 0 := by
    constructor
    · intro same
      have zero := magnitude_eq_zero_iff.mp (show magnitude bits = 0 by linarith)
      have zero' := magnitude_eq_zero_iff.mp (show magnitude bits' = 0 by linarith)
      exact ⟨zero.trans zero'.symm, zero⟩
    · rintro ⟨rfl, rfl⟩
      rw [magnitude_zero, neg_zero]
  have same : magnitude bits = magnitude bits' ↔ bits = bits' :=
    strictMono_magnitude.injective.eq_iff
  cases negative <;> cases negative'
  all_goals simp [signed, same, apart, neg_eq_iff_eq_neg]

theorem denoted?_ofPattern (h : bits < infinityBits) :
    denoted? (ofPattern negative bits) = some (signed negative (magnitude bits)) := by
  have finite : (ofPattern negative bits).isInf = false := by
    rw [← Bool.not_eq_true, isInf_ofPattern h.le]
    exact h.ne
  rw [denoted?, isNaN_ofPattern h.le, finite, Binary.ofFloat_ofPattern h.le]
  show some (signed _ (magnitude bits)) = _
  rw [Option.some_inj, signed_magnitude_inj]
  refine ⟨rfl, ?_⟩
  by_cases zero : bits = 0
  · exact .inr zero
  · left
    simp [lt_zero_ofPattern h.le, zero]

theorem denoted?_infinity : denoted? (ofPattern negative infinityBits) = none := by
  rw [denoted?, (isInf_ofPattern le_rfl).mpr rfl, Bool.or_true]
  rfl

/-- A float is NaN, or infinite, or it has the pattern of the number that it denotes. -/
theorem denoted?_eq_some_iff {x : Float} {q : ℚ} : denoted? x = some q ↔ ∃ negative bits,
    bits < infinityBits ∧ x = ofPattern negative bits ∧ signed negative (magnitude bits) = q := by
  constructor
  · intro h
    cases number : x.isNaN with
    | true =>
        rw [denoted?, number] at h
        cases h
    | false =>
        obtain ⟨negative, bits, le, rfl⟩ := exists_ofPattern number
        rcases le.lt_or_eq with lt | rfl
        · rw [denoted?_ofPattern lt] at h
          exact ⟨negative, bits, lt, rfl, Option.some.inj h⟩
        · rw [denoted?_infinity] at h
          cases h
  · rintro ⟨negative, bits, lt, rfl, rfl⟩
    exact denoted?_ofPattern lt

theorem ne_nan_iff {x : Float} : x ≠ Float.nan ↔ x.isNaN = false := by
  rw [Float.isNaN_eq_decide_eq_nan, decide_eq_false_iff_not]

theorem ofPattern_inj (h : bits ≤ infinityBits) (h' : bits' ≤ infinityBits) :
    ofPattern negative bits = ofPattern negative' bits' ↔ negative = negative' ∧ bits = bits' := by
  rw [← Float.toBits_inj, toBits_ofPattern h, toBits_ofPattern h', ← UInt64.toNat_inj,
    toNat_wordOf _ h, toNat_wordOf _ h']
  simp only [infinityBits, signBit] at *
  cases negative <;> cases negative' <;> simp <;> omega

theorem beq_ofPattern (h : bits ≤ infinityBits) (h' : bits' ≤ infinityBits) :
    (ofPattern negative bits == ofPattern negative' bits') = true
      ↔ bits = bits' ∧ (negative = negative' ∨ bits = 0) := by
  have number : ofPattern negative bits ≠ Float.nan := ne_nan_iff.mpr (isNaN_ofPattern h)
  have number' : ofPattern negative' bits' ≠ Float.nan := ne_nan_iff.mpr (isNaN_ofPattern h')
  have zero : (0 : Float) = ofPattern false 0 := rfl
  have negativeZero : (-0 : Float) = ofPattern true 0 := rfl
  rw [Float.beq_iff_ne_nan_and_eq, and_iff_right number, and_iff_right number', negativeZero, zero,
    ofPattern_inj h h', ofPattern_inj h (Nat.zero_le _), ofPattern_inj h (Nat.zero_le _),
    ofPattern_inj h' (Nat.zero_le _), ofPattern_inj h' (Nat.zero_le _)]
  cases negative <;> cases negative' <;> simp <;> omega

/-- A number is equal to what denotes the same number. -/
theorem beq_iff_denoted? {x y : Float} {q : ℚ} (h : denoted? x = some q) :
    (x == y) = true ↔ denoted? y = some q := by
  obtain ⟨negative, bits, lt, rfl, rfl⟩ := denoted?_eq_some_iff.mp h
  constructor
  · intro same
    have number := ne_nan_iff.mp (Float.beq_iff_ne_nan_and_eq.mp same).2.1
    obtain ⟨negative', bits', le, rfl⟩ := exists_ofPattern number
    obtain ⟨rfl, sign⟩ := (beq_ofPattern lt.le le).mp same
    rw [denoted?_ofPattern lt, signed_magnitude_inj.mpr ⟨rfl, sign⟩]
  · intro denoted
    obtain ⟨negative', bits', lt', rfl, same⟩ := denoted?_eq_some_iff.mp denoted
    exact (beq_ofPattern lt.le lt'.le).mpr (signed_magnitude_inj.mp same.symm)

end Pattern

/-! ## The number that an integer is rounded to -/

/-- A number that is met exactly is the nearest one. -/
theorem IsNearest.magnitude_eq {q : ℚ} {bits other : ℕ} (h : IsNearest q bits)
    (exact : magnitude other = q) : magnitude bits = q := by
  have within := h.nearest other
  rw [exact, sub_self, abs_zero] at within
  exact (sub_eq_zero.mp (abs_nonpos_iff.mp within)).symm

/-- An integer is rounded to a finite number. -/
theorem exists_isNearest_ofInt (n : Int64) : ∃ bits < infinityBits, IsNearest n.toInt.natAbs bits ∧
    ofInt n.toInt = ofPattern (decide (n.toInt < 0)) bits := by
  obtain ⟨bits, rounds, found⟩ := exists_rounds_ofInt n.toInt
  have low := n.le_toInt
  have high := n.toInt_lt
  have less := rounds.lt_infinityBits (by omega)
  exact ⟨bits, less, rounds.isNearest, by rw [found, Nat.min_eq_right less.le]⟩

/-- The significand of an integer of up to 53 binary digits can be filled up with zeros. -/
theorem exists_shift {n : ℕ} (positive : 0 < n) (le : n ≤ 2 ^ 53) :
    ∃ k ≤ 52, hiddenBit ≤ n * 2 ^ k ∧ n * 2 ^ k ≤ 2 * hiddenBit := by
  rcases le.lt_or_eq with lt | rfl
  · have order : n.log2 ≤ 52 := Nat.le_of_lt_succ ((Nat.log2_lt positive.ne').mpr lt)
    have split : 2 ^ n.log2 * 2 ^ (52 - n.log2) = hiddenBit := by
      rw [← Nat.pow_add, Nat.add_sub_cancel' order]
      rfl
    refine ⟨52 - n.log2, Nat.sub_le _ _, ?_, ?_⟩
    · rw [← split]
      exact Nat.mul_le_mul_right _ (Nat.log2_self_le positive.ne')
    · rw [← split, ← Nat.mul_assoc, ← Nat.pow_succ']
      exact Nat.mul_le_mul_right _ Nat.lt_log2_self.le
  · exact ⟨0, Nat.zero_le _, by decide, by decide⟩

theorem exists_magnitude_eq {n : ℕ} (le : n ≤ 2 ^ 53) :
    ∃ bits < infinityBits, magnitude bits = n := by
  rcases n.eq_zero_or_pos with rfl | positive
  · exact ⟨0, by decide, by rw [magnitude_zero, Nat.cast_zero]⟩
  obtain ⟨k, few, normal, fits⟩ := exists_shift positive le
  refine ⟨(1074 - k) * hiddenBit + n * 2 ^ k, ?_, ?_⟩
  · simp only [infinityBits, hiddenBit] at *
    omega
  · rw [magnitude_of_parts fits (.inr normal), Nat.cast_mul, Nat.cast_pow, mul_assoc]
    have exponents : leastExponent + (1074 - k : ℕ) = -(k : ℤ) := by
      simp only [leastExponent]
      omega
    rw [exponents, zpow_neg, zpow_natCast, Nat.cast_two, mul_inv_cancel₀ (by positivity), mul_one]

end Decimal

open Decimal

namespace Value

/-! ## Integers and floats -/

/-- An integer is equal to the floats that denote what it is rounded to. -/
theorem exists_isNearest_strictEq (n : Int64) : ∃ bits < infinityBits,
    IsNearest n.toInt.natAbs bits ∧ ∀ x, strictEq (.int n) (.float x) = true ↔
      denoted? x = some (signed (decide (n.toInt < 0)) (magnitude bits)) := by
  obtain ⟨bits, less, nearest, found⟩ := exists_isNearest_ofInt n
  refine ⟨bits, less, nearest, fun x => ?_⟩
  show (ofInt n.toInt == x) = true ↔ _
  rw [found]
  exact beq_iff_denoted? (denoted?_ofPattern less)

/-- Being equal to a float is being the same number for the integers that floats denote. -/
theorem strictEq_exact_iff (n : Int64) :
    (∀ x, strictEq (.int n) (.float x) = true ↔ denoted? x = some (n.toInt : ℚ)) ↔
      ∃ x, denoted? x = some (n.toInt : ℚ) := by
  obtain ⟨bits, less, nearest, equal⟩ := exists_isNearest_strictEq n
  constructor
  · intro exact
    exact ⟨_, (exact _).mp ((equal _).mpr (denoted?_ofPattern less))⟩
  · rintro ⟨y, denoted⟩
    obtain ⟨negative, bits', -, -, same⟩ := denoted?_eq_some_iff.mp denoted
    have exact : magnitude bits' = n.toInt.natAbs := by
      rw [Nat.cast_natAbs, Int.cast_abs, ← same, abs_signed, abs_of_nonneg (magnitude_nonneg _)]
    rw [nearest.magnitude_eq exact, signed_natAbs] at equal
    exact equal

/-- The integers of up to 53 binary digits are among them. -/
theorem exists_denoted?_toInt {n : ℤ} (small : n.natAbs ≤ 2 ^ 53) :
    ∃ x, denoted? x = some (n : ℚ) := by
  obtain ⟨bits, less, exact⟩ := exists_magnitude_eq small
  exact ⟨_, by rw [denoted?_ofPattern less, exact, signed_natAbs]⟩

/-! ## The relation -/

/-- The values that are equal only to themselves. -/
def IsAtom (v : Value) : Prop :=
  v.kind ∈ [.none, .bool, .string]

/-- What strict equality finds equal: an atom and itself, and numbers that are equal as floats, two
integers only if they are the same one. -/
theorem strictEq_iff {a b : Value} : strictEq a b = true ↔
    (a.IsAtom ∧ a = b) ∨ (a.IsNumber ∧ b.IsNumber ∧ (a.toNumber == b.toNumber) = true ∧
      ∀ m n, a = .int m → b = .int n → m = n) := by
  have self (n : Int64) : (toNumber (.int n) == toNumber (.int n)) = true :=
    Float.beq_self_iff.mpr (ne_nan_iff.mpr (isNaN_ofInt n.toInt))
  cases a with
  | int m =>
      cases b with
      | int n =>
          constructor
          · intro same
            rw [eq_of_beq same]
            exact .inr ⟨.inl rfl, .inl rfl, self n, fun _ _ left right =>
              Value.int.inj (left.symm.trans right)⟩
          · rintro (⟨atom, -⟩ | ⟨-, -, -, same⟩)
            · simp [IsAtom, kind] at atom
            · exact beq_iff_eq.mpr (same m n rfl rfl)
      | _ => simp [strictEq, IsAtom, IsNumber, kind, toNumber]
  | _ => cases b <;> simp [strictEq, IsAtom, IsNumber, kind, toNumber]

theorem strictEq_symm {a b : Value} (h : strictEq a b = true) : strictEq b a = true := by
  rw [strictEq_iff] at h ⊢
  rcases h with ⟨atom, rfl⟩ | ⟨number, number', same, integers⟩
  · exact .inl ⟨atom, rfl⟩
  · exact .inr ⟨number', number, BEq.symm same, fun m n left right =>
      (integers n m right left).symm⟩

theorem strictEq_comm (a b : Value) : strictEq a b = strictEq b a :=
  Bool.eq_iff_iff.mpr ⟨strictEq_symm, strictEq_symm⟩

theorem strictEq_self_iff (a : Value) : strictEq a a = true ↔
    (∀ items, a ≠ .list items) ∧ (∀ entries, a ≠ .map entries) ∧
      ∀ x, a = .float x → x.isNaN = false := by
  cases a with
  | float x => simp [strictEq]
  | _ => simp [strictEq]

/-- Between equal values, only a float can stand between two integers that are different. -/
theorem strictEq_trans_iff {a b c : Value} (h : strictEq a b = true) (h' : strictEq b c = true) :
    strictEq a c = true ↔ ∀ m x n, a = .int m → b = .float x → c = .int n → m = n := by
  rcases strictEq_iff.mp h with ⟨-, rfl⟩ | ⟨number, middle, left, integers⟩
  · exact iff_of_true h' (by rintro m x n rfl ⟨⟩)
  rcases strictEq_iff.mp h' with ⟨-, rfl⟩ | ⟨-, number', right, integers'⟩
  · exact iff_of_true h (by rintro m x n - rfl ⟨⟩)
  constructor
  · rintro same m x n rfl - rfl
    exact eq_of_beq same
  · intro between
    refine strictEq_iff.mpr (.inr ⟨number, number', BEq.trans left right, ?_⟩)
    rintro m n rfl rfl
    cases b with
    | int k => exact (integers m k rfl rfl).trans (integers' k n rfl rfl)
    | float x => exact between m x n rfl rfl rfl
    | _ => simp [IsNumber, kind] at middle

end Value

/-- Strict equality is a partial equivalence but for two different integers that are equal to one
float. An integer is equal to the floats that denote the number nearest to it. That is the integer
itself just if there is a float that denotes it, as there is up to 53 binary digits. -/
theorem strictEq_partial_equivalence (a b c : Value) (n : Int64) :
    a.strictEq b = b.strictEq a ∧
    (a.strictEq a = true ↔ (∀ items, a ≠ .list items) ∧ (∀ entries, a ≠ .map entries) ∧
      ∀ x, a = .float x → x.isNaN = false) ∧
    (a.strictEq b = true → b.strictEq c = true →
      (a.strictEq c = true ↔ ∀ m x n, a = .int m → b = .float x → c = .int n → m = n)) ∧
    (∃ bits < infinityBits, IsNearest n.toInt.natAbs bits ∧
      ∀ x, Value.strictEq (.int n) (.float x) = true ↔
        denoted? x = some (signed (decide (n.toInt < 0)) (magnitude bits))) ∧
    ((∀ x, Value.strictEq (.int n) (.float x) = true ↔ denoted? x = some (n.toInt : ℚ)) ↔
      ∃ x, denoted? x = some (n.toInt : ℚ)) ∧
    (n.toInt.natAbs ≤ 2 ^ 53 → ∃ x, denoted? x = some (n.toInt : ℚ)) :=
  ⟨Value.strictEq_comm a b, Value.strictEq_self_iff a, Value.strictEq_trans_iff,
    Value.exists_isNearest_strictEq n, Value.strictEq_exact_iff n, Value.exists_denoted?_toInt⟩

/-- The integer and the float of `-2 ^ 53` are equal to each other and to themselves. -/
theorem strictEq_partial_equivalence_large :
    Value.strictEq (.int (-2 ^ 53)) (.float (ofPattern true 0x4340000000000000)) = true ∧
    Value.strictEq (.float (ofPattern true 0x4340000000000000)) (.int (-2 ^ 53)) = true ∧
    Value.strictEq (.float (ofPattern true 0x4340000000000000))
      (.float (ofPattern true 0x4340000000000000)) = true ∧
    denoted? (ofPattern true 0x4340000000000000) = some (-2 ^ 53) := by
  have there : Value.strictEq (.int (-2 ^ 53)) (.float (ofPattern true 0x4340000000000000))
      = true := by decide +kernel
  have value : ((-2 ^ 53 : Int64).toInt : ℚ) = -2 ^ 53 := by
    have : (-2 ^ 53 : Int64).toInt = -2 ^ 53 := by decide +kernel
    rw [this]
    norm_num
  obtain ⟨comm, -, trans, -, exact, denoted⟩ := strictEq_partial_equivalence
    (.float (ofPattern true 0x4340000000000000)) (.int (-2 ^ 53))
    (.float (ofPattern true 0x4340000000000000)) (-2 ^ 53)
  have back := comm.trans there
  refine ⟨there, back, (trans back there).mpr nofun, ?_⟩
  rw [(exact.mpr (denoted (by decide +kernel)) _).mp there, value]

/-- The integers `2 ^ 53 + 1` and `2 ^ 53` are equal to one float, which denotes the second. -/
theorem exists_strictEq_not_transitive :
    Value.strictEq (.int (2 ^ 53 + 1)) (.float (ofPattern false 0x4340000000000000)) = true ∧
    Value.strictEq (.float (ofPattern false 0x4340000000000000)) (.int (2 ^ 53)) = true ∧
    Value.strictEq (.int (2 ^ 53 + 1)) (.int (2 ^ 53)) = false ∧
    denoted? (ofPattern false 0x4340000000000000) = some (2 ^ 53) ∧
    denoted? (ofPattern false 0x4340000000000000) ≠ some ((2 ^ 53 + 1 : Int64).toInt : ℚ) := by
  have power : magnitude (1075 * hiddenBit + hiddenBit) = 2 ^ 53 :=
    (magnitude_power 1075).trans (zpow_natCast 2 53)
  have denoted : denoted? (ofPattern false (1075 * hiddenBit + hiddenBit)) = some (2 ^ 53) := by
    rw [denoted?_ofPattern (by decide), power]
    rfl
  have value : (2 ^ 53 + 1 : Int64).toInt = 2 ^ 53 + 1 := by decide +kernel
  refine ⟨by decide +kernel, by decide +kernel, by decide +kernel, denoted, ?_⟩
  rw [show (0x4340000000000000 : ℕ) = 1075 * hiddenBit + hiddenBit from rfl, denoted, value]
  norm_num

end XmlTemplate
