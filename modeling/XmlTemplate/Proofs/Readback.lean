import Mathlib
import XmlTemplate.Proofs.Cast
import XmlTemplate.Proofs.Shortest

/-!
# Reading numbers back

The text of a number is a decimal literal or a word (`float_word_or_numeral`), in both layouts. Its
digits spell a decimal that is rounded to the number, and so the text is read as the number again
(`numberOfText_float`); only the sign of a zero is lost. The text of an integer is read as the
floating-point number that the integer is rounded to (`numberOfText_toString`).
-/

namespace XmlTemplate

namespace Decimal

/-! ## Numerals with the digits of a number -/

/-- The text is a numeral for the number, whatever sign is before it. -/
def Spells (text : List Char) (value : ℚ) : Prop :=
  ∃ n : Numeral, n.text = text ∧ ∀ sign : SignMark, (n.literal sign).value = value

theorem spells_whole {digits : List Char} (h : AreDigits digits) (nonempty : digits ≠ [])
    (exponent? : Option ExponentPart) :
    Spells (digits ++ exponent?.elim [] ExponentPart.text)
      (digitsValue digits * 10 ^ exponent?.elim 0 ExponentPart.value) := by
  rw [← List.append_nil digits] at h nonempty
  refine ⟨⟨digits, none, exponent?, h, nonempty⟩, rfl, fun sign => ?_⟩
  simp only [Literal.value, Numeral.literal, Option.getD_none, List.append_nil, List.length_nil,
    Nat.cast_zero, Int.sub_zero]

theorem spells_point {whole fraction : List Char} (h : AreDigits (whole ++ fraction))
    (nonempty : whole ++ fraction ≠ []) (exponent? : Option ExponentPart) :
    Spells (whole ++ '.' :: fraction ++ exponent?.elim [] ExponentPart.text)
      (digitsValue (whole ++ fraction)
        * 10 ^ (exponent?.elim 0 ExponentPart.value - fraction.length)) := by
  refine ⟨⟨whole, some fraction, exponent?, h, nonempty⟩, ?_, fun sign => rfl⟩
  rw [List.append_assoc]
  rfl

theorem spells_positional (d : Digits) : Spells d.positional d.value := by
  have digits := areDigits_toDigits d.digits
  have value := digitsValue_toDigits d.digits
  have nonempty : Nat.toDigits 10 d.digits ≠ [] := Nat.toDigits_ne_nil
  rw [Digits.positional, Digits.value]
  generalize Nat.toDigits 10 d.digits = text at *
  dsimp only
  split
  case h_1 zeros exponent =>
    have spells := spells_whole (digits.append (areDigits_zeros zeros)) (by simp [nonempty]) none
    rw [Option.elim_none, List.append_nil, digitsValue_append, digitsValue_zeros, value,
      List.length_replicate, Option.elim_none, zpow_zero, mul_one, Nat.add_zero,
      Nat.mul_comm] at spells
    rw [exponent, Int.ofNat_eq_natCast, zpow_natCast]
    exact_mod_cast spells
  case h_2 places exponent =>
    have power : d.exponent = 0 - (places + 1 : ℕ) := by omega
    rw [power]
    split
    case isTrue small =>
      have zero : AreDigits ['0'] := by decide
      have spells := spells_point
        (zero.append ((areDigits_zeros (places + 1 - text.length)).append digits))
        (List.cons_ne_nil _ _) none
      have length : places + 1 - text.length + text.length = places + 1 := by omega
      have leading : digitsValue ['0'] = 0 := rfl
      rw [Option.elim_none, List.append_nil, digitsValue_append, digitsValue_append,
        digitsValue_zeros, leading, value, Nat.mul_zero, Nat.mul_zero, Nat.zero_add, Nat.zero_add,
        List.length_append, List.length_replicate, length, Option.elim_none] at spells
      simpa using spells
    case isFalse large =>
      have whole := List.take_append_drop (text.length - (places + 1)) text
      have length : text.length - (text.length - (places + 1)) = places + 1 := by omega
      rw [← whole] at digits nonempty
      have spells := spells_point digits nonempty none
      rw [whole, value, Option.elim_none, List.append_nil, List.length_drop, length,
        Option.elim_none] at spells
      simpa using spells

/-- An exponent as it is written, always with a sign. -/
def signedExponent : Int → ExponentPart
  | .ofNat e => ⟨'e', .plus, Nat.toDigits 10 e, .inl rfl, areDigits_toDigits e, Nat.toDigits_ne_nil⟩
  | .negSucc e =>
    ⟨'e', .minus, Nat.toDigits 10 (e + 1), .inl rfl, areDigits_toDigits _, Nat.toDigits_ne_nil⟩

theorem value_signedExponent (exponent : Int) : (signedExponent exponent).value = exponent := by
  cases exponent with
  | ofNat e => exact congrArg Int.ofNat (digitsValue_toDigits e)
  | negSucc e =>
      exact congrArg (-Int.ofNat ·) (digitsValue_toDigits (e + 1))

/-- Digits with a point behind the first one, if there are more. -/
def pointedDigits : List Char → List Char
  | first :: second :: rest => first :: '.' :: second :: rest
  | few => few

theorem scientific_eq (d : Digits) : d.scientific "e+" = pointedDigits (Nat.toDigits 10 d.digits)
    ++ (signedExponent (d.exponent + ((Nat.toDigits 10 d.digits).length - 1))).text := by
  rw [Digits.scientific]
  generalize d.exponent + _ = exponent
  cases exponent with
  | ofNat e => exact List.append_assoc _ _ _
  | negSucc e => exact List.append_assoc _ _ _

theorem spells_scientific (d : Digits) : Spells (d.scientific "e+") d.value := by
  have digits := areDigits_toDigits d.digits
  have value := digitsValue_toDigits d.digits
  have nonempty : Nat.toDigits 10 d.digits ≠ [] := Nat.toDigits_ne_nil
  rw [scientific_eq, Digits.value]
  generalize Nat.toDigits 10 d.digits = text at *
  generalize power : d.exponent + ((text.length : Int) - 1) = exponent
  rcases text with _ | ⟨first, _ | ⟨second, rest⟩⟩
  · exact absurd rfl nonempty
  · have spells := spells_whole digits nonempty (some (signedExponent exponent))
    rw [value, Option.elim_some, Option.elim_some, value_signedExponent] at spells
    have same : exponent = d.exponent := by
      rw [← power]
      simp
    rw [← same]
    exact spells
  · have spells : Spells ([first] ++ '.' :: second :: rest ++ _) _ :=
      spells_point digits nonempty (some (signedExponent exponent))
    have same : exponent - (second :: rest).length = d.exponent := by
      rw [← power, List.length_cons]
      omega
    rw [List.singleton_append, List.singleton_append, value, Option.elim_some, Option.elim_some,
      value_signedExponent, same] at spells
    exact spells

/-! ## Reading a number back -/

theorem spells_digits (d : Digits) : Spells (Value.numberLayout.digits d) d.value := by
  rw [Layout.digits]
  split
  · exact spells_positional d
  · exact spells_scientific d

theorem isBlank_of_isDigit {c : Char} (h : c.isDigit = true) : Text.isBlank c = false := by
  have bounds : 48 ≤ c.toNat ∧ c.toNat ≤ 57 := Char.isDigit_iff_toNat.mp h
  have apart : ∀ range ∈ Text.whiteSpace, range.2 < 48 ∨ 57 < range.1 := by decide
  refine Bool.eq_false_iff.mpr fun blank => ?_
  obtain ⟨range, member, low, high⟩ := Text.RangeTable.covers_iff.mp blank
  rcases apart range member with before | behind
  · omega
  · omega

theorem Numeral.trim_text (sign : SignMark) (n : Numeral) :
    Text.trim (sign.text ++ n.text) = sign.text ++ n.text := by
  have noBlank (c : Char) (member : c ∈ sign.text ++ n.text) : Text.isBlank c = false := by
    rcases Numeral.mem_text member with digit | other
    · exact isBlank_of_isDigit digit
    · have all : ['+', '-', '.', 'e', 'E'].all (!Text.isBlank ·) = true := by decide
      simpa using List.all_eq_true.mp all c other
  refine Text.IsTrimmed.trim ⟨?_, ?_⟩
  · exact fun c first => noBlank c (List.mem_of_mem_head? first)
  · exact fun c last => noBlank c (List.mem_of_getLast? last)

/-- A text that spells a number is read as the number, with the sign that stands before it. -/
theorem numberOfText_of_spells {text : List Char} {value : ℚ} {bits : ℕ} (h : Spells text value)
    (rounds : Rounds value bits) (sign : SignMark) :
    Value.numberOfText (sign.text ++ text) = ofPattern sign.negative (min infinityBits bits) := by
  obtain ⟨n, rfl, literal⟩ := h
  rw [← literal sign] at rounds
  rw [Value.numberOfText_of_numeral (n.trim_text sign).symm, Literal.toFloat_eq rounds]
  rfl

/-- The sign of a number, which is not written if the number is positive. -/
def signMark (negative : Bool) : SignMark :=
  if negative then .minus else .absent

theorem negative_signMark (negative : Bool) : (signMark negative).negative = negative := by
  cases negative <;> rfl

/-- The number, with zero in the place of negative zero. -/
def unsignedZero (x : Float) : Float :=
  if x = ofPattern true 0 then 0 else x

/-- The text of a number is read back as the number. -/
theorem numberOfText_float (x : Float) :
    Value.numberOfText (Value.numberLayout.float x).toList = unsignedZero x := by
  rw [Layout.float]
  cases isNaN : x.isNaN with
  | true =>
      have same : x = nan := by
        rw [Float.isNaN_eq_decide_eq_nan, decide_eq_true_eq] at isNaN
        rw [isNaN]
        decide
      rw [same]
      decide
  | false =>
      obtain ⟨negative, bits, range, rfl⟩ := exists_ofPattern isNaN
      have zero : (ofPattern negative bits == 0) = true ↔ bits = 0 := beq_zero_ofPattern range
      have infinite : (ofPattern negative bits).isInf = true ↔ bits = infinityBits :=
        isInf_ofPattern range
      have sign : ofPattern negative bits < 0 ↔ negative = true ∧ bits ≠ 0 :=
        lt_zero_ofPattern range
      dsimp only
      rw [if_neg Bool.false_ne_true]
      split
      case isTrue infinite' =>
        obtain rfl := infinite.mp infinite'
        cases negative <;> decide
      case isFalse finite =>
        split
        case isTrue zero' =>
          obtain rfl := zero.mp zero'
          cases negative <;> decide
        case isFalse nonzero =>
          have positive := zero.not.mp nonzero
          have apart : ofPattern negative bits ≠ ofPattern true 0 := by
            intro same
            rw [same] at nonzero
            exact nonzero (by decide)
          have rounds := rounds_shortest (Nat.pos_of_ne_zero positive)
          have written : (if ofPattern negative bits < 0 then "-" else "").toList
              = (signMark negative).text := by
            cases negative with
            | false =>
                rw [if_neg (sign.not.mpr fun h => Bool.false_ne_true h.1)]
                rfl
            | true =>
                rw [if_pos (sign.mpr ⟨rfl, positive⟩)]
                rfl
          rw [String.toList_append, String.toList_ofList, written, Binary.ofFloat_ofPattern range,
            numberOfText_of_spells (spells_digits _) rounds, negative_signMark,
            Nat.min_eq_right range, unsignedZero, if_neg apart]

theorem toList_toString (n : Int) : (toString n).toList
    = (signMark (decide (n < 0))).text ++ Nat.toDigits 10 n.natAbs := by
  rw [Int.toString_eq_repr, Int.repr_eq_if]
  split
  case isTrue nonneg =>
    have same : n.toNat = n.natAbs := by omega
    rw [decide_eq_false (by omega), Nat.repr_eq_ofList_toDigits, String.toList_ofList, same]
    rfl
  case isFalse negative =>
    have same : (-n).toNat = n.natAbs := by omega
    rw [decide_eq_true (by omega), Nat.repr_eq_ofList_toDigits, String.toList_append,
      String.toList_ofList, String.toList_ofList, same]
    rfl

theorem spells_toDigits (n : Nat) : Spells (Nat.toDigits 10 n) n := by
  have spells := spells_whole (areDigits_toDigits n) Nat.toDigits_ne_nil none
  rw [Option.elim_none, List.append_nil, digitsValue_toDigits, Option.elim_none, zpow_zero,
    mul_one] at spells
  exact spells

/-- An integer is the same number when it is read from its text. -/
theorem numberOfText_toString (n : Int) : Value.numberOfText (toString n).toList = ofInt n := by
  obtain ⟨bits, rounds, found⟩ := exists_rounds_ofInt n
  rw [toList_toString, numberOfText_of_spells (spells_toDigits _) rounds, negative_signMark, found]

/-- The text of a number is a decimal literal, unless it is a word. -/
theorem float_word_or_numeral (x : Float) :
    (Value.numberLayout.float x).toList ∈ ["NaN".toList, "Infinity".toList, "-Infinity".toList] ∨
    ∃ (sign : SignMark) (n : Numeral),
      sign.text ++ n.text = (Value.numberLayout.float x).toList := by
  rw [Layout.float]
  split
  case isTrue => exact .inl (by decide)
  obtain ⟨sign, written⟩ : ∃ negative, (if x < 0 then "-" else "")
      = String.ofList (signMark negative).text := by
    split
    · exact ⟨true, rfl⟩
    · exact ⟨false, rfl⟩
  rw [written]
  dsimp only
  split
  case isTrue =>
    left
    cases sign <;> decide
  split
  case isTrue =>
    obtain ⟨n, text, -⟩ := spells_toDigits 0
    exact .inr ⟨.absent, n, text⟩
  case isFalse =>
    obtain ⟨n, text, -⟩ := spells_digits (shortest (.ofFloat x))
    refine .inr ⟨signMark sign, n, ?_⟩
    rw [String.toList_append, String.toList_ofList, String.toList_ofList, text]

/-- Only zero is rounded to a zero among the integers, and it has no sign. -/
theorem unsignedZero_ofInt (n : Int) : unsignedZero (ofInt n) = ofInt n := by
  refine if_neg fun same => ?_
  obtain ⟨bits, rounds, found⟩ := exists_rounds_ofInt n
  have zero : (ofInt n == 0) = true := by
    rw [same]
    decide
  rw [found, beq_zero_ofPattern (Nat.min_le_left _ _)] at zero
  obtain rfl : bits = 0 := by
    simp only [infinityBits] at zero
    omega
  have small : (n.natAbs : ℚ) < 1 := by
    refine rounds.high.1.trans_lt ?_
    rw [midpoint_zero]
    exact zpow_lt_one_of_neg₀ (by norm_num) (by norm_num)
  obtain rfl : n = 0 := by
    have : n.natAbs < 1 := by exact_mod_cast small
    omega
  exact absurd same (by decide)

end Decimal

end XmlTemplate
