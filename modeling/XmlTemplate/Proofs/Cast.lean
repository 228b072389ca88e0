import Mathlib
import XmlTemplate.Value.Number
import XmlTemplate.Proofs.Bracket
import XmlTemplate.Proofs.Nearest
import XmlTemplate.Proofs.Numeral
import XmlTemplate.Proofs.Pattern

/-!
# Texts as numbers

The cast of a text to a number, against the grammar of what it accepts: nothing but blanks, a word
for infinity, a decimal literal, or an integer with a radix mark (`RadixNumeral`). What is read with
a radix mark has to fit into 128 bits, although decimal literals may have any length
(`exists_radix_literal_nan`).
-/

namespace XmlTemplate

namespace Decimal

/-! ## Numerals with a radix mark -/

/-- The character of a digit, in small or in capital letters. -/
def digitText (value : Nat) (capital : Bool) : Char :=
  if capital then value.digitChar.toUpper else value.digitChar

/-- A smaller radix has fewer digits, but none that means something else. -/
theorem digit?_eq_some_iff_of_le {radix : Nat} (h : radix ≤ 16) {c : Char} {value : Nat} :
    digit? radix c = some value ↔ value < radix ∧ digit? 16 c = some value := by
  simp only [digit?, Option.filter_eq_some_iff, decide_eq_true_eq]
  constructor
  · rintro ⟨found, less⟩
    exact ⟨less, found, less.trans_le h⟩
  · rintro ⟨less, found, -⟩
    exact ⟨found, less⟩

theorem digit?_digitText : ∀ value < 16, ∀ capital,
    digit? 16 (digitText value capital) = some value := by
  decide

theorem eq_digitText {c : Char} {value : Nat} (h : digit? 16 c = some value) :
    ∃ capital, c = digitText value capital := by
  rw [digit?] at h
  obtain ⟨found, less⟩ := Option.filter_eq_some_iff.mp h
  have less := of_decide_eq_true less
  have least : '0'.toNat = 48 ∧ 'a'.toNat = 97 ∧ 'A'.toNat = 65 := by decide
  rw [← Char.ofNat_toNat c]
  -- the digits of each kind follow each other in the character set
  split at found
  case isTrue digit =>
    have bounds : 48 ≤ c.toNat ∧ c.toNat ≤ 57 := Char.isDigit_iff_toNat.mp digit
    have code : c.toNat = 48 + value := by
      have := Option.some.inj found
      omega
    have : value < 10 := by omega
    rw [code]
    refine ⟨false, ?_⟩
    interval_cases value <;> decide
  split at found
  case isTrue small =>
    have lower : 'a'.toNat ≤ c.toNat := small.1
    have code : c.toNat = 87 + value := by
      have := Option.some.inj found
      omega
    have : 10 ≤ value := by omega
    rw [code]
    refine ⟨false, ?_⟩
    interval_cases value <;> decide
  split at found
  case isTrue capital =>
    have lower : 'A'.toNat ≤ c.toNat := capital.1
    have code : c.toNat = 55 + value := by
      have := Option.some.inj found
      omega
    have : 10 ≤ value := by omega
    rw [code]
    refine ⟨true, ?_⟩
    interval_cases value <;> decide
  case isFalse => cases found

theorem digit?_eq_some_iff {radix : Nat} (h : radix ≤ 16) {c : Char} {value : Nat} :
    digit? radix c = some value ↔ value < radix ∧ ∃ capital, c = digitText value capital := by
  rw [digit?_eq_some_iff_of_le h]
  refine and_congr_right fun less => ⟨eq_digitText, ?_⟩
  rintro ⟨capital, rfl⟩
  exact digit?_digitText value (less.trans_le h) capital

/-- The radices that a mark announces. -/
def radixMarks : List (Nat × Char) :=
  [(16, 'x'), (16, 'X'), (8, 'o'), (8, 'O'), (2, 'b'), (2, 'B')]

/-- An integer in the digits of another radix, behind a mark that announces the radix. -/
structure RadixNumeral where
  radix : Nat
  mark : Char
  /-- The digits, each in small or in capital letters. -/
  digits : List (Fin radix × Bool)
  announced : (radix, mark) ∈ radixMarks
  nonempty : digits ≠ []

namespace RadixNumeral

def text (n : RadixNumeral) : List Char :=
  '0' :: n.mark :: n.digits.map fun digit => digitText digit.1 digit.2

def value (n : RadixNumeral) : Nat :=
  Nat.ofDigits n.radix (n.digits.map fun digit => digit.1.val).reverse

end RadixNumeral

theorem foldlM_digit?_eq_some_iff {radix : Nat} (h : radix ≤ 16) {text : List Char}
    {start value : Nat} :
    text.foldlM (fun n c => (digit? radix c).map (radix * n + ·)) start = some value ↔
      ∃ digits : List (Fin radix × Bool),
        digits.map (fun digit => digitText digit.1 digit.2) = text ∧
        radix ^ digits.length * start
          + Nat.ofDigits radix (digits.map fun digit => digit.1.val).reverse = value := by
  induction text generalizing start with
  | nil =>
      rw [List.foldlM_nil]
      constructor
      · rintro ⟨⟩
        exact ⟨[], rfl, by simp⟩
      · rintro ⟨digits, empty, rfl⟩
        obtain rfl := List.map_eq_nil_iff.mp empty
        simp
  | cons c rest ih =>
      rw [List.foldlM_cons, Option.bind_eq_bind, Option.bind_eq_some_iff]
      simp only [Option.map_eq_some_iff, digit?_eq_some_iff h]
      constructor
      · rintro ⟨_, ⟨first, ⟨less, capital, rfl⟩, rfl⟩, found⟩
        obtain ⟨digits, rfl, rfl⟩ := ih.mp found
        refine ⟨(⟨first, less⟩, capital) :: digits, rfl, ?_⟩
        rw [List.map_cons, Nat.ofDigits_reverse_cons, List.length_cons, List.length_map]
        ring
      · rintro ⟨_ | ⟨⟨first, capital⟩, digits⟩, same, rfl⟩
        · cases same
        obtain ⟨rfl, rfl⟩ := List.cons.inj same
        refine ⟨_, ⟨first, ⟨first.isLt, capital, rfl⟩, rfl⟩, ih.mpr ⟨digits, rfl, ?_⟩⟩
        rw [List.map_cons, Nat.ofDigits_reverse_cons, List.length_cons, List.length_map]
        ring

theorem ofRadix?_eq_some_iff {radix : Nat} (h : radix ≤ 16) {text : List Char} {value : Nat} :
    ofRadix? radix text = some value ↔ ∃ digits : List (Fin radix × Bool), digits ≠ [] ∧
      digits.map (fun digit => digitText digit.1 digit.2) = text ∧
      Nat.ofDigits radix (digits.map fun digit => digit.1.val).reverse = value := by
  rw [ofRadix?]
  split
  case isTrue empty =>
    refine iff_of_false nofun ?_
    rintro ⟨digits, nonempty, same, -⟩
    exact nonempty (List.map_eq_nil_iff.mp (same.trans empty))
  case isFalse nonempty =>
    rw [foldlM_digit?_eq_some_iff h]
    simp only [Nat.mul_zero, Nat.zero_add]
    refine exists_congr fun digits => (and_iff_right_of_imp ?_).symm
    rintro ⟨rfl, -⟩ rfl
    exact nonempty rfl

theorem radix_le {radix : Nat} {mark : Char} (h : (radix, mark) ∈ radixMarks) : radix ≤ 16 :=
  (by decide : ∀ announced ∈ radixMarks, announced.1 ≤ 16) _ h

theorem radixMark?_eq_some_iff {text rest : List Char} {radix : Nat} :
    Value.radixMark? text = some (radix, rest) ↔
      ∃ mark, (radix, mark) ∈ radixMarks ∧ '0' :: mark :: rest = text := by
  constructor
  · intro h
    rw [Value.radixMark?.eq_def] at h
    split at h
    case h_2 => cases h
    case h_1 mark behind =>
      split at h
      case isTrue hexadecimal =>
        obtain ⟨rfl, rfl⟩ := Prod.mk.inj (Option.some.inj h)
        refine ⟨mark, ?_, rfl⟩
        rcases hexadecimal with rfl | rfl <;> decide
      split at h
      case isTrue octal =>
        obtain ⟨rfl, rfl⟩ := Prod.mk.inj (Option.some.inj h)
        refine ⟨mark, ?_, rfl⟩
        rcases octal with rfl | rfl <;> decide
      split at h
      case isTrue binary =>
        obtain ⟨rfl, rfl⟩ := Prod.mk.inj (Option.some.inj h)
        refine ⟨mark, ?_, rfl⟩
        rcases binary with rfl | rfl <;> decide
      case isFalse => cases h
  · rintro ⟨mark, announced, rfl⟩
    simp only [radixMarks, List.mem_cons, Prod.mk.injEq, List.not_mem_nil, or_false] at announced
    rcases announced with ⟨rfl, rfl⟩ | ⟨rfl, rfl⟩ | ⟨rfl, rfl⟩ | ⟨rfl, rfl⟩ | ⟨rfl, rfl⟩ |
      ⟨rfl, rfl⟩
    all_goals rfl

/-- What is read behind a radix mark are exactly the numerals with the mark. -/
theorem exists_radixNumeral_iff {text : List Char} {value : Nat} :
    (∃ n : RadixNumeral, n.text = text ∧ n.value = value) ↔
      ∃ radix digits, Value.radixMark? text = some (radix, digits) ∧
        ofRadix? radix digits = some value := by
  constructor
  · rintro ⟨n, rfl, rfl⟩
    exact ⟨n.radix, _, radixMark?_eq_some_iff.mpr ⟨n.mark, n.announced, rfl⟩,
      (ofRadix?_eq_some_iff (radix_le n.announced)).mpr ⟨n.digits, n.nonempty, rfl, rfl⟩⟩
  · rintro ⟨radix, digits, marked, found⟩
    obtain ⟨mark, announced, rfl⟩ := radixMark?_eq_some_iff.mp marked
    obtain ⟨digits, nonempty, rfl, rfl⟩ := (ofRadix?_eq_some_iff (radix_le announced)).mp found
    exact ⟨⟨radix, mark, digits, announced, nonempty⟩, rfl, rfl⟩

/-- Decimal literals have none of the marks. -/
theorem Numeral.radixMark?_text (sign : SignMark) (n : Numeral) :
    Value.radixMark? (sign.text ++ n.text) = none := by
  refine Option.eq_none_iff_forall_ne_some.mpr ?_
  rintro ⟨radix, digits⟩ marked
  obtain ⟨mark, announced, text⟩ := radixMark?_eq_some_iff.mp marked
  have member : mark ∈ sign.text ++ n.text := by
    rw [← text]
    exact List.mem_cons_of_mem _ List.mem_cons_self
  have apart : ∀ announced ∈ radixMarks, ¬(announced.2.isDigit = true
      ∨ announced.2 ∈ ['+', '-', '.', 'e', 'E']) := by decide
  exact apart _ announced (Numeral.mem_text member)

/-! ## Plain texts -/

/-- Decimal literals pass the test of their characters. -/
theorem Numeral.all_isLiteralChar (sign : SignMark) (n : Numeral) :
    (sign.text ++ n.text).all isLiteralChar = true := by
  refine List.all_eq_true.mpr fun c member => ?_
  have allowed := Numeral.mem_text member
  simp only [List.mem_cons, List.not_mem_nil, or_false] at allowed
  simp only [isLiteralChar, Bool.or_eq_true, beq_iff_eq]
  tauto

theorem toLower_of_isDigit {c : Char} (h : c.isDigit = true) : c.toLower = c := by
  have bounds : 48 ≤ c.toNat ∧ c.toNat ≤ 57 := Char.isDigit_iff_toNat.mp h
  refine dif_neg fun capital => ?_
  have least : 65 ≤ c.toNat := capital.1
  omega

/-- Each of the words has an n, which no character of a decimal literal is the capital of. -/
theorem parseFloat?_of_all {text : List Char} (h : text.all isLiteralChar = true) :
    parseFloat? text = (Literal.parse? text).map Literal.toFloat := by
  rw [parseFloat?]
  cases Literal.parse? text with
  | some literal => rfl
  | none =>
      obtain ⟨negative, word, split⟩ : ∃ negative word,
          splitSign text = (negative, word) := ⟨_, _, rfl⟩
      obtain ⟨sign, rfl, -⟩ := splitSign_eq split
      have noN : 'n' ∉ word.map Char.toLower := by
        intro member
        obtain ⟨c, inside, lower⟩ := List.mem_map.mp member
        have allowed := List.all_eq_true.mp h c (List.mem_append_right _ inside)
        simp only [isLiteralChar, Bool.or_eq_true, beq_iff_eq] at allowed
        rcases allowed with ((((digit | rfl) | rfl) | rfl) | rfl) | rfl
        · rw [toLower_of_isDigit digit] at lower
          rw [lower] at digit
          exact absurd digit (by decide)
        all_goals exact absurd lower (by decide)
      have apart (w : List Char) (h : 'n' ∈ w) : word.map Char.toLower ≠ w := by
        rintro rfl
        exact noN h
      rw [split]
      dsimp only
      rw [if_neg (not_or.mpr ⟨apart _ (by decide), apart _ (by decide)⟩),
        if_neg (apart _ (by decide)), Option.map_none]

/-! ## Numbers -/

/-- The absolute value that a literal denotes. -/
def Literal.value (literal : Literal) : ℚ :=
  literal.digits * 10 ^ literal.exponent

theorem Literal.toFloat_eq {literal : Literal} {bits : ℕ} (h : Rounds literal.value bits) :
    literal.toFloat = ofPattern literal.negative (min infinityBits bits) := by
  obtain ⟨bits', rounds, found⟩ := exists_rounds_ofDigits literal.exponent literal.negative
  rw [Literal.toFloat, found, rounds.unique h]

theorem isNaN_min (negative : Bool) (bits : Nat) :
    (ofPattern negative (min infinityBits bits)).isNaN = false :=
  isNaN_ofPattern (Nat.min_le_left _ _)

theorem isNaN_ofInt (n : Int) : (ofInt n).isNaN = false := by
  obtain ⟨bits, -, found⟩ := exists_rounds_ofInt n
  rw [found, isNaN_min]

theorem Literal.isNaN_toFloat (literal : Literal) : literal.toFloat.isNaN = false := by
  obtain ⟨bits, -, found⟩ := exists_rounds_ofDigits literal.exponent literal.negative
  rw [Literal.toFloat, found, isNaN_min]

/-- What fits into 128 bits is far from the pattern of infinity. -/
theorem Rounds.lt_infinityBits {n bits : ℕ} (h : Rounds n bits) (fits : n < 2 ^ 128) :
    bits < infinityBits := by
  have power : magnitude (1150 * hiddenBit + hiddenBit) = 2 ^ 128 :=
    (magnitude_power 1150).trans (zpow_natCast 2 128)
  have below : (n : ℚ) ≤ magnitude (1150 * hiddenBit + hiddenBit) := by
    rw [power]
    exact_mod_cast fits.le
  exact (h.le_of_le_magnitude below).trans_lt (by decide)

end Decimal

/-! ## The cast -/

open Decimal

namespace Value

variable {s : List Char}

theorem numberOfText_of_empty (h : Text.trim s = []) : numberOfText s = ofInt 0 := by
  rw [numberOfText]
  exact if_pos h

theorem numberOfText_of_radixNumeral {n : RadixNumeral} (h : n.text = Text.trim s) :
    numberOfText s = if n.value < 2 ^ 128 then ofInt n.value else nan := by
  obtain ⟨radix, digits, marked, found⟩ := exists_radixNumeral_iff.mp ⟨n, h, rfl⟩
  rw [numberOfText, if_neg (h ▸ List.cons_ne_nil _ _), marked]
  dsimp only
  rw [found]
  rfl

theorem numberOfText_of_numeral {sign : SignMark} {n : Numeral}
    (h : sign.text ++ n.text = Text.trim s) : numberOfText s = (n.literal sign).toFloat := by
  have read := Literal.parse?_eq_some_iff.mpr ⟨sign, n, h, rfl⟩
  have apart (word : List Char) (h : Literal.parse? word = none) : Text.trim s ≠ word := by
    rintro rfl
    rw [h] at read
    cases read
  have words : ¬(Text.trim s = "Infinity".toList ∨ Text.trim s = "+Infinity".toList) :=
    not_or.mpr ⟨apart _ (by decide), apart _ (by decide)⟩
  rw [numberOfText, if_neg (apart _ (by decide)), ← h, n.radixMark?_text]
  dsimp only
  have all := n.all_isLiteralChar sign
  rw [h] at all ⊢
  rw [if_neg words, if_neg (apart _ (by decide)), if_pos all, parseFloat?_of_all all, read]
  rfl

/-- The words for infinity. -/
def infinityWords : List (List Char) :=
  ["Infinity".toList, "+Infinity".toList, "-Infinity".toList]

theorem isNaN_numberOfText_of_word (h : Text.trim s ∈ infinityWords) :
    (numberOfText s).isNaN = false := by
  simp only [infinityWords, List.mem_cons, List.not_mem_nil, or_false] at h
  rw [numberOfText]
  rcases h with h | h | h
  all_goals
    rw [h]
    decide

theorem isNaN_numberOfText_iff : (numberOfText s).isNaN = true ↔
    Text.trim s ≠ [] ∧ Text.trim s ∉ infinityWords ∧
    (∀ n : RadixNumeral, n.text = Text.trim s → 2 ^ 128 ≤ n.value) ∧
    ∀ (sign : SignMark) (n : Numeral), sign.text ++ n.text ≠ Text.trim s := by
  constructor
  · intro isNaN
    refine ⟨fun empty => ?_, fun word => ?_, fun n text => ?_, fun sign n text => ?_⟩
    · rw [numberOfText_of_empty empty, isNaN_ofInt] at isNaN
      cases isNaN
    · rw [isNaN_numberOfText_of_word word] at isNaN
      cases isNaN
    · refine Nat.le_of_not_lt fun fits => ?_
      rw [numberOfText_of_radixNumeral text, if_pos fits, isNaN_ofInt] at isNaN
      cases isNaN
    · rw [numberOfText_of_numeral text, Literal.isNaN_toFloat] at isNaN
      cases isNaN
  · rintro ⟨nonempty, notWord, radix, decimal⟩
    simp only [infinityWords, List.mem_cons, List.not_mem_nil, or_false, not_or] at notWord
    obtain ⟨notInfinity, notPlus, notMinus⟩ := notWord
    have nan_isNaN : nan.isNaN = true := by decide
    rw [numberOfText, if_neg nonempty]
    split
    case h_1 radix' digits marked =>
      split
      case h_1 value found =>
        obtain ⟨n, text, rfl⟩ := exists_radixNumeral_iff.mpr ⟨_, _, marked, found⟩
        have large : ¬n.value < Nat.pow 2 128 := Nat.not_lt.mpr (radix n text)
        rw [if_neg large]
        exact nan_isNaN
      case h_2 => exact nan_isNaN
    case h_2 =>
      rw [if_neg (not_or.mpr ⟨notInfinity, notPlus⟩), if_neg notMinus]
      split
      case isTrue all =>
        have unread : Literal.parse? (Text.trim s) = none := by
          refine Option.eq_none_iff_forall_ne_some.mpr fun literal read => ?_
          obtain ⟨sign, n, text, -⟩ := Literal.parse?_eq_some_iff.mp read
          exact decimal sign n text
        rw [parseFloat?_of_all all, unread]
        exact nan_isNaN
      case isFalse => exact nan_isNaN

end Value

/-- The cast reads just the grammar of numbers, except that a radix literal has to fit into 128
bits. An integer in another radix becomes the nearest number, the one that the decimal literals of
the integer become as well. -/
theorem cast_accepts_fitting_grammar (s : List Char) :
    ((Value.numberOfText s).isNaN = true ↔
      Text.trim s ≠ [] ∧ Text.trim s ∉ Value.infinityWords ∧
      (∀ n : RadixNumeral, n.text = Text.trim s → 2 ^ 128 ≤ n.value) ∧
      ∀ (sign : SignMark) (n : Numeral), sign.text ++ n.text ≠ Text.trim s) ∧
    ∀ n : RadixNumeral, n.text = Text.trim s → n.value < 2 ^ 128 →
      ∃ bits < infinityBits, IsNearest n.value bits ∧
        Value.numberOfText s = ofPattern false bits ∧
        ∀ (s' : List Char) (sign : SignMark) (decimal : Numeral),
          sign.text ++ decimal.text = Text.trim s' → sign ≠ .minus →
          (decimal.literal sign).value = n.value →
          Value.numberOfText s' = Value.numberOfText s := by
  refine ⟨Value.isNaN_numberOfText_iff, fun n text fits => ?_⟩
  obtain ⟨bits, rounds, found⟩ := exists_rounds_ofInt n.value
  rw [Int.natAbs_natCast] at rounds
  have less := rounds.lt_infinityBits fits
  have cast : Value.numberOfText s = ofPattern false bits := by
    rw [Value.numberOfText_of_radixNumeral text, if_pos fits, found, Nat.min_eq_right less.le,
      decide_eq_false (by omega)]
  refine ⟨bits, less, rounds.isNearest, cast, fun s' sign decimal text' positive same => ?_⟩
  have sign' : (decimal.literal sign).negative = false := by
    cases sign with
    | minus => exact absurd rfl positive
    | plus => rfl
    | absent => rfl
  rw [← same] at rounds
  rw [cast, Value.numberOfText_of_numeral text', Literal.toFloat_eq rounds,
    Nat.min_eq_right less.le, sign']

/-- Blanks around a literal with a capital mark, and a decimal literal with all of its parts. -/
theorem cast_accepts_fitting_grammar_hexadecimal :
    (∃ n : RadixNumeral, n.text = Text.trim " 0XfA\n".toList ∧ n.value = 250 ∧ n.value < 2 ^ 128) ∧
    (∃ decimal : Numeral, SignMark.plus.text ++ decimal.text = Text.trim "+2.5e2".toList ∧
      (decimal.literal .plus).value = 250) ∧
    (∃ bits < infinityBits, IsNearest 250 bits ∧
      Value.numberOfText " 0XfA\n".toList = ofPattern false bits) ∧
    Value.numberOfText "+2.5e2".toList = Value.numberOfText " 0XfA\n".toList := by
  let n : RadixNumeral := ⟨16, 'X', [(15, false), (10, true)], by decide, by decide⟩
  let power : ExponentPart := ⟨'e', .absent, ['2'], .inl rfl, by decide, by decide⟩
  let decimal : Numeral := ⟨['2'], some ['5'], some power, by decide, by decide⟩
  have text : n.text = Text.trim " 0XfA\n".toList := by decide
  have text' : SignMark.plus.text ++ decimal.text = Text.trim "+2.5e2".toList := by decide
  have value : n.value = 250 := by decide
  have literal : decimal.literal .plus = ⟨false, 25, 1⟩ := by decide
  have value' : (decimal.literal .plus).value = 250 := by
    rw [literal, Literal.value]
    norm_num
  obtain ⟨bits, less, nearest, cast, same⟩ :=
    (cast_accepts_fitting_grammar " 0XfA\n".toList).2 n text (by decide)
  rw [value] at nearest same
  exact ⟨⟨n, text, value, by decide⟩, ⟨decimal, text', value'⟩, ⟨bits, less, nearest, cast⟩,
    same "+2.5e2".toList .plus decimal text' (by decide) value'⟩

/-- A radix literal of `2 ^ 128` is read as no number, while the decimal literal of the same integer
is. -/
theorem exists_radix_literal_nan :
    (∃ n : RadixNumeral, n.text = Text.trim "0x100000000000000000000000000000000".toList ∧
      n.value = 340282366920938463463374607431768211456) ∧
    (Value.numberOfText "0x100000000000000000000000000000000".toList).isNaN = true ∧
    (Value.numberOfText "340282366920938463463374607431768211456".toList).isNaN = false := by
  let n : RadixNumeral :=
    ⟨16, 'x', (1, false) :: List.replicate 32 (0, false), by decide, by decide⟩
  have text : n.text = Text.trim "0x100000000000000000000000000000000".toList := by decide
  have value : n.value = 340282366920938463463374607431768211456 := by decide
  refine ⟨⟨n, text, value⟩, ?_, ?_⟩
  · rw [Value.numberOfText_of_radixNumeral text, value]
    decide
  · let decimal : Numeral :=
      ⟨"340282366920938463463374607431768211456".toList, none, none, by decide, by decide⟩
    have text' : SignMark.absent.text ++ decimal.text
        = Text.trim "340282366920938463463374607431768211456".toList := by decide
    rw [Value.numberOfText_of_numeral text', Literal.isNaN_toFloat]

end XmlTemplate
