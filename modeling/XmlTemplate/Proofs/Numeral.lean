import Mathlib
import XmlTemplate.Decimal.Literal

/-!
# Decimal numerals

The grammar of decimal literals, apart from how they are read: a `Numeral` is digits with at most
one point among them and at least one digit, and perhaps an exponent. What is read as a literal are
exactly the numerals with a sign before them (`Literal.parse?_eq_some_iff`).
-/

namespace XmlTemplate.Decimal

/-! ## Digits -/

theorem digitsValue_eq (digits : List Char) :
    digitsValue digits = Nat.ofDigitChars 10 digits 0 := by
  rw [Nat.ofDigitChars_eq_foldl]
  rfl

theorem digitsValue_append (front back : List Char) :
    digitsValue (front ++ back) = 10 ^ back.length * digitsValue front + digitsValue back := by
  simp only [digitsValue_eq]
  rw [Nat.ofDigitChars_append, Nat.ofDigitChars_eq_ofDigitChars_zero]

theorem digitsValue_zeros (count : Nat) : digitsValue (List.replicate count '0') = 0 := by
  rw [digitsValue_eq, Nat.ofDigitChars_replicate_zero, Nat.mul_zero]

theorem digitsValue_toDigits (n : Nat) : digitsValue (Nat.toDigits 10 n) = n := by
  rw [digitsValue_eq, Nat.ofDigitChars_ten_toDigits]

/-- Characters that are all digits. -/
def AreDigits (text : List Char) : Prop :=
  ∀ c ∈ text, c.isDigit = true

instance : DecidablePred AreDigits := fun text =>
  decidable_of_iff (text.all Char.isDigit = true) List.all_eq_true

theorem AreDigits.append {front back : List Char} (h : AreDigits front) (h' : AreDigits back) :
    AreDigits (front ++ back) :=
  fun c member => (List.mem_append.mp member).elim (h c) (h' c)

theorem areDigits_toDigits (n : Nat) : AreDigits (Nat.toDigits 10 n) :=
  fun _ member => Nat.isDigit_of_mem_toDigits (by decide) (by decide) member

theorem areDigits_zeros (count : Nat) : AreDigits (List.replicate count '0') := by
  intro c member
  rw [List.eq_of_mem_replicate member]
  rfl

/-- What follows the digits of a numeral begins with none. -/
def StopsDigits (rest : List Char) : Prop :=
  ∀ c ∈ rest.head?, c.isDigit = false

theorem splitDigits_append {digits rest : List Char} (h : AreDigits digits)
    (stop : StopsDigits rest) : splitDigits (digits ++ rest) = (digits, rest) := by
  rw [splitDigits, List.takeWhile_append_of_pos h, List.dropWhile_append_of_pos h]
  cases rest with
  | nil => simp
  | cons c rest =>
      have other := stop c rfl
      rw [List.takeWhile_cons_of_neg (by simp [other]),
        List.dropWhile_cons_of_neg (by simp [other]), List.append_nil]

theorem splitDigits_eq {text digits rest : List Char} (h : splitDigits text = (digits, rest)) :
    text = digits ++ rest ∧ AreDigits digits := by
  obtain ⟨rfl, rfl⟩ := Prod.mk.inj h
  exact ⟨List.takeWhile_append_dropWhile.symm, fun _ member => List.mem_takeWhile_imp member⟩

/-! ## Signs -/

/-- A sign that may be absent. -/
inductive SignMark
  | absent
  | plus
  | minus
deriving DecidableEq

def SignMark.text : SignMark → List Char
  | .absent => []
  | .plus => ['+']
  | .minus => ['-']

def SignMark.negative : SignMark → Bool
  | .minus => true
  | _ => false

/-- What follows a sign has no sign of its own. -/
def IsUnsigned (rest : List Char) : Prop :=
  ∀ c ∈ rest.head?, c ≠ '+' ∧ c ≠ '-'

theorem splitSign_append (sign : SignMark) {rest : List Char} (h : IsUnsigned rest) :
    splitSign (sign.text ++ rest) = (sign.negative, rest) := by
  cases sign with
  | plus => rfl
  | minus => rfl
  | absent =>
      rw [SignMark.text, List.nil_append]
      cases rest with
      | nil => rfl
      | cons c rest =>
          obtain ⟨notPlus, notMinus⟩ := h c rfl
          rw [splitSign.eq_3]
          · rfl
          · rintro _ ⟨⟩
            exact notPlus rfl
          · rintro _ ⟨⟩
            exact notMinus rfl

theorem splitSign_eq {text rest : List Char} {negative : Bool}
    (h : splitSign text = (negative, rest)) :
    ∃ sign : SignMark, text = sign.text ++ rest ∧ sign.negative = negative := by
  rw [splitSign.eq_def] at h
  split at h
  case h_1 =>
    obtain ⟨rfl, rfl⟩ := Prod.mk.inj h
    exact ⟨.plus, rfl, rfl⟩
  case h_2 =>
    obtain ⟨rfl, rfl⟩ := Prod.mk.inj h
    exact ⟨.minus, rfl, rfl⟩
  case h_3 =>
    obtain ⟨rfl, rfl⟩ := Prod.mk.inj h
    exact ⟨.absent, rfl, rfl⟩

/-! ## The grammar -/

/-- The exponent of a numeral. -/
structure ExponentPart where
  mark : Char
  sign : SignMark
  digits : List Char
  isMark : mark = 'e' ∨ mark = 'E'
  areDigits : AreDigits digits
  nonempty : digits ≠ []

def ExponentPart.text (e : ExponentPart) : List Char :=
  e.mark :: (e.sign.text ++ e.digits)

def ExponentPart.value (e : ExponentPart) : Int :=
  if e.sign.negative then -(digitsValue e.digits : Int) else digitsValue e.digits

/-- A decimal literal without a sign. -/
structure Numeral where
  whole : List Char
  /-- The digits behind the point, if there is a point. -/
  fraction? : Option (List Char)
  exponent? : Option ExponentPart
  areDigits : AreDigits (whole ++ fraction?.getD [])
  nonempty : whole ++ fraction?.getD [] ≠ []

namespace Numeral

def text (n : Numeral) : List Char :=
  n.whole ++ (n.fraction?.elim [] ('.' :: ·) ++ n.exponent?.elim [] ExponentPart.text)

/-- What the numeral denotes, with the sign before it. -/
def literal (n : Numeral) (sign : SignMark) : Literal where
  negative := sign.negative
  digits := digitsValue (n.whole ++ n.fraction?.getD [])
  exponent := n.exponent?.elim 0 ExponentPart.value - (n.fraction?.getD []).length

end Numeral

/-! ## Reading -/

theorem AreDigits.isUnsigned {digits : List Char} (h : AreDigits digits) : IsUnsigned digits := by
  intro c first
  have digit := h c (List.mem_of_mem_head? first)
  constructor
  · rintro rfl
    exact absurd digit (by decide)
  · rintro rfl
    exact absurd digit (by decide)

theorem exponentPart?_eq_some_iff {text : List Char} {exponent : Int} :
    exponentPart? text = some exponent ↔ ∃ part? : Option ExponentPart,
      part?.elim [] ExponentPart.text = text ∧ part?.elim 0 ExponentPart.value = exponent := by
  constructor
  · intro h
    rcases text with _ | ⟨mark, rest⟩
    · exact ⟨none, rfl, Option.some.inj h⟩
    obtain ⟨negative, unsigned, signed⟩ : ∃ negative unsigned,
        splitSign rest = (negative, unsigned) := ⟨_, _, rfl⟩
    obtain ⟨digits, last, split⟩ : ∃ digits last,
        splitDigits unsigned = (digits, last) := ⟨_, _, rfl⟩
    rw [exponentPart?, signed] at h
    dsimp only at h
    rw [split] at h
    dsimp only at h
    split at h
    case isFalse => cases h
    case isTrue accepted =>
      obtain ⟨isMark, nonempty, rfl⟩ := accepted
      obtain ⟨sign, rfl, rfl⟩ := splitSign_eq signed
      obtain ⟨rfl, areDigits⟩ := splitDigits_eq split
      refine ⟨some ⟨mark, sign, digits, isMark, areDigits, nonempty⟩, ?_, Option.some.inj h⟩
      rw [Option.elim_some, ExponentPart.text, List.append_nil]
  · rintro ⟨part?, rfl, rfl⟩
    cases part? with
    | none => rfl
    | some part =>
        have split : splitDigits (part.digits ++ []) = (part.digits, []) :=
          splitDigits_append part.areDigits nofun
        rw [List.append_nil] at split
        rw [Option.elim_some, ExponentPart.text, exponentPart?,
          splitSign_append _ part.areDigits.isUnsigned]
        dsimp only
        rw [split]
        exact if_pos ⟨part.isMark, part.nonempty, rfl⟩

/-- An exponent goes on with neither a digit nor a point. -/
theorem head?_exponent {part? : Option ExponentPart} {c : Char}
    (first : (part?.elim [] ExponentPart.text).head? = some c) : c = 'e' ∨ c = 'E' := by
  cases part? with
  | none => cases first
  | some part =>
      obtain rfl : part.mark = c := Option.some.inj first
      exact part.isMark

theorem stopsDigits_exponent (part? : Option ExponentPart) :
    StopsDigits (part?.elim [] ExponentPart.text) := by
  intro c first
  rcases head?_exponent first with rfl | rfl
  · rfl
  · rfl

theorem splitFraction_append {fraction? : Option (List Char)} {rest : List Char}
    (h : AreDigits (fraction?.getD [])) (stop : StopsDigits rest)
    (noPoint : rest.head? ≠ some '.') :
    splitFraction (fraction?.elim [] ('.' :: ·) ++ rest) = (fraction?.getD [], rest) := by
  cases fraction? with
  | some fraction => exact splitDigits_append h stop
  | none =>
      refine splitFraction.eq_2 rest ?_
      rintro _ rfl
      exact noPoint rfl

theorem splitFraction_eq {text fraction rest : List Char}
    (h : splitFraction text = (fraction, rest)) : ∃ fraction? : Option (List Char),
    text = fraction?.elim [] ('.' :: ·) ++ rest ∧ fraction?.getD [] = fraction ∧
    AreDigits fraction := by
  rw [splitFraction.eq_def] at h
  split at h
  case h_1 =>
    obtain ⟨rfl, areDigits⟩ := splitDigits_eq h
    exact ⟨some fraction, rfl, rfl, areDigits⟩
  case h_2 =>
    obtain ⟨rfl, rfl⟩ := Prod.mk.inj h
    exact ⟨none, rfl, rfl, nofun⟩

theorem stopsDigits_fraction (fraction? : Option (List Char)) {rest : List Char}
    (h : StopsDigits rest) : StopsDigits (fraction?.elim [] ('.' :: ·) ++ rest) := by
  cases fraction? with
  | none => exact h
  | some fraction =>
      rintro c ⟨⟩
      rfl

theorem Numeral.isUnsigned_text (n : Numeral) : IsUnsigned n.text := by
  obtain ⟨whole, fraction?, exponent?, areDigits, nonempty⟩ := n
  rcases whole with _ | ⟨digit, whole⟩
  · rcases fraction? with _ | fraction
    · exact absurd rfl nonempty
    · rintro c ⟨⟩
      decide
  · rintro c ⟨⟩
    exact AreDigits.isUnsigned areDigits digit rfl

/-- The characters that decimal literals are made of. -/
theorem Numeral.mem_text {sign : SignMark} {n : Numeral} {c : Char} (h : c ∈ sign.text ++ n.text) :
    c.isDigit = true ∨ c ∈ ['+', '-', '.', 'e', 'E'] := by
  have ofSign (sign : SignMark) (h : c ∈ sign.text) : c ∈ ['+', '-', '.', 'e', 'E'] := by
    cases sign <;> simp_all [SignMark.text]
  obtain ⟨wholeDigits, fractionDigits⟩ := List.forall_mem_append.mp n.areDigits
  rw [Numeral.text] at h
  rcases List.mem_append.mp h with h | h
  · exact .inr (ofSign sign h)
  rcases List.mem_append.mp h with h | h
  · exact .inl (wholeDigits c h)
  rcases List.mem_append.mp h with h | h
  · cases fraction : n.fraction? with
    | none =>
        rw [fraction] at h
        cases h
    | some digits =>
        rw [fraction] at h fractionDigits
        rcases List.mem_cons.mp h with rfl | h
        · exact .inr (by decide)
        · exact .inl (fractionDigits c h)
  · cases exponent : n.exponent? with
    | none =>
        rw [exponent] at h
        cases h
    | some part =>
        rw [exponent] at h
        rcases List.mem_cons.mp h with rfl | h
        · exact .inr (by rcases part.isMark with mark | mark <;> rw [mark] <;> decide)
        rcases List.mem_append.mp h with h | h
        · exact .inr (ofSign part.sign h)
        · exact .inl (part.areDigits c h)

theorem Literal.parse?_eq_some_iff {text : List Char} {literal : Literal} :
    Literal.parse? text = some literal ↔ ∃ (sign : SignMark) (n : Numeral),
      sign.text ++ n.text = text ∧ n.literal sign = literal := by
  constructor
  · intro h
    obtain ⟨negative, unsigned, signed⟩ : ∃ negative unsigned,
        splitSign text = (negative, unsigned) := ⟨_, _, rfl⟩
    obtain ⟨whole, behind, split⟩ : ∃ whole behind,
        splitDigits unsigned = (whole, behind) := ⟨_, _, rfl⟩
    obtain ⟨fraction, last, split'⟩ : ∃ fraction last,
        splitFraction behind = (fraction, last) := ⟨_, _, rfl⟩
    rw [Literal.parse?, signed] at h
    dsimp only at h
    rw [split] at h
    dsimp only at h
    rw [split'] at h
    dsimp only at h
    obtain ⟨sign, rfl, rfl⟩ := splitSign_eq signed
    obtain ⟨rfl, wholeDigits⟩ := splitDigits_eq split
    obtain ⟨fraction?, rfl, rfl, fractionDigits⟩ := splitFraction_eq split'
    split at h
    case isTrue => cases h
    case isFalse nonempty =>
      obtain ⟨exponent, read, rfl⟩ := Option.map_eq_some_iff.mp h
      obtain ⟨part?, rfl, rfl⟩ := exponentPart?_eq_some_iff.mp read
      exact ⟨sign, ⟨whole, fraction?, part?, wholeDigits.append fractionDigits,
        mt List.append_eq_nil_iff.mp nonempty⟩, rfl, rfl⟩
  · rintro ⟨sign, n, rfl, rfl⟩
    obtain ⟨wholeDigits, fractionDigits⟩ := List.forall_mem_append.mp n.areDigits
    have exponent := stopsDigits_exponent n.exponent?
    have noPoint : (n.exponent?.elim [] ExponentPart.text).head? ≠ some '.' :=
      fun first => absurd (head?_exponent first) (by decide)
    have nonempty : ¬(n.whole = [] ∧ n.fraction?.getD [] = []) :=
      mt List.append_eq_nil_iff.mpr n.nonempty
    rw [Literal.parse?, splitSign_append _ n.isUnsigned_text]
    dsimp only
    rw [Numeral.text, splitDigits_append wholeDigits (stopsDigits_fraction _ exponent)]
    dsimp only
    rw [splitFraction_append fractionDigits exponent noPoint]
    dsimp only
    rw [if_neg nonempty, exponentPart?_eq_some_iff.mpr ⟨n.exponent?, rfl, rfl⟩]
    rfl

end XmlTemplate.Decimal
