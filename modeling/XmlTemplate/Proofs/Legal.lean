import XmlTemplate.Proofs.Table
import XmlTemplate.Proofs.Reader
import XmlTemplate.Xml.Name

/-!
# Legal characters

XML excludes most control characters and two others from its documents, also in escaped form.
Nothing here looks for them. Names, numbers and what is written around texts never have one, so that
a text which an expression shows is legal if the texts in the expression, in the table and in the
data are (`LegalText.shown`).
-/

namespace XmlTemplate

/-! ## Characters -/

namespace Xml

/-- The characters of XML 1.0 documents, its production `Char`. -/
def legalChars : Text.RangeTable :=
  [(0x9, 0xA), (0xD, 0xD), (0x20, 0xD7FF), (0xE000, 0xFFFD), (0x10000, 0x10FFFF)]

/-- Whether a document may hold the character. -/
def isLegal (c : Char) : Bool :=
  legalChars.covers c

/-- A document may hold all characters of the text. -/
def LegalText (s : List Char) : Prop :=
  ∀ c ∈ s, isLegal c = true

/-- Behind the control characters only two are not legal; surrogates are no characters here. -/
theorem isLegal_of_le {c : Char} (printable : 0x20 ≤ c.toNat)
    (others : c.toNat ≠ 0xFFFE ∧ c.toNat ≠ 0xFFFF) : isLegal c = true := by
  have valid : c.toNat < 0xD800 ∨ 0xDFFF < c.toNat ∧ c.toNat < 0x110000 := c.valid
  refine Text.RangeTable.covers_iff.mpr ?_
  rcases valid with low | ⟨high, top⟩
  · exact ⟨(0x20, 0xD7FF), by simp [legalChars], printable, by dsimp only; omega⟩
  · by_cases plane : c.toNat < 0x10000
    · exact ⟨(0xE000, 0xFFFD), by simp [legalChars], by dsimp only; omega, by dsimp only; omega⟩
    · exact ⟨(0x10000, 0x10FFFF), by simp [legalChars], by dsimp only; omega, by dsimp only; omega⟩

theorem isLegal_of_isDigit {c : Char} (h : c.isDigit = true) : isLegal c = true := by
  have bounds : 0x30 ≤ c.toNat ∧ c.toNat ≤ 0x39 := Char.isDigit_iff_toNat.mp h
  exact isLegal_of_le (by omega) (by omega)

namespace LegalText

theorem nil : LegalText [] := by
  intro c member
  exact absurd member (by simp)

theorem cons_iff {c : Char} {s : List Char} :
    LegalText (c :: s) ↔ isLegal c = true ∧ LegalText s :=
  List.forall_mem_cons

theorem append_iff {s t : List Char} : LegalText (s ++ t) ↔ LegalText s ∧ LegalText t :=
  List.forall_mem_append

theorem append {s t : List Char} (hs : LegalText s) (ht : LegalText t) : LegalText (s ++ t) :=
  append_iff.mpr ⟨hs, ht⟩

/-- A part of a legal text is legal. -/
theorem mono {s t : List Char} (h : LegalText s) (part : ∀ c ∈ t, c ∈ s) : LegalText t :=
  fun c member => h c (part c member)

end LegalText

instance (s : List Char) : Decidable (LegalText s) :=
  decidable_of_iff (s.all isLegal = true) List.all_eq_true

/-! ## Names -/

/-- No identifier has a character that markup is made of, or one of the two that are not legal. -/
theorem identifierRanges_apart : (Text.identifierStarts ++ Text.identifierContinues).all
    (fun range => (0x30 ≤ range.1 && range.2 ≤ 0x39 || 0x41 ≤ range.1)
      && (range.2 < 0xFFFE || 0xFFFF < range.1)) = true := by
  decide +kernel

theorem toNat_of_isIdentifierContinue {c : Char} (h : Text.isIdentifierContinue c = true) :
    (0x30 ≤ c.toNat ∧ c.toNat ≤ 0x39 ∨ 0x41 ≤ c.toNat)
      ∧ c.toNat ≠ 0xFFFE ∧ c.toNat ≠ 0xFFFF := by
  have covered : Text.RangeTable.covers (Text.identifierStarts ++ Text.identifierContinues) c
      = true := by
    rw [Text.RangeTable.covers, List.any_append]
    exact h
  obtain ⟨range, member, low, high⟩ := Text.RangeTable.covers_iff.mp covered
  have apart := List.all_eq_true.mp identifierRanges_apart range member
  simp only [Bool.and_eq_true, Bool.or_eq_true, decide_eq_true_eq] at apart
  omega

theorem isNameChar_of_toNat {c : Char}
    (h : 0x30 ≤ c.toNat ∧ c.toNat ≤ 0x3A ∨ 0x41 ≤ c.toNat) : isNameChar c = true := by
  rw [← Bool.not_eq_false]
  intro ends
  rw [isNameChar, Bool.not_eq_false'] at ends
  have markup : c ∈ [' ', '\t', '\n', '\r', '<', '>', '/', '=', '"', '\'', '&'] := by
    simpa [isSpace, or_assoc] using ends
  have apart : [' ', '\t', '\n', '\r', '<', '>', '/', '=', '"', '\'', '&'].all (fun c =>
      !(decide (0x30 ≤ c.toNat) && decide (c.toNat ≤ 0x3A) || decide (0x41 ≤ c.toNat))) = true := by
    decide
  have outside := List.all_eq_true.mp apart c markup
  simp only [Bool.not_eq_true', Bool.or_eq_false_iff, Bool.and_eq_false_iff,
    decide_eq_false_iff_not] at outside
  omega

/-- A character of a name is legal, and a reader takes it for one of a name. -/
theorem isLegal_of_isNameContinue {c : Char} (h : isNameContinue c = true) :
    isLegal c = true ∧ isNameChar c = true := by
  rw [isNameContinue] at h
  simp only [Bool.or_eq_true, beq_iff_eq] at h
  rcases h with ((rfl | rfl) | rfl) | identifier
  · decide
  · decide
  · decide
  · obtain ⟨range, others⟩ := toNat_of_isIdentifierContinue identifier
    exact ⟨isLegal_of_le (by omega) others, isNameChar_of_toNat (by omega)⟩

theorem isNameContinue_of_start {c : Char} (h : isNameStart c = true) :
    isNameContinue c = true := by
  rw [isNameStart] at h
  simp only [Bool.or_eq_true, beq_iff_eq] at h
  rcases h with (rfl | rfl) | start
  · decide +kernel
  · decide
  · rw [isNameContinue, Text.isIdentifierContinue_of_start start, Bool.or_true]

theorem isNameContinue_of_isName {name : List Char} (h : isName name = true) :
    name ≠ [] ∧ ∀ c ∈ name, isNameContinue c = true := by
  cases name with
  | nil => cases h
  | cons first rest =>
      rw [isName, Bool.and_eq_true, List.all_eq_true] at h
      refine ⟨by simp, List.forall_mem_cons.mpr ⟨isNameContinue_of_start h.1, h.2⟩⟩

/-- **What strict mode takes for a name can stand in a tag.** -/
theorem isPlain_of_isName {name : String} (h : isName name.toList = true) : IsPlain name := by
  obtain ⟨nonempty, continues⟩ := isNameContinue_of_isName h
  refine ⟨fun empty => nonempty (by rw [empty]; rfl), fun c member => ?_⟩
  exact (isLegal_of_isNameContinue (continues c member)).2

theorem legalText_of_isName {name : List Char} (h : isName name = true) : LegalText name :=
  fun c member => (isLegal_of_isNameContinue ((isNameContinue_of_isName h).2 c member)).1

end Xml

open Xml (LegalText isLegal)

/-! ## Numbers -/

theorem legalText_toDigits (n : Nat) : LegalText (Nat.toDigits 10 n) :=
  fun _ member =>
    Xml.isLegal_of_isDigit (Nat.isDigit_of_mem_toDigits (by decide) (by decide) member)

theorem legalText_toString_nat (n : Nat) : LegalText (toString n).toList := by
  rw [Nat.toString_eq_ofList_toDigits, String.toList_ofList]
  exact legalText_toDigits n

theorem legalText_toString_int (n : Int) : LegalText (toString n).toList := by
  cases n with
  | ofNat n => exact legalText_toString_nat n
  | negSucc n =>
      show LegalText ("-" ++ toString (n + 1)).toList
      rw [String.toList_append]
      exact LegalText.append (by decide) (legalText_toString_nat (n + 1))

namespace Decimal

theorem legalText_positional (d : Digits) : LegalText d.positional := by
  have digits := legalText_toDigits d.digits
  have zeros (n : Nat) : LegalText (List.replicate n '0') := by
    intro c member
    rw [List.eq_of_mem_replicate member]
    decide
  rw [Digits.positional]
  split
  · exact digits.append (zeros _)
  · dsimp only
    split
    · exact LegalText.append (LegalText.append (by decide) (zeros _)) digits
    · have point : LegalText ['.'] := by decide
      exact LegalText.append (LegalText.append (digits.mono fun _ => List.mem_of_mem_take) point)
        (digits.mono fun _ => List.mem_of_mem_drop)

theorem legalText_scientific {mark : String} (h : LegalText mark.toList) (d : Digits) :
    LegalText (d.scientific mark) := by
  have digits := legalText_toDigits d.digits
  have minus : LegalText ['e', '-'] := by decide
  have pointed {first second : Char} {rest : List Char}
      (split : Nat.toDigits 10 d.digits = first :: second :: rest) :
      LegalText (first :: '.' :: second :: rest) := by
    rw [split] at digits
    obtain ⟨one, more⟩ := LegalText.cons_iff.mp digits
    exact LegalText.cons_iff.mpr ⟨one, LegalText.cons_iff.mpr ⟨by decide, more⟩⟩
  rw [Digits.scientific]
  split
  · refine LegalText.append (LegalText.append ?_ h) (legalText_toDigits _)
    split
    · exact pointed ‹_›
    · exact digits
  · refine LegalText.append (LegalText.append ?_ minus) (legalText_toDigits _)
    split
    · exact pointed ‹_›
    · exact digits

/-- A layout whose words are legal writes legal numbers. -/
theorem legalText_float {layout : Layout} (mark : LegalText layout.exponentMark.toList)
    (nan : LegalText layout.nan.toList) (infinity : LegalText layout.infinity.toList) (x : Float) :
    LegalText (layout.float x).toList := by
  have sign : LegalText (if x < 0 then "-" else "").toList := by
    split
    · decide
    · decide
  rw [Layout.float]
  split
  · exact nan
  dsimp only
  split
  · rw [String.toList_append]
    exact sign.append infinity
  split
  · decide
  · rw [String.toList_append, String.toList_ofList, Layout.digits]
    refine sign.append ?_
    split
    · exact legalText_positional _
    · exact legalText_scientific mark _

end Decimal

/-! ## Values -/

namespace Value

mutual

/-- All texts in the value are legal; the keys of maps are never shown. -/
def Legal : Value → Prop
  | .string s => LegalText s.toList
  | .list items => AllLegal items
  | .map entries => EntriesLegal entries
  | .null | .bool _ | .int _ | .float _ => True

def AllLegal : List Value → Prop
  | [] => True
  | item :: rest => Legal item ∧ AllLegal rest

def EntriesLegal : List (String × Value) → Prop
  | [] => True
  | (_, value) :: rest => Legal value ∧ EntriesLegal rest

end

theorem allLegal_iff {items : List Value} : AllLegal items ↔ ∀ item ∈ items, item.Legal := by
  induction items with
  | nil => simp [AllLegal]
  | cons item rest ih => rw [AllLegal, ih, List.forall_mem_cons]

theorem entriesLegal_iff {entries : List (String × Value)} :
    EntriesLegal entries ↔ ∀ entry ∈ entries, entry.2.Legal := by
  induction entries with
  | nil => simp [EntriesLegal]
  | cons entry rest ih => rw [EntriesLegal, ih, List.forall_mem_cons]

mutual

/-- A value is shown by its texts, numbers and commas. -/
theorem Legal.display : ∀ {v : Value}, v.Legal → LegalText v.display.toList
  | .null, _ => by
      rw [Value.display]
      decide
  | .bool b, _ => by
      rw [Value.display]
      cases b <;> decide
  | .int n, _ => by
      rw [Value.display]
      exact legalText_toString_int n.toInt
  | .float x, _ => by
      rw [Value.display]
      exact Decimal.legalText_float (by decide) (by decide) (by decide) x
  | .string s, legal => by
      rw [Value.display]
      exact legal
  | .list [], _ => by
      rw [Value.display]
      decide
  | .list (item :: rest), ⟨first, more⟩ => by
      rw [Value.display, String.toList_append]
      exact first.display.append (AllLegal.displayRest more)
  | .map _, _ => by
      rw [Value.display]
      decide

theorem AllLegal.displayRest : ∀ {items : List Value}, AllLegal items →
    LegalText (Value.displayRest items).toList
  | [], _ => by
      rw [Value.displayRest]
      decide
  | item :: rest, ⟨first, more⟩ => by
      rw [Value.displayRest, String.toList_append, String.toList_append]
      exact LegalText.append (LegalText.append (by decide) first.display) more.displayRest

end

/-- What a path leads to in legal data is legal. -/
theorem Legal.lookup? {data value : Value} (legal : data.Legal) {path : List Char}
    (h : data.lookup? path = some value) : value.Legal := by
  rw [Value.lookup?] at h
  generalize segments path = keys at h
  induction keys generalizing data with
  | nil =>
      cases h
      exact legal
  | cons segment rest ih =>
      rw [List.foldlM_cons] at h
      obtain ⟨inner, found, h⟩ := Option.bind_eq_some_iff.mp h
      refine ih ?_ h
      cases data with
      | map entries =>
          exact entriesLegal_iff.mp legal _ (Entries.mem_of_get? found)
      | null | bool | int | float | string | list => cases found

end Value

end XmlTemplate
