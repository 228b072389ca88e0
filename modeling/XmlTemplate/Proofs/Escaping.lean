import XmlTemplate.Stream
import XmlTemplate.Proofs.Accepted
import XmlTemplate.Proofs.Shape

/-!
# Escaping

Escaping goes through a text once. It comes to the same as replacing the five special characters one
after the other in the whole text, the ampersand first, and as replacing their bytes in the UTF-8
form of the text, since no other character has a byte in common with them. Reading the entities from
left to right undoes it.
-/

namespace XmlTemplate.Xml

/-! ## Replacing one character after the other -/

/-- The special characters and what is written for them, in the order of their replacement. -/
def entities : List (Char × List Char) :=
  [('&', "&amp;".toList), ('<', "&lt;".toList), ('>', "&gt;".toList), ('"', "&quot;".toList),
    ('\'', "&apos;".toList)]

/-- Replaces every occurrence of the character in the text. -/
def replaceAll (c : Char) (replacement s : List Char) : List Char :=
  s.flatMap fun d => if d = c then replacement else [d]

/-- Replaces the special characters, each in the whole text that the replacements before it gave. -/
def replaceEntities (s : List Char) : List Char :=
  entities.foldl (fun s entity => replaceAll entity.1 entity.2 s) s

/-- A character is one of the special ones or is written as it is. -/
theorem escapeChar_cases (c : Char) : (c, escapeChar c) ∈ entities ∨
    (∀ entity ∈ entities, c ≠ entity.1) ∧ escapeChar c = [c] := by
  unfold escapeChar
  split
  · exact .inl (by decide)
  · exact .inl (by decide)
  · exact .inl (by decide)
  · exact .inl (by decide)
  · exact .inl (by decide)
  · rename_i amp lt gt quot apos
    have plain : c ≠ '&' ∧ c ≠ '<' ∧ c ≠ '>' ∧ c ≠ '"' ∧ c ≠ '\'' := ⟨amp, lt, gt, quot, apos⟩
    refine .inr ⟨?_, rfl⟩
    simpa [entities] using plain

theorem replaceEntities_append (s t : List Char) :
    replaceEntities (s ++ t) = replaceEntities s ++ replaceEntities t := by
  simp only [replaceEntities]
  generalize entities = table
  induction table generalizing s t with
  | nil => rfl
  | cons entity rest ih =>
      simp only [List.foldl_cons, replaceAll, List.flatMap_append]
      exact ih _ _

/-- A character that is not special stays through all replacements. -/
theorem replaceEntities_of_plain {c : Char} (plain : ∀ entity ∈ entities, c ≠ entity.1) :
    replaceEntities [c] = [c] := by
  rw [replaceEntities]
  generalize entities = table at plain ⊢
  induction table with
  | nil => rfl
  | cons entity rest ih =>
      obtain ⟨first, more⟩ := List.forall_mem_cons.mp plain
      rw [List.foldl_cons, replaceAll, List.flatMap_singleton, if_neg first, ih more]

/-- The ampersands of the entities are not replaced again, for theirs is the first replacement. -/
theorem replaceEntities_singleton (c : Char) : replaceEntities [c] = escapeChar c := by
  rcases escapeChar_cases c with special | ⟨plain, same⟩
  · have each : ∀ entity ∈ entities, replaceEntities [entity.1] = entity.2 := by decide
    exact each (c, escapeChar c) special
  · rw [same, replaceEntities_of_plain plain]

theorem replaceEntities_eq_escape (s : List Char) : replaceEntities s = escape s := by
  induction s with
  | nil => rfl
  | cons c rest ih =>
      rw [← List.singleton_append, replaceEntities_append, replaceEntities_singleton, ih, escape]
      rfl

/-! ## Replacing bytes -/

/-- What is written for a byte of the text. -/
def escapeByte (b : UInt8) : List UInt8 :=
  match entities.find? fun entity => entity.1.toNat == b.toNat with
  | some entity => utf8 entity.2
  | none => [b]

/-- A byte below 128 is a character of its own and never a part of another one. -/
theorem toNat_of_mem_utf8EncodeChar {c : Char} {b : UInt8} (member : b ∈ String.utf8EncodeChar c)
    (ascii : b.toNat < 128) : b.toNat = c.toNat := by
  have lead (n m : Nat) (low : 128 ≤ m) (high : n + m < 256) (h : b = UInt8.ofNat (n + m)) :
      b.toNat = c.toNat := by
    rw [h, UInt8.toNat_ofNat_of_lt' high] at ascii
    omega
  simp only [String.utf8EncodeChar] at member
  split at member
  · rename_i one
    rw [List.mem_singleton] at member
    rw [member, UInt8.toNat_ofNat_of_lt' (Nat.lt_of_le_of_lt one (by decide))]
    rfl
  · split at member
    · simp only [List.mem_cons, List.not_mem_nil, or_false] at member
      rcases member with h | h
      · exact lead _ 192 (by omega) (by omega) h
      · exact lead _ 128 (by omega) (by omega) h
    · split at member
      · simp only [List.mem_cons, List.not_mem_nil, or_false] at member
        rcases member with h | h | h
        · exact lead _ 224 (by omega) (by omega) h
        · exact lead _ 128 (by omega) (by omega) h
        · exact lead _ 128 (by omega) (by omega) h
      · simp only [List.mem_cons, List.not_mem_nil, or_false] at member
        rcases member with h | h | h | h
        · exact lead _ 240 (by omega) (by omega) h
        · exact lead _ 128 (by omega) (by omega) h
        · exact lead _ 128 (by omega) (by omega) h
        · exact lead _ 128 (by omega) (by omega) h

theorem find?_entity_of_plain {c : Char} (plain : ∀ entity ∈ entities, c ≠ entity.1)
    {b : UInt8} (member : b ∈ String.utf8EncodeChar c) :
    entities.find? (fun entity => entity.1.toNat == b.toNat) = none := by
  refine List.find?_eq_none.mpr fun entity listed same => plain entity listed ?_
  have ascii : ∀ entity ∈ entities, entity.1.toNat < 128 := by decide
  have low : entity.1.toNat < 128 := ascii entity listed
  have same : entity.1.toNat = b.toNat := beq_iff_eq.mp same
  exact Char.toNat_inj.mp ((toNat_of_mem_utf8EncodeChar member (by omega)).symm.trans same.symm)

theorem escapeByte_of_plain {c : Char} (plain : ∀ entity ∈ entities, c ≠ entity.1)
    {b : UInt8} (member : b ∈ String.utf8EncodeChar c) : escapeByte b = [b] := by
  rw [escapeByte, find?_entity_of_plain plain member]

theorem flatMap_escapeByte_utf8EncodeChar (c : Char) :
    (String.utf8EncodeChar c).flatMap escapeByte = utf8 (escapeChar c) := by
  rcases escapeChar_cases c with special | ⟨plain, same⟩
  · have each : ∀ entity ∈ entities,
        (String.utf8EncodeChar entity.1).flatMap escapeByte = utf8 entity.2 := by decide
    exact each (c, escapeChar c) special
  · rw [List.flatMap_congr fun b member => escapeByte_of_plain plain member,
      List.flatMap_singleton', same, utf8, List.flatMap_singleton]

/-- The bytes of an escaped text are those of the text, with the special ones replaced. -/
theorem utf8_escape (s : List Char) : utf8 (escape s) = (utf8 s).flatMap escapeByte := by
  rw [utf8, utf8, escape, List.flatMap_assoc, List.flatMap_assoc]
  exact List.flatMap_congr fun c _ => (flatMap_escapeByte_utf8EncodeChar c).symm

/-! ## Reading entities -/

/-- Puts the special characters in the place of their entities, in one pass from left to right. -/
def unescape : List Char → List Char
  | '&' :: 'a' :: 'm' :: 'p' :: ';' :: rest => '&' :: unescape rest
  | '&' :: 'l' :: 't' :: ';' :: rest => '<' :: unescape rest
  | '&' :: 'g' :: 't' :: ';' :: rest => '>' :: unescape rest
  | '&' :: 'q' :: 'u' :: 'o' :: 't' :: ';' :: rest => '"' :: unescape rest
  | '&' :: 'a' :: 'p' :: 'o' :: 's' :: ';' :: rest => '\'' :: unescape rest
  | c :: rest => c :: unescape rest
  | [] => []

theorem unescape_cons {c : Char} (h : c ≠ '&') (rest : List Char) :
    unescape (c :: rest) = c :: unescape rest := by
  rw [unescape.eq_def]
  split
  case h_6 same =>
    obtain ⟨rfl, rfl⟩ := List.cons.inj same
    rfl
  case h_7 same => cases same
  all_goals
    rename_i same
    exact absurd (List.cons.inj same).1 h

theorem unescape_escapeChar_append (c : Char) (rest : List Char) :
    unescape (escapeChar c ++ rest) = c :: unescape rest := by
  unfold escapeChar
  split
  · rfl
  · rfl
  · rfl
  · rfl
  · rfl
  · exact unescape_cons ‹_› rest

theorem unescape_escape (s : List Char) : unescape (escape s) = s := by
  induction s with
  | nil => rfl
  | cons c rest ih =>
      rw [escape, List.flatMap_cons, unescape_escapeChar_append, ← escape, ih]

/-- Escaped text is read as text by the reader of documents, so its ampersands start entities. -/
theorem entitiesOnly_escape (s : List Char) : EntitiesOnly (escape s) := by
  have read := entitiesOnly_of_read? (reads_text (String.ofList s)).read?
  rwa [Markup.written, String.toList_ofList] at read

/--
**Escaping is the replacement of the five special characters, one after the other**, and it is the
replacement of their bytes. No bracket and no quote is left, every ampersand starts an entity,
reading the entities gives the text back, and escaping goes piece by piece.
-/
theorem escape_replaces_and_unescapes (s t : List Char) :
    escape s = replaceAll '\'' "&apos;".toList (replaceAll '"' "&quot;".toList
      (replaceAll '>' "&gt;".toList (replaceAll '<' "&lt;".toList
        (replaceAll '&' "&amp;".toList s)))) ∧
    utf8 (escape s) = (utf8 s).flatMap escapeByte ∧
    ('<' ∉ escape s ∧ '>' ∉ escape s ∧ '"' ∉ escape s ∧ '\'' ∉ escape s) ∧
    EntitiesOnly (escape s) ∧
    unescape (escape s) = s ∧
    escape (s ++ t) = escape s ++ escape t := by
  have absent {c : Char} (special : c ∈ ['<', '>', '"', '\'']) : c ∉ escape s :=
    not_mem_escape special s
  refine ⟨(replaceEntities_eq_escape s).symm, utf8_escape s, ?_, entitiesOnly_escape s,
    unescape_escape s, escape_append s t⟩
  exact ⟨absent (by simp), absent (by simp), absent (by simp), absent (by simp)⟩

/-- Text that looks like an entity is escaped like any other. -/
example : escape "&lt;é".toList = "&amp;lt;é".toList := by decide

end XmlTemplate.Xml
