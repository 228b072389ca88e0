import Mathlib.Data.List.Forall2
import XmlTemplate.Stream

/-!
# Texts cut at byte positions

Texts are cut at positions that are counted in bytes. A stretch between two such positions is a text
again only if it does not stop before it starts or behind the end, and neither position is inside a
character; `slice?` gives nothing otherwise.

What goes through a text for the sake of something that occurs in it (`hits`) takes the stretches
between the hits, from the stop of one to the start of the next, and deals with each hit in its own
way. `Parted` says which texts the hits and what is between them are; it is shown along the
characters of the text and speaks of no byte. From it follows that every stretch fits, that
slicing gives these texts, and that the stretches make up the whole text (`Parted.tiles`).
-/

namespace XmlTemplate.Text

/-! ## Stretches -/

/-- The bytes of a text from a position up to but without another one. -/
structure Stretch where
  start : Nat
  stop : Nat
deriving Repr, DecidableEq

/-- The stretch can be cut out of the text: it lies within, and no character lies across either of
its ends. -/
structure Stretch.FitsIn (r : Stretch) (s : String) : Prop where
  ordered : r.start ≤ r.stop
  within : r.stop ≤ s.utf8ByteSize
  wholeStart : String.Pos.Raw.IsValid s ⟨r.start⟩
  wholeStop : String.Pos.Raw.IsValid s ⟨r.stop⟩

instance (r : Stretch) (s : String) : Decidable (r.FitsIn s) :=
  decidable_of_iff (r.start ≤ r.stop ∧ r.stop ≤ s.utf8ByteSize ∧
    String.Pos.Raw.isValid s ⟨r.start⟩ ∧ String.Pos.Raw.isValid s ⟨r.stop⟩) <| by
      rw [String.Pos.Raw.isValid_eq_true_iff, String.Pos.Raw.isValid_eq_true_iff]
      constructor
      · rintro ⟨ordered, within, wholeStart, wholeStop⟩
        exact ⟨ordered, within, wholeStart, wholeStop⟩
      · rintro ⟨ordered, within, wholeStart, wholeStop⟩
        exact ⟨ordered, within, wholeStart, wholeStop⟩

/-- The text of a stretch, if it can be cut out. -/
def slice? (s : String) (r : Stretch) : Option String :=
  if h : r.FitsIn s then
    some (String.extract (String.Pos.mk ⟨r.start⟩ h.wholeStart)
      (String.Pos.mk ⟨r.stop⟩ h.wholeStop))
  else none

/-- The texts of several stretches, if all can be cut out. -/
def slices? (s : String) (stretches : List Stretch) : Option (List String) :=
  stretches.mapM (slice? s)

/-- The stretches between the hits: each starts where the last hit stops, and behind all hits there
is one up to the end. -/
def between (size : Nat) : Nat → List Stretch → List Stretch
  | last, [] => [⟨last, size⟩]
  | last, hit :: rest => ⟨last, hit.start⟩ :: between size hit.stop rest

/-- What is kept and what is found, one after the other by turns. -/
def weave {α : Type} : List α → List α → List α
  | kept :: more, found :: rest => kept :: found :: weave more rest
  | kept, _ => kept

/-- All stretches of a text with hits, those between the hits and the hits themselves. -/
def cuts (s : String) (hits : List Stretch) : List Stretch :=
  weave (between s.utf8ByteSize 0 hits) hits

/-- The first stretch starts at the one position, each starts where the one before it stops, and the
last stops at the other position. -/
def Consecutive (first last : Nat) : List Stretch → Prop
  | [] => first = last
  | r :: rest => r.start = first ∧ Consecutive r.stop last rest

/-- The stretches fit, make up the text without gap and without overlap, and give it back when they
are cut out. -/
structure Tiles (s : String) (stretches : List Stretch) : Prop where
  fits : ∀ r ∈ stretches, r.FitsIn s
  consecutive : Consecutive 0 s.utf8ByteSize stretches
  whole : (slices? s stretches).map String.join = some s

/-! ## What a stretch holds -/

/-- The number of bytes of a text. -/
def byteSize (text : List Char) : Nat :=
  (utf8 text).length

@[simp]
theorem byteSize_nil : byteSize [] = 0 := rfl

theorem byteSize_append (front back : List Char) :
    byteSize (front ++ back) = byteSize front + byteSize back := by
  rw [byteSize, utf8, List.flatMap_append, List.length_append]
  rfl

theorem byteSize_singleton (c : Char) : byteSize [c] = c.utf8Size := by
  rw [byteSize, utf8, List.flatMap_singleton, String.length_utf8EncodeChar]

theorem byteSize_cons (c : Char) (rest : List Char) :
    byteSize (c :: rest) = c.utf8Size + byteSize rest := by
  rw [← List.singleton_append, byteSize_append, byteSize_singleton]

theorem eq_nil_of_byteSize {text : List Char} (h : byteSize text = 0) : text = [] := by
  cases text with
  | nil => rfl
  | cons c rest =>
      have := c.utf8Size_pos
      rw [byteSize_cons] at h
      omega

theorem utf8ByteSize_eq (s : String) : s.utf8ByteSize = byteSize s.toList := by
  rw [← String.size_toByteArray, ← String.utf8Encode_toList, List.utf8Encode, List.size_toByteArray]
  rfl

/-- The bytes of the stretch are those of the text. -/
def Holds (s : String) (r : Stretch) (text : List Char) : Prop :=
  ∃ front back, s.toList = front ++ text ++ back ∧
    r = ⟨byteSize front, byteSize front + byteSize text⟩

section Holds

variable {s : String} {r : Stretch} {text front back : List Char}

/-- Behind whole characters is a position between characters. -/
theorem isValid_byteSize (h : s.toList = front ++ back) :
    String.Pos.Raw.IsValid s ⟨byteSize front⟩ := by
  refine String.Pos.Raw.isValid_iff_exists_append.mpr
    ⟨String.ofList front, String.ofList back, ?_, ?_⟩
  · rw [← String.ofList_append, ← h, String.ofList_toList]
  · rw [← String.toList_ofList (l := front), ← utf8ByteSize_eq, String.toList_ofList]
    rfl

theorem Holds.fitsIn (h : Holds s r text) : r.FitsIn s := by
  obtain ⟨front, back, whole, rfl⟩ := h
  have size : s.utf8ByteSize = byteSize front + byteSize text + byteSize back := by
    rw [← byteSize_append, ← byteSize_append, ← whole, utf8ByteSize_eq]
  have wholeStart : String.Pos.Raw.IsValid s ⟨byteSize front⟩ :=
    isValid_byteSize (whole.trans (List.append_assoc _ _ _))
  have wholeStop : String.Pos.Raw.IsValid s ⟨byteSize (front ++ text)⟩ := isValid_byteSize whole
  rw [byteSize_append] at wholeStop
  have within : byteSize front + byteSize text ≤ s.utf8ByteSize := by omega
  exact ⟨Nat.le_add_right _ _, within, wholeStart, wholeStop⟩

theorem Holds.slice?_eq (h : Holds s r text) : slice? s r = some (String.ofList text) := by
  rw [slice?, dif_pos h.fitsIn]
  obtain ⟨front, back, whole, rfl⟩ := h
  have bytes : s.toByteArray = front.utf8Encode ++ text.utf8Encode ++ back.utf8Encode := by
    rw [← String.utf8Encode_toList, whole, List.utf8Encode_append, List.utf8Encode_append]
  have size (text : List Char) : text.utf8Encode.size = byteSize text := by
    rw [List.utf8Encode, List.size_toByteArray]
    rfl
  have behind : (front.utf8Encode ++ (text.utf8Encode ++ back.utf8Encode)).extract
      (byteSize front + 0) (byteSize front + byteSize text) = text.utf8Encode := by
    rw [ByteArray.extract_append_size_add' (size front).symm,
      ByteArray.extract_append_eq_left (size text).symm]
  rw [Option.some_inj, ← String.toByteArray_inj, String.toByteArray_extract,
    String.toByteArray_ofList, bytes, ByteArray.append_assoc]
  exact behind

/-- A stretch that fits holds a text. -/
theorem Stretch.FitsIn.exists_holds (h : r.FitsIn s) : ∃ text, Holds s r text := by
  obtain ⟨ordered, -, wholeStart, wholeStop⟩ := h
  obtain ⟨front, behind, whole, start⟩ := String.Pos.Raw.isValid_iff_exists_append.mp wholeStart
  obtain ⟨upTo, back, whole', stop⟩ := String.Pos.Raw.isValid_iff_exists_append.mp wholeStop
  have start : r.start = byteSize front.toList := by
    rw [← utf8ByteSize_eq]
    exact congrArg String.Pos.Raw.byteIdx start
  have stop : r.stop = byteSize upTo.toList := by
    rw [← utf8ByteSize_eq]
    exact congrArg String.Pos.Raw.byteIdx stop
  have chars : s.toList = front.toList ++ behind.toList := by rw [whole, String.toList_append]
  have chars' : s.toList = upTo.toList ++ back.toList := by rw [whole', String.toList_append]
  -- the text up to the stop goes on from the text up to the start, as it has no fewer bytes
  obtain ⟨text, longer⟩ : front.toList <+: upTo.toList := by
    rcases List.append_eq_append_iff.mp (chars.symm.trans chars') with
      ⟨text, longer, -⟩ | ⟨text, shorter, -⟩
    · exact ⟨text, longer.symm⟩
    · have sizes := congrArg byteSize shorter
      rw [byteSize_append] at sizes
      have nothing : text = [] := eq_nil_of_byteSize (by omega)
      rw [nothing, List.append_nil] at shorter
      exact ⟨[], by rw [shorter, List.append_nil]⟩
  refine ⟨text, front.toList, back.toList, by rw [longer, chars'], ?_⟩
  rw [← byteSize_append, longer, ← start, ← stop]

/-- **Cutting gives the text that the stretch holds**, and nothing if it holds none. -/
theorem slice?_eq_some_iff {piece : String} :
    slice? s r = some piece ↔ Holds s r piece.toList := by
  constructor
  · intro h
    by_cases fits : r.FitsIn s
    · obtain ⟨text, held⟩ := fits.exists_holds
      have same := Option.some.inj (held.slice?_eq.symm.trans h)
      rwa [← same, String.toList_ofList]
    · rw [slice?, dif_neg fits] at h
      cases h
  · intro held
    rw [held.slice?_eq, String.ofList_toList]

/-- The second letter takes the bytes 1 and 2. -/
example : slice? "aé" ⟨1, 3⟩ = some "é" ∧ slice? "aé" ⟨2, 3⟩ = none := by decide

/-- A part of what a stretch holds is held by a part of the stretch. -/
theorem Holds.inner {before after : List Char} (h : Holds s r (before ++ text ++ after)) :
    Holds s ⟨r.start + byteSize before, r.stop - byteSize after⟩ text := by
  obtain ⟨front, back, whole, rfl⟩ := h
  refine ⟨front ++ before, after ++ back, by simp [whole], ?_⟩
  simp only [byteSize_append, Stretch.mk.injEq, true_and]
  omega

end Holds

/-! ## Texts with hits -/

/-- The text, which starts at the position, consists of the texts kept and, by turns with them,
those of the hits. -/
inductive Parted : Nat → List Char → List Stretch → List (List Char) → List (List Char) → Prop where
  | last (start : Nat) (text : List Char) : Parted start text [] [] [text]
  | hit {start : Nat} {kept found rest : List Char} {hits : List Stretch}
      {more founds : List (List Char)}
      (behind : Parted (start + byteSize kept + byteSize found) rest hits founds more) :
      Parted start (kept ++ found ++ rest)
        (⟨start + byteSize kept, start + byteSize kept + byteSize found⟩ :: hits)
        (found :: founds) (kept :: more)

section Parted

variable {s : String} {start : Nat} {text front : List Char} {hits : List Stretch}
  {founds kepts : List (List Char)}

/-- A character in front belongs to the first text that is kept. -/
theorem Parted.char {c : Char} {kept : List Char} {more : List (List Char)}
    (h : Parted (start + c.utf8Size) text hits founds (kept :: more)) :
    Parted start (c :: text) hits founds ((c :: kept) :: more) := by
  cases h with
  | last => exact .last _ _
  | @hit _ _ found rest hits _ founds behind =>
      have moved : start + byteSize (c :: kept) = start + c.utf8Size + byteSize kept := by
        rw [byteSize_cons]
        omega
      rw [← moved] at behind ⊢
      exact .hit behind

/-- A hit in front, with nothing kept before it. -/
theorem Parted.found (found : List Char)
    (h : Parted (start + byteSize found) text hits founds kepts) :
    Parted start (found ++ text) (⟨start, start + byteSize found⟩ :: hits) (found :: founds)
      ([] :: kepts) :=
  @Parted.hit start [] found text hits kepts founds h

theorem Parted.flatten_weave (h : Parted start text hits founds kepts) :
    (weave kepts founds).flatten = text := by
  induction h with
  | last => simp [weave]
  | hit _ ih => rw [weave, List.flatten_cons, List.flatten_cons, ih, List.append_assoc]

/-- The stretches of a text with hits hold what is kept and what is found. -/
theorem Parted.holds (h : Parted (byteSize front) text hits founds kepts)
    (whole : s.toList = front ++ text) :
    List.Forall₂ (Holds s) (between s.utf8ByteSize (byteSize front) hits) kepts ∧
      List.Forall₂ (Holds s) hits founds := by
  generalize position : byteSize front = start at h
  induction h generalizing front with
  | last start text =>
      subst position
      have stop : s.utf8ByteSize = byteSize front + byteSize text := by
        rw [utf8ByteSize_eq, whole, byteSize_append]
      have rest : Holds s ⟨byteSize front, s.utf8ByteSize⟩ text :=
        ⟨front, [], by rw [whole, List.append_nil], by rw [stop]⟩
      exact ⟨.cons rest .nil, .nil⟩
  | @hit start kept found rest hits more founds behind ih =>
      subst position
      have first : Holds s ⟨byteSize front, byteSize front + byteSize kept⟩ kept :=
        ⟨front, found ++ rest, by rw [whole]; simp, rfl⟩
      have second : Holds s ⟨byteSize front + byteSize kept,
          byteSize front + byteSize kept + byteSize found⟩ found :=
        ⟨front ++ kept, rest, by rw [whole]; simp, by rw [byteSize_append]⟩
      have whole' : s.toList = front ++ kept ++ found ++ rest := by
        rw [whole]
        simp
      have position : byteSize (front ++ kept ++ found)
          = byteSize front + byteSize kept + byteSize found := by
        rw [byteSize_append, byteSize_append]
      obtain ⟨kepts, founds⟩ := ih whole' position
      exact ⟨.cons first kepts, .cons second founds⟩

theorem slices?_eq {stretches : List Stretch} {texts : List (List Char)}
    (h : List.Forall₂ (Holds s) stretches texts) :
    slices? s stretches = some (texts.map String.ofList) := by
  induction h with
  | nil => rfl
  | cons first _ ih =>
      rw [slices?] at ih ⊢
      rw [List.mapM_cons, first.slice?_eq, ih]
      rfl

theorem forall₂_weave {as bs : List Stretch} {xs ys : List (List Char)}
    (h : List.Forall₂ (Holds s) as xs) (h' : List.Forall₂ (Holds s) bs ys) :
    List.Forall₂ (Holds s) (weave as bs) (weave xs ys) := by
  induction h generalizing bs ys with
  | nil => exact .nil
  | cons first _ ih =>
      cases h' with
      | nil => exact .cons first ‹_›
      | cons second more => exact .cons first (.cons second (ih more))

theorem fitsIn_of_holds {stretches : List Stretch} {texts : List (List Char)}
    (h : List.Forall₂ (Holds s) stretches texts) : ∀ r ∈ stretches, r.FitsIn s := by
  induction h with
  | nil => simp
  | cons first _ ih => exact List.forall_mem_cons.mpr ⟨first.fitsIn, ih⟩

theorem consecutive_weave (size last : Nat) (hits : List Stretch) :
    Consecutive last size (weave (between size last hits) hits) := by
  induction hits generalizing last with
  | nil => exact ⟨rfl, rfl⟩
  | cons hit rest ih => exact ⟨rfl, rfl, ih hit.stop⟩

/-- Stretches that hold the parts of the text, one after the other, make up the text. -/
theorem tiles_of_holds {stretches : List Stretch} {texts : List (List Char)}
    (h : List.Forall₂ (Holds s) stretches texts)
    (consecutive : Consecutive 0 s.utf8ByteSize stretches) (whole : texts.flatten = s.toList) :
    Tiles s stretches := by
  refine ⟨fitsIn_of_holds h, consecutive, ?_⟩
  have joined : String.join (texts.map String.ofList) = s := by
    rw [← String.toList_inj, String.toList_join, List.flatMap_map, ← whole, List.flatten_eq_flatMap]
    exact List.flatMap_congr fun text _ => String.toList_ofList
  rw [slices?_eq h, Option.map_some, joined]

theorem Parted.holds_whole (h : Parted 0 s.toList hits founds kepts) :
    List.Forall₂ (Holds s) (between s.utf8ByteSize 0 hits) kepts ∧
      List.Forall₂ (Holds s) hits founds :=
  @Parted.holds s s.toList [] hits founds kepts h rfl

/-- **What is cut out between the hits fits into the text, and with the hits it makes up the whole
text.** -/
theorem Parted.tiles (h : Parted 0 s.toList hits founds kepts) :
    Tiles s (cuts s hits) := by
  obtain ⟨kept, found⟩ := h.holds_whole
  exact tiles_of_holds (forall₂_weave kept found) (consecutive_weave _ 0 hits) h.flatten_weave

theorem map_toList_ofList (texts : List (List Char)) :
    (texts.map String.ofList).map String.toList = texts := by
  rw [List.map_map]
  exact List.map_id'' (fun _ => String.toList_ofList) texts

/-- Cutting between the hits gives what is kept. -/
theorem Parted.slices?_between (h : Parted 0 s.toList hits founds kepts) :
    slices? s (between s.utf8ByteSize 0 hits) = some (kepts.map String.ofList) :=
  slices?_eq h.holds_whole.1

end Parted

end XmlTemplate.Text
