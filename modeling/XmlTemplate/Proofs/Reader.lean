import XmlTemplate.Xml.Markup

/-!
# Reading markup back

A reader for the part of XML that is written here: start tags whose attributes have their values in
double quotes, end tags that have to match, text, and the five entities. It takes one character
after the other and knows nothing of the writer; what it has read so far is its whole state.

Text is kept as one node per character, so that every document has one tree only. `Reads s trees`
says that the text `s` is read as the trees wherever it stands between tags; it is put together like
the text is (`Reads.append`, `Reads.element`).
-/

namespace XmlTemplate.Xml

/-! ## The reader -/

/-- White space within tags. -/
def isSpace (c : Char) : Bool :=
  c == ' ' || c == '\t' || c == '\n' || c == '\r'

/-- Whether a name can hold the character. What ends a name in any place of a tag cannot be in one,
nor can an ampersand or a quote. -/
def isNameChar (c : Char) : Bool :=
  !(isSpace c || ['<', '>', '/', '=', '"', '\'', '&'].contains c)

/-- A name that can stand in a tag. -/
def IsPlain (name : String) : Prop :=
  name ≠ "" ∧ ∀ c ∈ name.toList, isNameChar c = true

-- over the characters of the name, not over all characters
instance : DecidablePred IsPlain := fun name =>
  decidable_of_iff (name ≠ "" ∧ name.toList.all isNameChar = true) (by
    rw [IsPlain, List.all_eq_true])

/-- A node of a document. -/
inductive Tree where
  /-- One character of text. -/
  | char (c : Char)
  | element (name : String) (attributes : List Attribute) (children : List Tree)

mutual

/-- Whether two nodes are the same, from their children. -/
def Tree.decEq : (a b : Tree) → Decidable (a = b)
  | .char c, .char d => decidable_of_iff (c = d) (by rw [Tree.char.injEq])
  | .char _, .element _ _ _ => isFalse nofun
  | .element _ _ _, .char _ => isFalse nofun
  | .element name attributes children, .element name' attributes' children' =>
    have := Tree.decEqAll children children'
    decidable_of_iff (name = name' ∧ attributes = attributes' ∧ children = children')
      (by rw [Tree.element.injEq])

/-- Whether two lists of nodes are the same. -/
def Tree.decEqAll : (as bs : List Tree) → Decidable (as = bs)
  | [], [] => isTrue rfl
  | [], _ :: _ => isFalse nofun
  | _ :: _, [] => isFalse nofun
  | a :: as, b :: bs =>
    have := Tree.decEq a b
    have := Tree.decEqAll as bs
    decidable_of_iff (a = b ∧ as = bs) (by rw [List.cons.injEq])

end

instance : DecidableEq Tree := Tree.decEq

/-- The nodes of a text. -/
def Tree.chars (s : String) : List Tree :=
  s.toList.map Tree.char

/-- The character that an entity stands for. -/
def entity? (name : List Char) : Option Char :=
  if name = ['a', 'm', 'p'] then some '&'
  else if name = ['l', 't'] then some '<'
  else if name = ['g', 't'] then some '>'
  else if name = ['q', 'u', 'o', 't'] then some '"'
  else if name = ['a', 'p', 'o', 's'] then some '\''
  else none

/-- What the reader is in the middle of. -/
inductive Phase where
  /-- Between tags. -/
  | content
  /-- In an entity that stands in text. -/
  | textEntity (entity : List Char)
  /-- Behind the opening bracket of a tag. -/
  | opening
  | endName (name : List Char)
  | startName (name : List Char)
  /-- In a start tag, behind white space. -/
  | inTag (name : List Char) (attributes : List Attribute)
  | attributeName (name : List Char) (attributes : List Attribute) (key : List Char)
  /-- Behind the equals sign. -/
  | equals (name : List Char) (attributes : List Attribute) (key : List Char)
  | value (name : List Char) (attributes : List Attribute) (key value : List Char)
  /-- In an entity that stands in a value. -/
  | valueEntity (name : List Char) (attributes : List Attribute) (key value entity : List Char)
  /-- Behind the closing quote of a value. -/
  | afterValue (name : List Char) (attributes : List Attribute)

/-- An element whose end tag has not been read yet. -/
structure Frame where
  name : String
  attributes : List Attribute
  /-- The nodes before the element, in the element around it. -/
  before : List Tree

/-- What has been read. -/
structure Reader where
  phase : Phase := .content
  /-- The open elements, the innermost one first. -/
  frames : List Frame := []
  /-- The nodes of the innermost open element so far. -/
  trees : List Tree := []

namespace Reader

/-- Goes on in another phase. -/
def go (r : Reader) (phase : Phase) : Reader :=
  { r with phase }

/-- Adds a character of text. -/
def addChar (r : Reader) (c : Char) : Reader :=
  ⟨.content, r.frames, r.trees ++ [.char c]⟩

/-- Opens an element. -/
def enter (r : Reader) (name : List Char) (attributes : List Attribute) : Reader :=
  ⟨.content, ⟨String.ofList name, attributes, r.trees⟩ :: r.frames, []⟩

/-- Closes the innermost open element, which has to have the name. -/
def leave (r : Reader) (name : List Char) : Option Reader :=
  match r.frames with
  | [] => none
  | frame :: outer =>
    if frame.name = String.ofList name then
      some ⟨.content, outer, frame.before ++ [.element frame.name frame.attributes r.trees]⟩
    else none

/-- Reads one character. -/
def step (r : Reader) (c : Char) : Option Reader :=
  match r.phase with
  | .content =>
    if c = '<' then some (r.go .opening)
    else if c = '&' then some (r.go (.textEntity []))
    else some (r.addChar c)
  | .textEntity entity =>
    if c = ';' then (entity? entity).map r.addChar
    else some (r.go (.textEntity (entity ++ [c])))
  | .opening =>
    if c = '/' then some (r.go (.endName []))
    else if isNameChar c then some (r.go (.startName [c]))
    else none
  | .endName name =>
    if isNameChar c then some (r.go (.endName (name ++ [c])))
    else if c = '>' then r.leave name
    else none
  | .startName name =>
    if isNameChar c then some (r.go (.startName (name ++ [c])))
    else if isSpace c then some (r.go (.inTag name []))
    else if c = '>' then some (r.enter name [])
    else none
  | .inTag name attributes =>
    if isNameChar c then some (r.go (.attributeName name attributes [c]))
    else if isSpace c then some r
    else if c = '>' then some (r.enter name attributes)
    else none
  | .attributeName name attributes key =>
    if isNameChar c then some (r.go (.attributeName name attributes (key ++ [c])))
    else if c = '=' then some (r.go (.equals name attributes key))
    else none
  | .equals name attributes key =>
    if c = '"' then some (r.go (.value name attributes key [])) else none
  | .value name attributes key value =>
    if c = '"' then
      some (r.go (.afterValue name
        (attributes ++ [⟨String.ofList key, String.ofList value⟩])))
    else if c = '&' then some (r.go (.valueEntity name attributes key value []))
    else if c = '<' then none
    else some (r.go (.value name attributes key (value ++ [c])))
  | .valueEntity name attributes key value entity =>
    if c = ';' then
      (entity? entity).map fun c => r.go (.value name attributes key (value ++ [c]))
    else some (r.go (.valueEntity name attributes key value (entity ++ [c])))
  | .afterValue name attributes =>
    if isSpace c then some (r.go (.inTag name attributes))
    else if c = '>' then some (r.enter name attributes)
    else none

/-- Reads a text. -/
def run (r : Reader) (s : List Char) : Option Reader :=
  s.foldlM step r

end Reader

/-- The trees that a text stands for, if all its elements are closed at its end. -/
def read? (s : List Char) : Option (List Tree) :=
  match Reader.run {} s with
  | some ⟨.content, [], trees⟩ => some trees
  | _ => none

/-! ## Reading piece by piece -/

namespace Reader

theorem run_cons {r r' : Reader} {c : Char} (h : r.step c = some r') (s : List Char) :
    r.run (c :: s) = r'.run s := by
  rw [run, List.foldlM_cons, h]
  rfl

theorem run_append {r r' : Reader} {s : List Char} (h : r.run s = some r') (t : List Char) :
    r.run (s ++ t) = r'.run t := by
  rw [run, List.foldlM_append, ← run, h]
  rfl

/-- Pieces of one kind are read one by one, if each of them is added to those before it. -/
theorem run_flatMap {β : Type} {state : List β → Reader} {written : β → List Char} {pieces : List β}
    (h : ∀ done, ∀ piece ∈ pieces,
      (state done).run (written piece) = some (state (done ++ [piece]))) (done : List β) :
    (state done).run (pieces.flatMap written) = some (state (done ++ pieces)) := by
  induction pieces generalizing done with
  | nil =>
      rw [List.append_nil]
      rfl
  | cons piece rest ih =>
      rw [List.flatMap_cons, run_append (h done piece List.mem_cons_self),
        ih (fun done piece member => h done piece (List.mem_cons_of_mem _ member)),
        List.append_assoc, List.singleton_append]

/-- A name is read character by character. -/
theorem run_name {phase : List Char → Phase} {frames : List Frame} {trees : List Tree}
    (h : ∀ done c, isNameChar c = true →
      step ⟨phase done, frames, trees⟩ c = some ⟨phase (done ++ [c]), frames, trees⟩)
    {name : List Char} (plain : ∀ c ∈ name, isNameChar c = true) (done : List Char) :
    run ⟨phase done, frames, trees⟩ name = some ⟨phase (done ++ name), frames, trees⟩ := by
  have each := @run_flatMap Char (fun done => ⟨phase done, frames, trees⟩) (fun c => [c]) name
    (fun done c member => (run_cons (h done c (plain c member)) []).trans rfl) done
  rwa [List.flatMap_singleton'] at each

theorem ne_of_isNameChar {c d : Char} (h : isNameChar c = true) (hd : isNameChar d = false) :
    c ≠ d := by
  intro same
  rw [same, hd] at h
  exact absurd h (by simp)

/-! ## Text and values -/

section Text

variable (frames : List Frame) (trees : List Tree)

/-- An escaped character of text adds that character, whichever it is. -/
theorem run_escapeChar (c : Char) :
    run ⟨.content, frames, trees⟩ (escapeChar c)
      = some ⟨.content, frames, trees ++ [.char c]⟩ := by
  unfold escapeChar
  split
  · rfl
  · rfl
  · rfl
  · rfl
  · rfl
  · rename_i amp lt _ _ _
    have read : step ⟨.content, frames, trees⟩ c
        = some ⟨.content, frames, trees ++ [.char c]⟩ := by
      rw [step]
      dsimp only
      rw [if_neg lt, if_neg amp]
      rfl
    rw [run_cons read]
    rfl

/-- So it is in the value of an attribute: it neither closes the quotes nor opens a tag. -/
theorem run_escapeChar_value (name : List Char) (attributes : List Attribute)
    (key value : List Char) (c : Char) :
    run ⟨.value name attributes key value, frames, trees⟩ (escapeChar c)
      = some ⟨.value name attributes key (value ++ [c]), frames, trees⟩ := by
  unfold escapeChar
  split
  · rfl
  · rfl
  · rfl
  · rfl
  · rfl
  · rename_i amp lt _ quot _
    have read : step ⟨.value name attributes key value, frames, trees⟩ c
        = some ⟨.value name attributes key (value ++ [c]), frames, trees⟩ := by
      rw [step]
      dsimp only
      rw [if_neg quot, if_neg amp, if_neg lt]
      rfl
    rw [run_cons read]
    rfl

theorem run_escape_value (name : List Char) (attributes : List Attribute) (key s : List Char) :
    run ⟨.value name attributes key [], frames, trees⟩ (escape s)
      = some ⟨.value name attributes key s, frames, trees⟩ :=
  @run_flatMap Char (fun done => ⟨.value name attributes key done, frames, trees⟩) escapeChar s
    (fun done c _ => run_escapeChar_value frames trees name attributes key done c) []

end Text

/-! ## Tags -/

section Tags

variable {frames : List Frame} {trees : List Tree}

/-- An attribute is read from any point in a start tag at which white space may stand. -/
theorem run_attribute {r : Reader} {name : List Char} {attributes : List Attribute}
    {a : Attribute} (plain : IsPlain a.name)
    (h : r.step ' ' = some ⟨.inTag name attributes, frames, trees⟩) :
    r.run a.written
      = some ⟨.afterValue name (attributes ++ [a]), frames, trees⟩ := by
  obtain ⟨nonempty, plain⟩ := plain
  cases chars : a.name.toList with
  | nil => exact absurd (String.toList_eq_nil_iff.mp chars) nonempty
  | cons first rest =>
      rw [chars] at plain
      have begins : step ⟨.inTag name attributes, frames, trees⟩ first
          = some ⟨.attributeName name attributes [first], frames, trees⟩ := by
        simp [step, go, plain first List.mem_cons_self]
      have continues : run ⟨.attributeName name attributes [first], frames, trees⟩ rest
          = some ⟨.attributeName name attributes (first :: rest), frames, trees⟩ :=
        run_name (fun done c good => by simp [step, go, good])
          (fun c member => plain c (List.mem_cons_of_mem _ member)) [first]
      have opens : ∀ s : List Char,
          run ⟨.attributeName name attributes (first :: rest), frames, trees⟩ ('=' :: '"' :: s)
            = run ⟨.value name attributes (first :: rest) [], frames, trees⟩ s := fun _ => rfl
      have closes : run ⟨.value name attributes (first :: rest) a.value.toList, frames,
            trees⟩ ['"']
          = some ⟨.afterValue name (attributes ++ [a]), frames, trees⟩ := by
        rw [← chars]
        simp [run, step, go]
      rw [Attribute.written, chars]
      simp only [List.cons_append, List.append_assoc, List.nil_append]
      rw [run_cons h, run_cons begins, run_append continues, opens,
        run_append (run_escape_value frames trees name attributes (first :: rest) _), closes]

/-- So are all attributes and the closing bracket behind them. -/
theorem run_attributes {r : Reader} {name : List Char} {attributes more : List Attribute}
    (plain : ∀ a ∈ more, IsPlain a.name)
    (space : r.step ' ' = some ⟨.inTag name attributes, frames, trees⟩)
    (close : r.step '>'
      = some ⟨.content, ⟨String.ofList name, attributes, trees⟩ :: frames, []⟩) :
    r.run (more.flatMap Attribute.written ++ ['>'])
      = some ⟨.content, ⟨String.ofList name, attributes ++ more, trees⟩ :: frames, []⟩ := by
  induction more generalizing r attributes with
  | nil =>
      rw [List.flatMap_nil, List.nil_append, run_cons close, List.append_nil]
      rfl
  | cons a rest ih =>
      rw [List.flatMap_cons, List.append_assoc,
        run_append (run_attribute (plain a List.mem_cons_self) space),
        ih (fun b member => plain b (List.mem_cons_of_mem _ member)) rfl rfl,
        List.append_assoc, List.singleton_append]

/-- A start tag opens its element. -/
theorem run_startTag {name : String} {attributes : List Attribute} (plain : IsPlain name)
    (plainKeys : ∀ a ∈ attributes, IsPlain a.name) :
    run ⟨.content, frames, trees⟩ (Markup.startTag name attributes).written
      = some ⟨.content, ⟨name, attributes, trees⟩ :: frames, []⟩ := by
  obtain ⟨nonempty, plain⟩ := plain
  cases chars : name.toList with
  | nil => exact absurd (String.toList_eq_nil_iff.mp chars) nonempty
  | cons first rest =>
      rw [chars] at plain
      have good := plain first List.mem_cons_self
      have begins : step ⟨.opening, frames, trees⟩ first
          = some ⟨.startName [first], frames, trees⟩ := by
        simp [step, go, good, ne_of_isNameChar good (d := '/') (by decide)]
      have continues : run ⟨.startName [first], frames, trees⟩ rest
          = some ⟨.startName (first :: rest), frames, trees⟩ :=
        run_name (fun done c good => by simp [step, go, good])
          (fun c member => plain c (List.mem_cons_of_mem _ member)) [first]
      have space : step ⟨.startName (first :: rest), frames, trees⟩ ' '
          = some ⟨.inTag (first :: rest) [], frames, trees⟩ := rfl
      have opened := run_attributes plainKeys space rfl
      have bracket : step ⟨.content, frames, trees⟩ '<' = some ⟨.opening, frames, trees⟩ := rfl
      rw [Markup.written, chars]
      simp only [List.cons_append, List.append_assoc]
      rw [run_cons bracket, run_cons begins, run_append continues, opened, List.nil_append, ← chars,
        String.ofList_toList]

/-- An end tag with the name of the innermost open element closes it. -/
theorem run_endTag {name : String} {attributes : List Attribute} {before : List Tree}
    (plain : IsPlain name) :
    run ⟨.content, ⟨name, attributes, before⟩ :: frames, trees⟩ (Markup.endTag name).written
      = some ⟨.content, frames, before ++ [.element name attributes trees]⟩ := by
  have begins : ∀ s : List Char,
      run ⟨.content, ⟨name, attributes, before⟩ :: frames, trees⟩ ('<' :: '/' :: s)
        = run ⟨.endName [], ⟨name, attributes, before⟩ :: frames, trees⟩ s := fun _ => rfl
  have continues : run ⟨.endName [], ⟨name, attributes, before⟩ :: frames, trees⟩ name.toList
      = some ⟨.endName name.toList, ⟨name, attributes, before⟩ :: frames, trees⟩ :=
    run_name (fun done c good => by simp [step, go, good]) plain.2 []
  have closes : step ⟨.endName name.toList, ⟨name, attributes, before⟩ :: frames, trees⟩ '>'
      = some ⟨.content, frames, before ++ [.element name attributes trees]⟩ := by
    simp [step, leave, show isNameChar '>' = false by decide]
  rw [Markup.written]
  simp only [List.cons_append]
  rw [begins, run_append continues, run_cons closes]
  rfl

end Tags

end Reader

/-! ## Content -/

/-- The text is read as the trees, wherever it stands between tags. -/
def Reads (s : List Char) (trees : List Tree) : Prop :=
  ∀ frames before, Reader.run ⟨.content, frames, before⟩ s
    = some ⟨.content, frames, before ++ trees⟩

theorem Reads.nil : Reads [] [] := by
  intro frames before
  rw [List.append_nil]
  rfl

theorem Reads.append {s t : List Char} {trees more : List Tree} (hs : Reads s trees)
    (ht : Reads t more) : Reads (s ++ t) (trees ++ more) := by
  intro frames before
  rw [Reader.run_append (hs frames before), ht, List.append_assoc]

/-- Escaped text is read as its characters: no text opens or closes a tag, and none is taken for an
entity. -/
theorem reads_text (s : String) : Reads (Markup.text s).written (Tree.chars s) := by
  intro frames before
  have each := @Reader.run_flatMap Char
    (fun done => ⟨.content, frames, before ++ done.map Tree.char⟩) escapeChar s.toList ?_ []
  · rwa [List.map_nil, List.append_nil, List.nil_append] at each
  · intro done c _
    rw [Reader.run_escapeChar, List.map_append, List.append_assoc]
    rfl

/-- An element is read as its name, its attributes and what its content is read as. -/
theorem Reads.element {name : String} {attributes : List Attribute} {s : List Char}
    {children : List Tree} (plain : IsPlain name)
    (plainKeys : ∀ a ∈ attributes, IsPlain a.name) (h : Reads s children) :
    Reads ((Markup.startTag name attributes).written ++ (s ++ (Markup.endTag name).written))
      [.element name attributes children] := by
  intro frames before
  rw [Reader.run_append (Reader.run_startTag plain plainKeys), Reader.run_append (h _ _),
    List.nil_append]
  exact Reader.run_endTag plain

/-- Text that is read as trees is a document of these trees. -/
theorem Reads.read? {s : List Char} {trees : List Tree} (h : Reads s trees) :
    read? s = some trees := by
  have whole : Reader.run {} s = some ⟨.content, [], trees⟩ := h [] []
  rw [Xml.read?, whole]

end XmlTemplate.Xml
