import XmlTemplate.Proofs.Legal

/-!
# What the reader accepts

The reader takes a text only if every ampersand in it starts one of the five entities
(`entitiesOnly_of_read?`), and it loses no character: whatever it does not keep is markup. So the
characters of an accepted text are legal if those in its trees are (`legalText_of_read?`).
-/

namespace XmlTemplate.Xml

/-! ## Entities -/

/-- Every ampersand starts one of the five entities. -/
def EntitiesOnly (s : List Char) : Prop :=
  ∀ before after, s = before ++ '&' :: after →
    ∃ name rest c, after = name ++ ';' :: rest ∧ entity? name = some c

theorem entity?_eq_some {name : List Char} {c : Char} (h : entity? name = some c) :
    (name, c) ∈ [(['a', 'm', 'p'], '&'), (['l', 't'], '<'), (['g', 't'], '>'),
      (['q', 'u', 'o', 't'], '"'), (['a', 'p', 'o', 's'], '\'')] := by
  grind [entity?]

/-- The part of an entity that has been read, if the reader is in one. -/
def Phase.entity? : Phase → Option (List Char)
  | .textEntity entity => some entity
  | .valueEntity _ _ _ _ entity => some entity
  | _ => none

namespace Reader

variable {r r' final : Reader}

/-- An entity goes on up to a semicolon, which comes only behind the name of one of the five. -/
theorem step_entity {entity : List Char} {c : Char} (inside : r.phase.entity? = some entity)
    (h : r.step c = some r') :
    (c = ';' ∧ ∃ d, Xml.entity? entity = some d) ∨ r'.phase.entity? = some (entity ++ [c]) := by
  obtain ⟨phase, frames, trees⟩ := r
  cases phase with
  | textEntity read | valueEntity _ _ _ _ read =>
      cases inside
      rw [step] at h
      dsimp only at h
      split at h
      · obtain ⟨d, known, _⟩ := Option.map_eq_some_iff.mp h
        exact .inl ⟨‹c = ';'›, d, known⟩
      · cases h
        exact .inr rfl
  | content | opening | endName | startName | inTag | attributeName | equals | value
  | afterValue => cases inside

theorem run_entity {entity s : List Char} (inside : r.phase.entity? = some entity)
    (h : r.run s = some final) (outside : final.phase.entity? = none) :
    ∃ name rest c, s = name ++ ';' :: rest ∧ Xml.entity? (entity ++ name) = some c := by
  -- what is left gets shorter while the entity gets longer
  induction s generalizing r entity with
  | nil =>
      cases h
      rw [inside] at outside
      cases outside
  | cons c s ih =>
      rw [run, List.foldlM_cons] at h
      obtain ⟨r', stepped, h⟩ := Option.bind_eq_some_iff.mp h
      rcases step_entity inside stepped with ⟨rfl, d, known⟩ | goesOn
      · exact ⟨[], s, d, rfl, by rwa [List.append_nil]⟩
      · obtain ⟨name, rest, d, rfl, known⟩ := ih goesOn h
        exact ⟨c :: name, rest, d, rfl, by rwa [List.append_assoc] at known⟩

/-- An ampersand is read only where an entity may stand, or as a part of one that is unknown. -/
theorem step_ampersand (h : r.step '&' = some r') :
    ∃ entity, r'.phase.entity? = some entity ∧ (entity = [] ∨ '&' ∈ entity) := by
  obtain ⟨phase, frames, trees⟩ := r
  cases phase with
  | content | value =>
      cases h
      exact ⟨[], rfl, .inl rfl⟩
  | textEntity read | valueEntity _ _ _ _ read =>
      cases h
      exact ⟨read ++ ['&'], rfl, .inr (by simp)⟩
  | opening | endName | startName | inTag | attributeName | equals | afterValue => cases h

end Reader

theorem run_of_read? {s : List Char} {trees : List Tree} (h : read? s = some trees) :
    Reader.run {} s = some ⟨.content, [], trees⟩ := by
  rw [read?] at h
  split at h
  · cases h
    assumption
  · cases h

/-- **In a text that is read, every ampersand starts an entity.** -/
theorem entitiesOnly_of_read? {s : List Char} {trees : List Tree} (h : read? s = some trees) :
    EntitiesOnly s := by
  rintro before after rfl
  have whole := run_of_read? h
  rw [Reader.run, List.foldlM_append] at whole
  obtain ⟨r, _, rest⟩ := Option.bind_eq_some_iff.mp whole
  rw [List.foldlM_cons] at rest
  obtain ⟨r', stepped, rest⟩ := Option.bind_eq_some_iff.mp rest
  obtain ⟨entity, inside, fresh⟩ := Reader.step_ampersand stepped
  obtain ⟨name, behind, c, rfl, known⟩ := Reader.run_entity inside rest rfl
  rcases fresh with rfl | ampersand
  · exact ⟨name, behind, c, rfl, known⟩
  · -- no entity has an ampersand in its name
    have listed := entity?_eq_some known
    have member : '&' ∈ entity ++ name := List.mem_append_left _ ampersand
    simp only [List.mem_cons, Prod.mk.injEq, List.not_mem_nil, or_false] at listed
    rcases listed with ⟨same, _⟩ | ⟨same, _⟩ | ⟨same, _⟩ | ⟨same, _⟩ | ⟨same, _⟩
    all_goals
      rw [same] at member
      exact absurd member (by decide)

/-! ## Trees -/

mutual

/-- All elements in the tree have the one property, with their names and attributes, and all
characters of text the other. -/
def Tree.Every (tag : String → List Attribute → Prop) (text : Char → Prop) : Tree → Prop
  | .char c => text c
  | .element name attributes children => tag name attributes ∧ Tree.EveryOf tag text children

def Tree.EveryOf (tag : String → List Attribute → Prop) (text : Char → Prop) : List Tree → Prop
  | [] => True
  | tree :: rest => Tree.Every tag text tree ∧ Tree.EveryOf tag text rest

end

section Every

variable {tag : String → List Attribute → Prop} {text : Char → Prop}

theorem Tree.everyOf_append {trees more : List Tree} : Tree.EveryOf tag text (trees ++ more) ↔
    Tree.EveryOf tag text trees ∧ Tree.EveryOf tag text more := by
  induction trees with
  | nil => simp [Tree.EveryOf]
  | cons tree rest ih => rw [List.cons_append, Tree.EveryOf, ih, Tree.EveryOf, and_assoc]

theorem Tree.everyOf_chars {s : String} :
    Tree.EveryOf tag text (Tree.chars s) ↔ ∀ c ∈ s.toList, text c := by
  rw [Tree.chars]
  induction s.toList with
  | nil => simp [Tree.EveryOf]
  | cons c rest ih => rw [List.map_cons, Tree.EveryOf, ih, Tree.Every, List.forall_mem_cons]

end Every

/-! ## Legal characters -/

/-- The attributes have legal names and values. -/
def LegalAttributes (attributes : List Attribute) : Prop :=
  ∀ a ∈ attributes, LegalText a.name.toList ∧ LegalText a.value.toList

/-- A tag with this name and these attributes holds legal characters only. -/
def LegalTag (name : String) (attributes : List Attribute) : Prop :=
  LegalText name.toList ∧ LegalAttributes attributes

/-- All names and texts in the trees are legal. -/
def Tree.AllLegal (trees : List Tree) : Prop :=
  Tree.EveryOf LegalTag (fun c => isLegal c = true) trees

/-- What has been read of a tag or of an entity is legal. -/
def Phase.Legal : Phase → Prop
  | .content | .opening => True
  | .textEntity entity => LegalText entity
  | .endName name | .startName name => LegalText name
  | .inTag name attributes | .afterValue name attributes =>
    LegalText name ∧ LegalAttributes attributes
  | .attributeName name attributes key | .equals name attributes key =>
    (LegalText name ∧ LegalAttributes attributes) ∧ LegalText key
  | .value name attributes key read =>
    ((LegalText name ∧ LegalAttributes attributes) ∧ LegalText key) ∧ LegalText read
  | .valueEntity name attributes key read entity =>
    (((LegalText name ∧ LegalAttributes attributes) ∧ LegalText key) ∧ LegalText read)
      ∧ LegalText entity

/-- All that has been read is legal. -/
structure Reader.Legal (r : Reader) : Prop where
  phase : r.phase.Legal
  frames : ∀ frame ∈ r.frames, LegalTag frame.name frame.attributes ∧ Tree.AllLegal frame.before
  trees : Tree.AllLegal r.trees

theorem isLegal_of_isSpace {c : Char} (h : isSpace c = true) : isLegal c = true := by
  rw [isSpace] at h
  simp only [Bool.or_eq_true, beq_iff_eq] at h
  rcases h with ((rfl | rfl) | rfl) | rfl
  all_goals decide

theorem legalText_concat {s : List Char} {c : Char} (h : LegalText (s ++ [c])) :
    LegalText s ∧ isLegal c = true := by
  obtain ⟨front, last⟩ := LegalText.append_iff.mp h
  exact ⟨front, last c List.mem_cons_self⟩

/-- The names of the entities are legal, and so are the characters that they stand for. -/
theorem legalText_of_entity? {name : List Char} {c : Char} (h : entity? name = some c) :
    LegalText name := by
  have listed := entity?_eq_some h
  simp only [List.mem_cons, Prod.mk.injEq, List.not_mem_nil, or_false] at listed
  rcases listed with ⟨rfl, _⟩ | ⟨rfl, _⟩ | ⟨rfl, _⟩ | ⟨rfl, _⟩ | ⟨rfl, _⟩
  all_goals decide

namespace Reader

variable {r r' final : Reader}

theorem Legal.of_addChar {c : Char} (h : (r.addChar c).Legal) (phase : r.phase.Legal) :
    r.Legal ∧ isLegal c = true := by
  obtain ⟨trees, added⟩ := Tree.everyOf_append.mp h.trees
  exact ⟨⟨phase, h.frames, trees⟩, added.1⟩

theorem Legal.of_go {phase : Phase} (h : (r.go phase).Legal) (before : r.phase.Legal) : r.Legal :=
  ⟨before, h.frames, h.trees⟩

/-- What a tag is opened with was legal before. -/
theorem Legal.of_enter {name : List Char} {attributes : List Attribute}
    (h : (r.enter name attributes).Legal)
    (before : LegalText name ∧ LegalAttributes attributes → r.phase.Legal) : r.Legal := by
  obtain ⟨⟨tag, trees⟩, outer⟩ := List.forall_mem_cons.mp h.frames
  refine ⟨before ⟨?_, tag.2⟩, outer, trees⟩
  have name := tag.1
  rwa [String.toList_ofList] at name

theorem Legal.of_leave {name : List Char} (h : r.leave name = some r') (legal : r'.Legal)
    (before : LegalText name → r.phase.Legal) : r.Legal := by
  rw [leave] at h
  split at h
  · cases h
  · rename_i frame outer frames
    split at h
    · rename_i same
      cases h
      obtain ⟨trees, closed, _⟩ := Tree.everyOf_append.mp legal.trees
      have tag : LegalTag frame.name frame.attributes := closed.1
      refine ⟨before ?_, ?_, closed.2⟩
      · have name := tag.1
        rwa [same, String.toList_ofList] at name
      · rw [frames]
        exact List.forall_mem_cons.mpr ⟨⟨tag, trees⟩, legal.frames⟩
    · cases h

/-- Whatever the reader does not keep of what it reads is legal. -/
theorem legal_of_step {c : Char} (h : r.step c = some r') (legal : r'.Legal) :
    r.Legal ∧ isLegal c = true := by
  obtain ⟨phase, frames, trees⟩ := r
  -- in each phase the character is markup, or the next reader keeps it
  cases phase with
  | content =>
      rw [step] at h
      dsimp only at h
      split at h
      · cases h
        exact ⟨legal.of_go trivial, by rw [‹c = '<'›]; decide⟩
      split at h
      · cases h
        exact ⟨legal.of_go trivial, by rw [‹c = '&'›]; decide⟩
      · cases h
        exact legal.of_addChar trivial
  | textEntity entity =>
      rw [step] at h
      dsimp only at h
      split at h
      · obtain ⟨d, known, rfl⟩ := Option.map_eq_some_iff.mp h
        exact ⟨(legal.of_addChar (legalText_of_entity? known)).1, by rw [‹c = ';'›]; decide⟩
      · cases h
        obtain ⟨read, last⟩ := legalText_concat legal.phase
        exact ⟨legal.of_go read, last⟩
  | opening =>
      rw [step] at h
      dsimp only at h
      split at h
      · cases h
        exact ⟨legal.of_go trivial, by rw [‹c = '/'›]; decide⟩
      split at h
      · cases h
        have first : LegalText [c] := legal.phase
        exact ⟨legal.of_go trivial, first c List.mem_cons_self⟩
      · cases h
  | endName name =>
      rw [step] at h
      dsimp only at h
      split at h
      · cases h
        obtain ⟨read, last⟩ := legalText_concat legal.phase
        exact ⟨legal.of_go read, last⟩
      split at h
      · exact ⟨.of_leave h legal id, by rw [‹c = '>'›]; decide⟩
      · cases h
  | startName name =>
      rw [step] at h
      dsimp only at h
      split at h
      · cases h
        obtain ⟨read, last⟩ := legalText_concat legal.phase
        exact ⟨legal.of_go read, last⟩
      split at h
      · cases h
        exact ⟨legal.of_go legal.phase.1, isLegal_of_isSpace ‹_›⟩
      split at h
      · cases h
        exact ⟨legal.of_enter And.left, by rw [‹c = '>'›]; decide⟩
      · cases h
  | inTag name attributes =>
      rw [step] at h
      dsimp only at h
      split at h
      · cases h
        have key : LegalText [c] := legal.phase.2
        exact ⟨legal.of_go legal.phase.1, key c List.mem_cons_self⟩
      split at h
      · cases h
        exact ⟨legal, isLegal_of_isSpace ‹_›⟩
      split at h
      · cases h
        exact ⟨legal.of_enter id, by rw [‹c = '>'›]; decide⟩
      · cases h
  | attributeName name attributes key =>
      rw [step] at h
      dsimp only at h
      split at h
      · cases h
        obtain ⟨read, last⟩ := legalText_concat legal.phase.2
        exact ⟨legal.of_go ⟨legal.phase.1, read⟩, last⟩
      split at h
      · cases h
        exact ⟨legal.of_go legal.phase, by rw [‹c = '='›]; decide⟩
      · cases h
  | equals name attributes key =>
      rw [step] at h
      dsimp only at h
      split at h
      · cases h
        exact ⟨legal.of_go legal.phase.1, by rw [‹c = '"'›]; decide⟩
      · cases h
  | value name attributes key read =>
      rw [step] at h
      dsimp only at h
      split at h
      · cases h
        obtain ⟨tag, all⟩ := legal.phase
        obtain ⟨before, last⟩ := List.forall_mem_append.mp all
        obtain ⟨legalKey, legalRead⟩ := last _ List.mem_cons_self
        rw [String.toList_ofList] at legalKey legalRead
        exact ⟨legal.of_go ⟨⟨⟨tag, before⟩, legalKey⟩, legalRead⟩, by rw [‹c = '"'›]; decide⟩
      split at h
      · cases h
        exact ⟨legal.of_go legal.phase.1, by rw [‹c = '&'›]; decide⟩
      split at h
      · cases h
      · cases h
        obtain ⟨before, last⟩ := legalText_concat legal.phase.2
        exact ⟨legal.of_go ⟨legal.phase.1, before⟩, last⟩
  | valueEntity name attributes key read entity =>
      rw [step] at h
      dsimp only at h
      split at h
      · obtain ⟨d, known, rfl⟩ := Option.map_eq_some_iff.mp h
        obtain ⟨before, _⟩ := legalText_concat legal.phase.2
        have inside : Phase.Legal (.valueEntity name attributes key read entity) :=
          ⟨⟨legal.phase.1, before⟩, legalText_of_entity? known⟩
        exact ⟨legal.of_go inside, by rw [‹c = ';'›]; decide⟩
      · cases h
        obtain ⟨before, last⟩ := legalText_concat legal.phase.2
        exact ⟨legal.of_go ⟨legal.phase.1, before⟩, last⟩
  | afterValue name attributes =>
      rw [step] at h
      dsimp only at h
      split at h
      · cases h
        exact ⟨legal.of_go legal.phase, isLegal_of_isSpace ‹_›⟩
      split at h
      · cases h
        exact ⟨legal.of_enter id, by rw [‹c = '>'›]; decide⟩
      · cases h

theorem legalText_of_run {s : List Char} (h : r.run s = some final) (legal : final.Legal) :
    r.Legal ∧ LegalText s := by
  -- from the end backwards: as the last reader is legal, so is each one before it
  induction s generalizing r with
  | nil =>
      cases h
      exact ⟨legal, LegalText.nil⟩
  | cons c s ih =>
      rw [run, List.foldlM_cons] at h
      obtain ⟨r', stepped, h⟩ := Option.bind_eq_some_iff.mp h
      obtain ⟨between, rest⟩ := ih h
      obtain ⟨before, first⟩ := legal_of_step stepped between
      exact ⟨before, LegalText.cons_iff.mpr ⟨first, rest⟩⟩

end Reader

/-- **A text is legal if it is read as legal trees.** -/
theorem legalText_of_read? {s : List Char} {trees : List Tree} (h : read? s = some trees)
    (legal : Tree.AllLegal trees) : LegalText s := by
  have final : Reader.Legal ⟨.content, [], trees⟩ := ⟨trivial, by simp, legal⟩
  exact (Reader.legalText_of_run (run_of_read? h) final).2

end XmlTemplate.Xml
