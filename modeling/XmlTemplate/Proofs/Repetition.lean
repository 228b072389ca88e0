import XmlTemplate.Proofs.Failure
import XmlTemplate.Template.Compile
import XmlTemplate.Xml.Name

/-!
# What a sequence repeats over

A sequence goes through a list in the data, and renders all its entries for each item. Its key finds
the list as a path does: the dots in it part it. A key without dots therefore finds what is stored
under exactly this key, and no other key does (`sequence_repeats_over_key`).
-/

namespace XmlTemplate

open Run

/-! ## Paths and keys -/

namespace Value

/-- Before the first dot of a path is its first segment. -/
theorem exists_segments_eq_cons (path : List Char) :
    ∃ first more, segments path = first :: more ∧ '.' ∉ first := by
  induction path with
  | nil => exact ⟨[], [], rfl, List.not_mem_nil⟩
  | cons c rest ih =>
      obtain ⟨first, more, parted, dotless⟩ := ih
      by_cases dot : c = '.'
      · subst dot
        exact ⟨[], segments rest, rfl, List.not_mem_nil⟩
      · refine ⟨c :: first, more, ?_, ?_⟩
        · rw [segments, parted]
          exact fun same => dot same
        · simp [dotless, Ne.symm dot]

/-- A path without dots has one segment. -/
theorem segments_of_no_dot {path : List Char} (h : '.' ∉ path) : segments path = [path] := by
  induction path with
  | nil => rfl
  | cons c rest ih =>
      obtain ⟨dot, dotless⟩ := not_or.mp (List.mem_cons.not.mp h)
      rw [segments, ih dotless]
      exact fun same => dot same.symm

/-- A key without dots leads to what is stored under it. -/
theorem lookup?_of_no_dot {key : String} (h : '.' ∉ key.toList) (data : Value) :
    data.lookup? key.toList = data.field? key := by
  rw [lookup?, segments_of_no_dot h, List.foldlM_cons, String.ofList_toList]
  cases data.field? key <;> rfl

/-- A key with a dot does not lead to what is stored under it, if there is nothing else. -/
theorem lookup?_of_dot {key : String} (h : '.' ∈ key.toList) (value : Value) :
    (map [(key, value)]).lookup? key.toList = none := by
  obtain ⟨first, more, parted, dotless⟩ := exists_segments_eq_cons key.toList
  have other : key ≠ String.ofList first := by
    intro same
    rw [same, String.toList_ofList] at h
    exact dotless h
  rw [lookup?, parted, List.foldlM_cons, field?, Entries.get?, if_neg other]
  rfl

end Value

/-! ## The two loops -/

section Loops

variable {scope : Scope} {path : String} {depth : Nat}

theorem outcome_forEachItem {action : Value → Run Unit} {items : List Value}
    {text : Value → List Char}
    (each : ∀ item ∈ items, (action item).outcome = (.ok (), text item)) :
    (forEachItem action items).outcome = (.ok (), items.flatMap text) := by
  induction items with
  | nil => rfl
  | cons item rest ih =>
      obtain ⟨first, each⟩ := List.forall_mem_cons.mp each
      exact outcome_bind_of_ok first (ih each)

/-- Without a limit, entering a level does nothing but say so. -/
theorem outcome_enter (unlimited : scope.maxDepth = none) (path : String) (depth : Nat) :
    (scope.enter path depth).outcome = (.ok (), []) := by
  rcases scope.enter_cases path depth with ⟨limit, limited, _⟩ | entered
  · rw [unlimited] at limited
    cases limited
  · rw [entered]
    rfl

theorem outcome_renderEntries (unlimited : scope.maxDepth = none) {item : Value}
    {entries : List Content} (each : ∀ content ∈ entries,
      (renderElements scope path depth item content).result = .ok ()) :
    (renderEntries scope path depth item entries).outcome = (.ok (), entries.flatMap fun content =>
      (renderElements scope path depth item content).written) := by
  induction entries with
  | nil =>
      rw [renderEntries]
      rfl
  | cons content rest ih =>
      obtain ⟨first, each⟩ := List.forall_mem_cons.mp each
      have rendered : (renderElements scope path depth item content).outcome
          = (.ok (), (renderElements scope path depth item content).written) :=
        Prod.ext first rfl
      rw [renderEntries]
      exact (outcome_bind_of_ok (outcome_enter unlimited path depth)
        (outcome_bind_of_ok rendered (ih each))).trans rfl

theorem outcome_writeElement {name : String} {inside : Run Unit} {text : List Char}
    (h : inside.outcome = (.ok (), text)) : (writeElement name [] inside).outcome
      = (.ok (), (Xml.Markup.startTag name []).written ++ (text
        ++ (Xml.Markup.endTag name).written)) :=
  outcome_bind_of_ok (Prod.ext rfl (written_write _))
    (outcome_bind_of_ok h (Prod.ext rfl (written_write _)))

end Loops

/-! ## Sequences -/

/-- The sequence with the key, in the element with the path `outer`, repeats its entries over what
was found for it in the data. -/
structure RepeatsOver (scope : Scope) (key outer : String) (depth : Nat) (entries : List Content)
    (data : Value) (found : Option Value) : Prop where
  /-- Over the items of a list, if they can be rendered: all the entries for one item, and then all
  of them for the next. -/
  items : ∀ items, found = some (.list items) →
    (∀ item ∈ items, ∀ content ∈ entries,
      (renderElements scope (Path.child outer key) (depth + 1) item content).result = .ok ()) →
    (renderElement scope key (Path.child outer key) depth data (.sequence entries)).outcome
      = (.ok (), (Xml.Markup.startTag key []).written
        ++ ((items.flatMap fun item => entries.flatMap fun content =>
            (renderElements scope (Path.child outer key) (depth + 1) item content).written)
          ++ (Xml.Markup.endTag key).written))
  /-- If there is no list, the element is left out, or fails with its path. -/
  noList : (∀ items, found ≠ some (.list items)) →
    (renderElement scope key (Path.child outer key) depth data (.sequence entries)).outcome
      = (match scope.mode with
        | .lenient => .ok ()
        | .strict => .error (.located (.degraded (.sequenceWithoutList (Path.child outer key)
          (found.map Value.kind))) (Path.child outer key)), [])

section Sequence

variable {scope : Scope} {key outer : String} {depth : Nat} {entries : List Content}

/-- A sequence repeats over what its key leads to as a path. -/
theorem repeatsOver_lookup (unlimited : scope.maxDepth = none) (data : Value) :
    RepeatsOver scope key outer depth entries data (data.lookup? key.toList) where
  items items found rendered := by
    rw [renderElement_of_list found]
    exact outcome_writeElement (outcome_forEachItem fun item member =>
      outcome_renderEntries unlimited (rendered item member))
  noList noList := by
    rw [renderElement_of_no_list noList]
    cases scope.mode <;> rfl

theorem written_of_no_list {path : String} {data : Value}
    (noList : ∀ items, data.lookup? key.toList ≠ some (.list items)) :
    (renderElement scope key path depth data (.sequence entries)).written = [] := by
  rw [renderElement_of_no_list noList]
  cases scope.mode <;> rfl

/-- With a dot in its key, a sequence does not see a list that is stored under exactly this key. -/
theorem not_repeatsOver_of_dot (dotted : '.' ∈ key.toList) :
    ¬RepeatsOver scope key outer depth entries (.map [(key, .list [])]) (some (.list [])) := by
  intro repeats
  have wrote := congrArg Prod.snd (repeats.items [] rfl fun _ member => absurd member (by simp))
  have noList (items : List Value) :
      (Value.map [(key, .list [])]).lookup? key.toList ≠ some (.list items) := by
    rw [Value.lookup?_of_dot dotted]
    exact fun found => by cases found
  rw [outcome, written_of_no_list noList] at wrote
  -- the start tag would have been written
  simp [Xml.Markup.written] at wrote

/-- In lenient mode and without a limit, all elements can be rendered. -/
theorem result_renderElements_of_lenient (lenient : scope.mode = .lenient)
    (unlimited : scope.maxDepth = none) (path : String) (data : Value) (content : Content) :
    (renderElements scope path depth data content).result = .ok () := by
  have fails := (comparison_failsOnly scope).renderElements path depth (rfl : data = data) content
  refine (fails.exists_ok ?_).elim fun _ rendered => rendered
  rintro cause (⟨strict, -⟩ | ⟨limit, limited, -⟩)
  · rw [lenient] at strict
    cases strict
  · rw [unlimited] at limited
    cases limited

theorem place?_child (named : key ≠ "") :
    Path.place? (Path.child outer key) = some (Path.child outer key) := by
  rw [Path.place?, if_neg]
  rw [Path.child]
  split
  · exact named
  · intro empty
    simpa using congrArg String.toList empty

end Sequence

/--
**A sequence repeats over the list that its key leads to as a path.**

Let there be no limit of depth. A sequence is an element with what its entries become for the items
of the list that its key leads to: item after item, and for each of them entry after entry. In
lenient mode nothing can fail in there. If the key leads to no list, the element is left out, and
strict mode fails with its path. That the list is the one under exactly the key, whatever the data
are, holds for the keys without dots, and for no others.
-/
theorem sequence_repeats_over_key {scope : Scope} (unlimited : scope.maxDepth = none)
    (key outer : String) (depth : Nat) (entries : List Content) :
    (∀ data, RepeatsOver scope key outer depth entries data (data.lookup? key.toList)) ∧
    ((∀ data, RepeatsOver scope key outer depth entries data (data.field? key)) ↔
      '.' ∉ key.toList) ∧
    (scope.mode = .lenient → ∀ path inner item content,
      (renderElements scope path inner item content).result = .ok ()) ∧
    (key ≠ "" → ∀ cause, (Error.located cause (Path.child outer key)).path
      = some (Path.child outer key)) := by
  refine ⟨repeatsOver_lookup unlimited, ⟨fun byKey dotted => ?_, fun dotless data => ?_⟩,
    fun lenient path _ => result_renderElements_of_lenient lenient unlimited path,
    fun named _ => place?_child named⟩
  · have stored : (Value.map [(key, .list [])]).field? key = some (.list []) := by
      rw [Value.field?, Entries.get?, if_pos rfl]
    exact not_repeatsOver_of_dot dotted (stored ▸ byKey (.map [(key, .list [])]))
  · rw [← Value.lookup?_of_no_dot dotless data]
    exact repeatsOver_lookup unlimited data

def repeatedEntries : List Content :=
  [[("a", .leaf (.string "${i}"))], [("b", .leaf (.string "${i}"))]]

def repeatedItems : List Value :=
  [.map [("i", .string "1")], .map [("i", .string "2")]]

/-- The scope of a render in lenient mode, without variables or a limit. -/
def openScope : Scope :=
  ⟨.lenient, .empty, none⟩

def strictScope : Scope :=
  ⟨.strict, .empty, none⟩

theorem sequence_repeats_over_key_twice :
    (renderElement openScope "l" "l" 0 (.map [("l", .list repeatedItems)])
        (.sequence repeatedEntries)).outcome
      = (.ok (), "<l><a>1</a><b>1</b><a>2</a><b>2</b></l>".toList) ∧
    (renderElement strictScope "l" "l" 0 .null (.sequence repeatedEntries)).outcome
      = (.error ⟨.degraded (.sequenceWithoutList "l" none), some "l"⟩, []) := by
  have unlimited : openScope.maxDepth = none := rfl
  have unlimitedStrictly : strictScope.maxDepth = none := rfl
  obtain ⟨-, byKey, inside, -⟩ := sequence_repeats_over_key unlimited "l" "" 0 repeatedEntries
  obtain ⟨-, byKeyStrictly, -⟩ :=
    sequence_repeats_over_key unlimitedStrictly "l" "" 0 repeatedEntries
  have dotless : '.' ∉ "l".toList := by decide
  constructor
  · have repeats := byKey.mpr dotless (.map [("l", .list repeatedItems)])
    refine (repeats.items repeatedItems rfl fun item _ content _ =>
      inside rfl _ _ item content).trans ?_
    with_unfolding_all rfl
  · have fails := (byKeyStrictly.mpr dotless .null).noList fun _ found => by cases found
    exact fails.trans (by rfl)

/-- The key is a name that strict mode takes. -/
def dottedDocument : Yaml.Node :=
  .map [
    (.string "root", .string "r"),
    (.string "elements", .map [(.string "a.b", .seq [.map [(.string "i", .string "x")]])])]

def dottedTemplate : Template where
  root := "r"
  declarations := []
  globals := .empty
  elements := [("a.b", .sequence [[("i", .leaf (.string "x"))]])]

/-- With a dot in its key, a sequence takes no list that is stored under exactly this key, and takes
another one in its stead. -/
theorem exists_sequence_not_over_key :
    (Template.compile .strict dottedDocument).result = .ok dottedTemplate ∧
    String.ofList (dottedTemplate.render .lenient
      { data := .ok (.map [("a.b", .list [.int 1])]) }).written = "<r></r>" ∧
    String.ofList (dottedTemplate.render .strict
      { data := .ok (.map [("a", .map [("b", .list [.int 1])])]) }).written
        = "<r><a.b><i>x</i></a.b></r>" ∧
    ¬∀ (scope : Scope) (key outer : String) (depth : Nat) (entries : List Content) (data : Value),
      scope.maxDepth = none → Xml.isName key.toList = true →
      RepeatsOver scope key outer depth entries data (data.field? key) := by
  refine ⟨by with_unfolding_all rfl, by decide +kernel, by decide +kernel, fun repeats => ?_⟩
  exact not_repeatsOver_of_dot (by decide)
    (repeats openScope "a.b" "" 0 [] (.map [("a.b", .list [])]) rfl (by decide +kernel))

end XmlTemplate
