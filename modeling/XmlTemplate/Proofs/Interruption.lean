import XmlTemplate.Proofs.Comparison
import XmlTemplate.Proofs.Degradation
import XmlTemplate.Proofs.Delivery
import XmlTemplate.Proofs.Document
import XmlTemplate.Proofs.Tier

/-!
# Where a render breaks off

A render that fails has written only whole pieces: whole elements, and the start tags of those that
the failure is in. So the reader stands between tags behind its output (`Xml.Halts`), and the end
tags that are missing make a document of it. Which document that is can be told without running the
render (`Content.BreaksOff`): it has the nodes of all that comes before the failure, and nothing of an
element that degrades.

As for the renders that succeed, each element is gone through once (`halts_renderElement`), and here
as there its content is what the nodes say, up to the element in which the failure is.
-/

namespace XmlTemplate

/-! ## Output that breaks off -/

namespace Xml

/-- The end tags of elements. -/
def closing (names : List String) : List Char :=
  names.flatMap fun name => (Markup.endTag name).written

/-- Behind the text the reader stands between tags, with these elements open, the innermost one
first. With their end tags the text is read as the nodes. -/
structure Halts (s : List Char) (opens : List String) (nodes : List Tree) : Prop where
  stands : ∀ frames before, ∃ inner trees, inner.map Frame.name = opens
    ∧ Reader.run ⟨.content, frames, before⟩ s = some ⟨.content, inner ++ frames, trees⟩
  closed : Reads (s ++ closing opens) nodes

theorem Reads.halts {s : List Char} {nodes : List Tree} (h : Reads s nodes) : Halts s [] nodes where
  stands frames before := ⟨[], _, rfl, h frames before⟩
  closed := by
    rw [closing, List.flatMap_nil, List.append_nil]
    exact h

theorem Reads.append_halts {s t : List Char} {opens : List String} {nodes more : List Tree}
    (hs : Reads s nodes) (ht : Halts t opens more) : Halts (s ++ t) opens (nodes ++ more) where
  stands frames before := by
    rw [Reader.run_append (hs frames before)]
    exact ht.stands frames _
  closed := by
    rw [List.append_assoc]
    exact hs.append ht.closed

/-- Behind a start tag one more element is open, around the others. -/
theorem Halts.element {name : String} {s : List Char} {opens : List String} {nodes : List Tree}
    (plain : IsPlain name) (h : Halts s opens nodes) :
    Halts ((Markup.startTag name []).written ++ s) (opens ++ [name]) [.element name [] nodes] where
  stands frames before := by
    obtain ⟨inner, trees, names, stands⟩ := h.stands (⟨name, [], before⟩ :: frames) []
    refine ⟨inner ++ [⟨name, [], before⟩], trees, ?_, ?_⟩
    · rw [List.map_append, names]
      rfl
    · rw [Reader.run_append (Reader.run_startTag plain (by simp)), stands, List.append_assoc]
      rfl
  closed := by
    have tags : (Markup.startTag name []).written ++ s ++ closing (opens ++ [name])
        = (Markup.startTag name []).written
          ++ (s ++ closing opens ++ (Markup.endTag name).written) := by
      simp [closing]
    rw [tags]
    exact h.closed.element plain (by simp)

end Xml

/-! ## What has been written by then -/

/-- The front of a document: the elements that are open, the innermost one first, and the nodes that
it has once they are closed. -/
structure Fragment where
  opens : List String
  nodes : List Xml.Tree

namespace Fragment

def nothing : Fragment := ⟨[], []⟩

/-- The fragment with nodes before it. -/
def behind (nodes : List Xml.Tree) (fragment : Fragment) : Fragment :=
  { fragment with nodes := nodes ++ fragment.nodes }

/-- The fragment in an open element. -/
def inside (name : String) (fragment : Fragment) : Fragment :=
  ⟨fragment.opens ++ [name], [.element name [] fragment.nodes]⟩

end Fragment

/-- Rendering the visited element, and not an element inside it, fails with the error, when the
fragment of it has been written. -/
inductive Visit.Fails (scope : Scope) (visit : Visit) : Error → Fragment → Prop where
  /-- What can degrade comes before the start tag. -/
  | degraded {degradation : Degradation} : scope.mode = .strict →
      visit.Degrades scope.table degradation →
      Fails scope visit (.located (.degraded degradation) visit.path) .nothing
  /-- That there is a tier too many inside the element is found behind its start tag. -/
  | tooDeep {limit : Nat} : scope.maxDepth = some limit →
      elementTiers visit.name visit.path visit.data visit.element ≠ [] →
      Fails scope visit (.located (.depthExceeded limit) visit.path)
        (Fragment.nothing.inside visit.name)

section BreaksOff

variable (scope : Scope) (e : Error)

/-- Rendering the content, which stands at the path and sees the data, fails with the error when the
fragment of it has been written: the nodes of the elements before the failure, each as a whole, and
what has been written of the one in which the failure is. -/
inductive Content.BreaksOff : String → Value → List (String × Element) → Fragment → Prop where
  | here {path name : String} {data : Value} {element : Element} {rest : List (String × Element)}
      {fragment : Fragment} :
      Visit.Fails scope ⟨name, Path.child path name, data, element⟩ e fragment →
      BreaksOff path data ((name, element) :: rest) fragment
  | later {path name : String} {data : Value} {element : Element} {rest : List (String × Element)}
      {nodes : List Xml.Tree} {fragment : Fragment} :
      depictElement scope.mode scope.table name data element = some nodes →
      BreaksOff path data rest fragment →
      BreaksOff path data ((name, element) :: rest) (fragment.behind nodes)
  | group {path name : String} {data : Value} {children rest : List (String × Element)}
      {fragment : Fragment} : BreaksOff (Path.child path name) data children fragment →
      BreaksOff path data ((name, .group children) :: rest) (fragment.inside name)
  /-- All entries are done for the items before, and for the item itself the entries before. -/
  | sequence {path name : String} {data item : Value} {done more : List Value}
      {past next : List Content} {content : Content} {rest : List (String × Element)}
      {before : List (List Xml.Tree)} {nodes : List Xml.Tree} {fragment : Fragment} :
      data.lookup? name.toList = some (.list (done ++ item :: more)) →
      (done.mapM fun item => depictEntries scope.mode scope.table item (past ++ content :: next))
        = some before →
      depictEntries scope.mode scope.table item past = some nodes →
      BreaksOff (Path.child path name) item content fragment →
      BreaksOff path data ((name, .sequence (past ++ content :: next)) :: rest)
        ((fragment.behind (before.flatten ++ nodes)).inside name)

end BreaksOff

/-! ## What an element fails with -/

/-- An evaluation that fails does so in strict mode, with one of its degradations. -/
theorem Value.evaluate_eq_error {mode : Mode} {table : Variables} {data expression : Value}
    {e : Error} (failed : (expression.evaluate mode table data).result = .error e) :
    mode = .strict ∧ ∃ degradation, expression.Degrades table data degradation
      ∧ e = ⟨.degraded degradation, none⟩ := by
  obtain ⟨value, lenient⟩ := Value.exists_evaluate_lenient table data expression
  cases mode with
  | lenient =>
      rw [lenient] at failed
      cases failed
  | strict =>
      refine ⟨rfl, ?_⟩
      rw [Value.evaluate_strict, Run.strictly] at failed
      rcases Run.fault_cases Event.refusal? (expression.evaluate .lenient table data).events with
        free | ⟨before, event, after, refusal, split, free, fault⟩
      · rw [Run.stopAt_of_none free, lenient] at failed
        cases failed
      · have member : event ∈ (expression.evaluate .lenient table data).events := by
          rw [split]
          exact List.mem_append_right _ List.mem_cons_self
        obtain ⟨degradation, rfl⟩ := Value.evaluate_unplaced .lenient table data expression _ member
        rw [Run.stopAt_of_split split free fault] at failed
        cases failed
        cases fault
        exact ⟨degradation, Value.degraded_mem_evaluate_iff.mp member, rfl⟩

theorem Run.degrade_eq_error {mode : Mode} {degradation : Degradation} {path : String} {e : Error}
    (failed : ((Run.degrade mode degradation).locate path).result = .error e) :
    mode = .strict ∧ e = .located (.degraded degradation) path := by
  cases mode with
  | lenient => cases failed
  | strict =>
      cases failed
      exact ⟨rfl, rfl⟩

section Failing

variable {scope : Scope} {name path : String} {depth : Nat} {data : Value} {e : Error}

theorem Scope.evaluate_eq_error {expression : Value}
    (failed : (scope.evaluate path data expression).result = .error e) :
    scope.mode = .strict ∧ ∃ degradation, expression.Degrades scope.table data degradation
      ∧ e = .located (.degraded degradation) path := by
  rw [Scope.evaluate, Run.locate] at failed
  cases ended : (expression.evaluate scope.mode scope.table data).result with
  | ok value =>
      rw [ended] at failed
      cases failed
  | error unplaced =>
      obtain ⟨strict, degradation, degrades, rfl⟩ := Value.evaluate_eq_error ended
      rw [ended] at failed
      cases failed
      exact ⟨strict, degradation, degrades, rfl⟩

theorem Scope.attributes_eq_error {attributes : List Attribute}
    (failed : (scope.attributes path data attributes).result = .error e) :
    scope.mode = .strict ∧ ∃ expression ∈ attributes.map Attribute.expression,
      ∃ degradation, expression.Degrades scope.table data degradation
        ∧ e = .located (.degraded degradation) path := by
  induction attributes with
  | nil => cases failed
  | cons first rest ih =>
      rcases Run.bind_eq_error failed with ⟨failed, _⟩ | ⟨_, _, failed, _⟩
      · obtain ⟨strict, degradation, degrades⟩ := Scope.evaluate_eq_error failed
        exact ⟨strict, first.expression, List.mem_cons_self, degradation, degrades⟩
      · rcases Run.bind_eq_error failed with ⟨failed, _⟩ | ⟨_, _, failed, _⟩
        · obtain ⟨strict, expression, member, degrades⟩ := ih failed
          exact ⟨strict, expression, List.mem_cons_of_mem _ member, degrades⟩
        · cases failed

/-- If the entries of a sequence are too deep, the render fails at the first one for the first item,
unless there is none. -/
theorem forEachItem_of_tooDeep (tooDeep : scope.enter path depth = Run.fail e)
    (entries : List Content) (items : List Value) :
    (forEachItem (fun item => renderEntries scope path depth item entries) items = Run.fail e
      ∧ items.flatMap (fun item => entriesTiers item path entries) ≠ []) ∨
    forEachItem (fun item => renderEntries scope path depth item entries) items = pure () := by
  cases entries with
  | nil =>
      refine .inr ?_
      induction items with
      | nil => rfl
      | cons item rest ih =>
          rw [forEachItem, ih]
          rfl
  | cons content more =>
      cases items with
      | nil => exact .inr rfl
      | cons item rest =>
          refine .inl ⟨?_, ?_⟩
          · rw [forEachItem, renderEntries, tooDeep]
            rfl
          · rw [List.flatMap_cons, entriesTiers]
            exact List.cons_ne_nil _ _

/-! ## The output of an element that fails -/

/-- An element is left open around what fails in it. -/
theorem halts_writeElement {inside : Run Unit} (plain : Xml.IsPlain name)
    (failed : (writeElement name [] inside).result = .error e) :
    inside.result = .error e ∧ ∀ {opens : List String} {nodes : List Xml.Tree},
      Xml.Halts inside.written opens nodes →
      Xml.Halts (writeElement name [] inside).written (opens ++ [name])
        [.element name [] nodes] := by
  rcases Run.bind_eq_error failed with ⟨failed, _⟩ | ⟨_, _, failed, wroteStart⟩
  · cases failed
  rcases Run.bind_eq_error failed with ⟨failed, wroteInside⟩ | ⟨_, _, failed, _⟩
  · refine ⟨failed, fun halts => ?_⟩
    rw [writeElement, wroteStart, wroteInside, Run.written_write]
    exact halts.element plain
  · cases failed

/-- The first item that fails, behind others of which the output is read as their nodes. -/
theorem halts_forEachItem {action : Value → Run Unit} {nodes? : Value → Option (List Xml.Tree)}
    (each : ∀ item, (action item).result = .ok () →
      ∃ nodes, nodes? item = some nodes ∧ Xml.Reads (action item).written nodes) :
    ∀ {items : List Value}, (forEachItem action items).result = .error e →
      ∃ done item more before, items = done ++ item :: more ∧ done.mapM nodes? = some before
        ∧ (action item).result = .error e
        ∧ ∀ {opens : List String} {nodes : List Xml.Tree},
          Xml.Halts (action item).written opens nodes →
          Xml.Halts (forEachItem action items).written opens (before.flatten ++ nodes)
  | [], failed => by cases failed
  | item :: rest, failed => by
      rw [forEachItem] at failed ⊢
      rcases Run.bind_eq_error failed with ⟨failed, wrote⟩ | ⟨_, first, failed, wrote⟩
      · rw [wrote]
        exact ⟨[], item, rest, [], rfl, rfl, failed, id⟩
      · obtain ⟨nodes, depicted, reads⟩ := each item first
        obtain ⟨done, item', more, before, rfl, depicted', failed, halts⟩ :=
          halts_forEachItem each failed
        refine ⟨item :: done, item', more, nodes :: before, rfl, ?_, failed, fun inside => ?_⟩
        · rw [List.mapM_cons, depicted, depicted']
          rfl
        · rw [wrote, List.flatten_cons, List.append_assoc]
          exact reads.append_halts (halts inside)

mutual

/-- **A level of elements that fails has written the fragment that is told of it, and breaks off
between tags.** -/
theorem halts_renderElements {path : String} {depth : Nat} {data : Value} :
    ∀ {content : List (String × Element)}, Content.EveryName Xml.IsPlain content →
      (renderElements scope path depth data content).result = .error e →
      ∃ fragment, Content.BreaksOff scope e path data content fragment
        ∧ Xml.Halts (renderElements scope path depth data content).written
          fragment.opens fragment.nodes
  | [], _, failed => by cases failed
  | (name, element) :: rest, ⟨plain, plainInside, plainRest⟩, failed => by
      rw [renderElements] at failed ⊢
      rcases Run.bind_eq_error failed with ⟨failed, wrote⟩ | ⟨_, first, failed, wrote⟩
      · obtain ⟨fragment, breaksOff, halts⟩ := halts_renderElement plain plainInside failed
        rw [wrote]
        exact ⟨fragment, breaksOff rest, halts⟩
      · obtain ⟨nodes, depicted, reads⟩ := reads_renderElement plain plainInside first
        obtain ⟨fragment, breaksOff, halts⟩ := halts_renderElements plainRest failed
        rw [wrote]
        exact ⟨fragment.behind nodes, .later depicted breaksOff, reads.append_halts halts⟩

theorem halts_renderElement {name path : String} {depth : Nat} {data : Value}
    (plain : Xml.IsPlain name) :
    ∀ {element : Element}, Element.EveryName Xml.IsPlain element →
      (renderElement scope name (Path.child path name) depth data element).result = .error e →
      ∃ fragment, (∀ rest, Content.BreaksOff scope e path data ((name, element) :: rest) fragment)
        ∧ Xml.Halts (renderElement scope name (Path.child path name) depth data element).written
          fragment.opens fragment.nodes
  | .leaf expression, _, failed => by
      rw [renderElement] at failed ⊢
      rcases (silent_evaluate _ data expression).bind_eq_error failed with
        ⟨failed, wrote⟩ | ⟨_, _, failed, _⟩
      · obtain ⟨strict, degradation, degrades, rfl⟩ := Scope.evaluate_eq_error failed
        rw [wrote]
        exact ⟨.nothing, fun _ => .here (.degraded strict
          (.expression List.mem_cons_self degrades)), Xml.Reads.nil.halts⟩
      · cases failed
  | .attributed expression attributes, _, failed => by
      rw [renderElement] at failed ⊢
      rcases (silent_evaluate _ data expression).bind_eq_error failed with
        ⟨failed, wrote⟩ | ⟨_, _, failed, wrote⟩
      · obtain ⟨strict, degradation, degrades, rfl⟩ := Scope.evaluate_eq_error failed
        rw [wrote]
        exact ⟨.nothing, fun _ => .here (.degraded strict
          (.expression List.mem_cons_self degrades)), Xml.Reads.nil.halts⟩
      · rcases (silent_attributes _ data attributes).bind_eq_error failed with
          ⟨failed, wroteRest⟩ | ⟨_, _, failed, _⟩
        · obtain ⟨strict, other, member, degradation, degrades, rfl⟩ :=
            Scope.attributes_eq_error failed
          rw [wrote, wroteRest]
          exact ⟨.nothing, fun _ => .here (.degraded strict
            (.expression (List.mem_cons_of_mem _ member) degrades)), Xml.Reads.nil.halts⟩
        · cases failed
  | .group children, plainInside, failed => by
      rw [renderElement] at failed ⊢
      obtain ⟨failed, halts⟩ := halts_writeElement plain failed
      rcases (silent_enter _ (depth + 1)).bind_eq_error failed with
        ⟨failed, wrote⟩ | ⟨_, _, failed, wrote⟩
      · rcases scope.enter_cases (Path.child path name) (depth + 1) with
          ⟨limit, limited, _, tooDeep⟩ | entered
        · rw [tooDeep] at failed
          cases failed
          refine ⟨_, fun _ => .here (.tooDeep limited ?_), halts (wrote ▸ Xml.Reads.nil.halts)⟩
          rw [elementTiers]
          exact List.cons_ne_nil _ _
        · rw [entered] at failed
          cases failed
      · obtain ⟨fragment, breaksOff, inside⟩ := halts_renderElements plainInside failed
        exact ⟨fragment.inside name, fun _ => .group breaksOff, halts (wrote ▸ inside)⟩
  | .sequence entries, plainInside, failed => by
      by_cases found : ∃ items, data.lookup? name.toList = some (.list items)
      · obtain ⟨items, found⟩ := found
        rw [renderElement_of_list found] at failed ⊢
        obtain ⟨failed, halts⟩ := halts_writeElement plain failed
        -- whether the entries are too deep is the same for all of them, so it is asked first
        rcases scope.enter_cases (Path.child path name) (depth + 1) with
          ⟨limit, limited, _, tooDeep⟩ | entered
        · rcases forEachItem_of_tooDeep tooDeep entries items with ⟨stops, tiers⟩ | passes
          · rw [stops] at failed halts ⊢
            cases failed
            rw [← elementTiers_of_list found] at tiers
            exact ⟨_, fun _ => .here (.tooDeep limited tiers), halts Xml.Reads.nil.halts⟩
          · rw [passes] at failed
            cases failed
        · obtain ⟨done, item, more, before, rfl, depicted, failed, haltsItem⟩ :=
            halts_forEachItem (fun item rendered => reads_renderEntries plainInside rendered) failed
          obtain ⟨past, content, next, nodes, fragment, rfl, depicted', breaksOff, inside⟩ :=
            halts_renderEntries entered plainInside failed
          refine ⟨(fragment.behind (before.flatten ++ nodes)).inside name,
            fun _ => .sequence found depicted depicted' breaksOff, ?_⟩
          have whole := halts (haltsItem inside)
          rwa [← List.append_assoc] at whole
      · rw [renderElement_of_no_list (not_exists.mp found)] at failed ⊢
        obtain ⟨strict, rfl⟩ := Run.degrade_eq_error failed
        rw [((Run.unplaced_degrade scope.mode _).locate _).silent]
        exact ⟨.nothing, fun _ => .here (.degraded strict
          (.noList rfl (not_exists.mp found) rfl)), Xml.Reads.nil.halts⟩

theorem halts_renderEntries {path : String} {depth : Nat} {item : Value}
    (entered : scope.enter path depth = Run.emit (.entered path depth)) :
    ∀ {entries : List (List (String × Element))}, Content.EveryNames Xml.IsPlain entries →
      (renderEntries scope path depth item entries).result = .error e →
      ∃ past content next nodes fragment, entries = past ++ content :: next
        ∧ depictEntries scope.mode scope.table item past = some nodes
        ∧ Content.BreaksOff scope e path item content fragment
        ∧ Xml.Halts (renderEntries scope path depth item entries).written
          fragment.opens (nodes ++ fragment.nodes)
  | [], _, failed => by cases failed
  | content :: rest, ⟨plain, plainRest⟩, failed => by
      rw [renderEntries] at failed ⊢
      rcases (silent_enter path depth).bind_eq_error failed with
        ⟨failed, _⟩ | ⟨_, _, failed, wrote⟩
      · rw [entered] at failed
        cases failed
      rcases Run.bind_eq_error failed with ⟨failed, wroteRest⟩ | ⟨_, first, failed, wroteRest⟩
      · obtain ⟨fragment, breaksOff, halts⟩ := halts_renderElements plain failed
        rw [wrote, wroteRest]
        exact ⟨[], content, rest, [], fragment, rfl, rfl, breaksOff, halts⟩
      · obtain ⟨nodes, depicted, reads⟩ := reads_renderElements plain first
        obtain ⟨past, content', next, nodes', fragment, rfl, depicted', breaksOff, halts⟩ :=
          halts_renderEntries entered plainRest failed
        refine ⟨content :: past, content', next, nodes ++ nodes', fragment, rfl, ?_, breaksOff, ?_⟩
        · rw [depictEntries, depicted, depicted']
          rfl
        · rw [wrote, wroteRest, List.append_assoc]
          exact reads.append_halts halts

end

theorem halts_body {template : Template} (plain : template.EveryName Xml.IsPlain)
    (failed : (template.body scope data).result = .error e) :
    ∃ fragment, Content.BreaksOff scope e "" data template.elements fragment
      ∧ Xml.Halts (template.body scope data).written (fragment.opens ++ [template.root])
        [.element template.root [] fragment.nodes] := by
  obtain ⟨plainRoot, plainElements⟩ := plain
  obtain ⟨failed, halts⟩ := halts_writeElement plainRoot failed
  rcases (silent_enter "" 0).bind_eq_error failed with ⟨failed, _⟩ | ⟨_, _, failed, wrote⟩
  · -- no limit is below the level of the root
    rcases scope.enter_cases "" 0 with ⟨limit, _, deep, _⟩ | entered
    · exact absurd deep (Nat.not_lt_zero limit)
    · rw [entered] at failed
      cases failed
  · obtain ⟨fragment, breaksOff, inside⟩ := halts_renderElements plainElements failed
    exact ⟨fragment, breaksOff, halts (wrote ▸ inside)⟩

end Failing

/-! ## The whole render -/

/-- A render that fails has written nothing, because of the data or a variable, or it has written the
fragment that is told of its elements. -/
theorem halts_render {template : Template} {mode : Mode} {request : Request} {e : Error}
    (plain : template.EveryName Xml.IsPlain)
    (failed : (template.render mode request).result = .error e) :
    ((template.render mode request).written = [] ∧
      ((∃ why, request.data = .error why ∧ e = ⟨.unconvertibleData why, none⟩) ∨
        (template.table mode request.declarations).result = .error e)) ∨
    ∃ data table fragment, request.data = .ok data
      ∧ (template.table mode request.declarations).result = .ok table
      ∧ Content.BreaksOff ⟨mode, table, request.maxDepth⟩ e "" data template.elements fragment
      ∧ Xml.Halts (template.render mode request).written (fragment.opens ++ [template.root])
        [.element template.root [] fragment.nodes] := by
  rw [Template.render_eq] at failed ⊢
  rcases (Run.silent_of_no_events rfl).bind_eq_error failed with
    ⟨failed, wrote⟩ | ⟨data, converted, failed, wroteData⟩
  · refine .inl ⟨wrote, .inl ?_⟩
    cases given : request.data with
    | ok data =>
        rw [given] at failed
        cases failed
    | error why =>
        rw [given] at failed
        cases failed
        exact ⟨why, rfl, rfl⟩
  rcases (template.table_onlyDegrades mode _).silent.bind_eq_error failed with
    ⟨failed, wrote⟩ | ⟨table, built, failed, wroteTable⟩
  · exact .inl ⟨wroteData.trans wrote, .inr failed⟩
  rcases (show (Run.emit (.rendering template.root table.size)).Silent from rfl).bind_eq_error
    failed with ⟨failed, _⟩ | ⟨_, _, failed, wroteNote⟩
  · cases failed
  obtain ⟨fragment, breaksOff, halts⟩ := halts_body plain failed
  refine .inr ⟨data, table, fragment, Request.data_of_converted converted, built, breaksOff, ?_⟩
  rw [wroteData, wroteTable, wroteNote]
  exact halts

/--
**A render that fails stops between tags.**

Let the names in the template be plain, and let the receiver have room for all that the render
writes. If the render fails, then either it fails before the first tag, and nothing is written, or
the reader stands between tags behind what has been written, and takes it for a document once the
end tags of the open elements stand behind it, the innermost one first. The elements that are open
are those that the failure is in. In the document are the elements that come before the failure, each
as it should be, and nothing of an element of which a text, an attribute or the list degrades.
-/
theorem failed_render_completed {template : Template} {mode : Mode} {request : Request}
    {room : Nat} {reason : String} {e : Error} (plain : template.EveryName Xml.IsPlain)
    (enough : (utf8 (template.render mode request).written).length ≤ room)
    (failed : ((template.render mode request).send { room, reason }).1.result = .error e) :
    let written := (template.render mode request).written
    ((template.render mode request).send { room, reason }).2.taken = utf8 written ∧
    ((written = [] ∧
        ((∃ why, request.data = .error why ∧ e = ⟨.unconvertibleData why, none⟩) ∨
          (template.table mode request.declarations).result = .error e)) ∨
      ∃ data table fragment frames trees, request.data = .ok data
        ∧ (template.table mode request.declarations).result = .ok table
        ∧ Content.BreaksOff ⟨mode, table, request.maxDepth⟩ e "" data template.elements fragment
        ∧ Xml.Reader.run {} written = some ⟨.content, frames, trees⟩
        ∧ frames.map Xml.Frame.name = fragment.opens ++ [template.root]
        ∧ Xml.read? (written ++ Xml.closing (frames.map Xml.Frame.name))
          = some [.element template.root [] fragment.nodes]) := by
  intro written
  obtain ⟨happened, _, _, sent⟩ := (template.render mode request).send_eq { room, reason }
  have fits : Receiver.Fits { room, reason } (utf8 written) := enough
  rw [if_pos fits] at sent
  rw [sent] at failed ⊢
  refine ⟨?_, ?_⟩
  · rw [Receiver.after, List.nil_append, List.take_of_length_le enough]
  rcases halts_render plain failed with
    early | ⟨data, table, fragment, given, built, breaksOff, halts⟩
  · exact .inl early
  obtain ⟨frames, trees, names, stands⟩ := halts.stands [] []
  rw [List.append_nil] at stands
  refine .inr ⟨data, table, fragment, frames, trees, given, built, breaksOff, stands, names, ?_⟩
  rw [names]
  exact halts.closed.read?

/-- A template with a sequence that has a group in it. -/
def orderTemplate : Template where
  root := "r"
  declarations := []
  globals := .empty
  elements := [("s", .sequence [[
    ("a", .leaf (.string "${x}")),
    ("g", .group [("b", .attributed (.string "") [⟨"k", .string "${y}"⟩])])]])]

/-- Data in which the second item lacks what the attribute shows. -/
def orderData : Value :=
  .map [("s", .list [
    .map [("x", .string "1"), ("y", .string "2")],
    .map [("x", .string "<3")]])]

def orderRequest : Request where
  data := .ok orderData

/-- The nodes in the root element: the second group has none, as its attribute degrades. -/
def completedNodes : List Xml.Tree := [
  .element "s" [] [
    .element "a" [] (Xml.Tree.chars "1"),
    .element "g" [] [.element "b" [⟨"k", "2"⟩] []],
    .element "a" [] (Xml.Tree.chars "<3"),
    .element "g" [] []]]

theorem failed_render_completed_order :
    ((orderTemplate.render .strict orderRequest).send ⟨100, "full", [], 0⟩).1.result
        = .error ⟨.degraded (.unresolvedPath "y"), some "s.g.b"⟩
      ∧ String.ofList (orderTemplate.render .strict orderRequest).written
        = "<r><s><a>1</a><g><b k=\"2\"></b></g><a>&lt;3</a><g>"
      ∧ Content.BreaksOff ⟨.strict, .empty, orderRequest.maxDepth⟩
        ⟨.degraded (.unresolvedPath "y"), some "s.g.b"⟩ "" orderData orderTemplate.elements
        ⟨["g", "s"], completedNodes⟩
      ∧ Xml.read? ((orderTemplate.render .strict orderRequest).written ++ "</g></s></r>".toList)
        = some [.element "r" [] completedNodes] := by
  have plain : orderTemplate.EveryName Xml.IsPlain := by
    simp only [orderTemplate, Template.EveryName, Content.EveryName, Element.EveryName,
      Content.EveryNames]
    decide
  have enough : (utf8 (orderTemplate.render .strict orderRequest).written).length ≤ 100 := by
    decide +kernel
  have failed : ((orderTemplate.render .strict orderRequest).send ⟨100, "full", [], 0⟩).1.result
      = .error ⟨.degraded (.unresolvedPath "y"), some "s.g.b"⟩ := by
    decide +kernel
  have wrote : String.ofList (orderTemplate.render .strict orderRequest).written
      = "<r><s><a>1</a><g><b k=\"2\"></b></g><a>&lt;3</a><g>" := by
    decide +kernel
  have nodes : Xml.read? ("<r><s><a>1</a><g><b k=\"2\"></b></g><a>&lt;3</a><g>".toList
      ++ "</g></s></r>".toList) = some [.element "r" [] completedNodes] := by
    decide +kernel
  rw [← wrote, String.toList_ofList] at nodes
  refine ⟨failed, wrote, ?_, nodes⟩
  obtain ⟨_, ⟨nothing, _⟩ | ⟨_, _, fragment, frames, _, given, built, breaksOff, stands, names,
    reads⟩⟩ := failed_render_completed plain enough failed
  · rw [nothing] at wrote
    exact absurd wrote (by decide)
  · have read : (Xml.Reader.run {} (orderTemplate.render .strict orderRequest).written).map
        (fun reader => reader.frames.map Xml.Frame.name) = some ["g", "s", "r"] := by
      decide +kernel
    rw [stands] at read
    have open' : frames.map Xml.Frame.name = ["g", "s"] ++ ["r"] := Option.some.inj read
    obtain ⟨opens, inside⟩ := fragment
    have opens : opens = ["g", "s"] := List.append_cancel_right (names.symm.trans open')
    rw [open'] at reads
    cases nodes.symm.trans reads
    cases given
    cases built
    rw [← opens]
    exact breaksOff

end XmlTemplate
