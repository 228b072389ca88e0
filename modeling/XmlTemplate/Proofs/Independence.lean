import XmlTemplate.Proofs.Precedence

/-!
# Independent variables

The variables of a caller are evaluated one after the other, and each can look up those before it.
If none of them looks up another one, and the template declares none of them, their order does not
matter: every expression finds what it finds in any other order, and the variables of the template,
which may look up all of them, come behind (`independent_variables_commute`).
-/

namespace XmlTemplate

namespace Declarations

/-- The declarations look up none of each other, and all of their names are new to the template. -/
structure Independent (template runtime : Declarations) : Prop where
  distinct : runtime.names.Nodup
  undeclared : ∀ name ∈ runtime.names, name ∉ template.names
  apart : ∀ declaration ∈ runtime, ∀ other ∈ declaration.2.lookups, other ∉ runtime.names

theorem mem_names_of_perm {declarations permuted : Declarations}
    (perm : declarations.Perm permuted) {name : String} :
    name ∈ permuted.names ↔ name ∈ declarations.names :=
  (perm.map Prod.fst).mem_iff.symm

theorem Independent.perm {template runtime permuted : Declarations}
    (h : Independent template runtime) (perm : runtime.Perm permuted) :
    Independent template permuted where
  distinct := (perm.map Prod.fst).nodup_iff.mp h.distinct
  undeclared name member := h.undeclared name ((mem_names_of_perm perm).mp member)
  apart declaration member other lookedUp declared :=
    h.apart declaration (perm.mem_iff.mpr member) other lookedUp
      ((mem_names_of_perm perm).mp declared)

/-- Independent declarations stay together in front of those of the template. -/
theorem Independent.merge_eq {template runtime : Declarations} (h : Independent template runtime) :
    merge runtime template = runtime ++ merge [] template := by
  have apart : ∀ name ∈ template.names, name ∉ runtime.names :=
    fun name declared member => h.undeclared name member declared
  have behind := assignAll_behind apart []
  rw [List.append_nil] at behind
  show assignAll [] (runtime ++ template) = _
  rw [assignAll_append, assignAll_nil_of_nodup h.distinct, behind]
  rfl

/-- What comes before a name of the first of two lists is in that list too. -/
theorem mem_names_of_mem_before {front back : Declarations} (distinct : front.names.Nodup)
    {name other : String} (declared : name ∈ front.names)
    (h : other ∈ (front ++ back).before name) : other ∈ front.names := by
  obtain ⟨⟨name, expression⟩, member, rfl⟩ := List.mem_map.mp declared
  obtain ⟨start, rest, rfl⟩ := List.append_of_mem member
  rw [List.append_assoc, List.cons_append, before_append_cons (not_mem_front distinct)] at h
  rw [names_append]
  exact List.mem_append_left _ h

/-- All of the first list comes before a name that is declared only in the second. -/
theorem before_append {front : Declarations} {name : String} (h : name ∉ front.names)
    (back : Declarations) : (front ++ back).before name = front.names ++ back.before name := by
  have others : ∀ other ∈ front.names, (other != name) = true := by
    intro other member
    have : other ≠ name := fun same => h (same ▸ member)
    simpa using this
  rw [before, names_append, List.takeWhile_append_of_pos others]
  rfl

/-- No reference is disturbed when independent declarations change places. -/
theorem Independent.undisturbed {template runtime permuted : Declarations}
    (h : Independent template runtime) (perm : runtime.Perm permuted) (start final : Variables) :
    Undisturbed (merge runtime template) (merge permuted template) start final := by
  have h' := h.perm perm
  rw [h.merge_eq, h'.merge_eq]
  intro declaration member other lookedUp
  refine .inl ?_
  rcases List.mem_append.mp member with own | behind
  · -- nothing of what it looks up comes before it, in either order
    have declared : declaration.1 ∈ runtime.names := List.mem_map_of_mem own
    have declared' : declaration.1 ∈ permuted.names := (mem_names_of_perm perm).mpr declared
    refine iff_of_false (fun before => ?_) (fun before => ?_)
    · exact h.apart declaration own other lookedUp
        (mem_names_of_mem_before h.distinct declared before)
    · exact h'.apart declaration (perm.mem_iff.mp own) other lookedUp
        (mem_names_of_mem_before h'.distinct declared' before)
  · -- all of the permuted declarations come before it, in either order
    have declared : declaration.1 ∈ (merge [] template).names := List.mem_map_of_mem behind
    rw [names_merge, List.mem_eraseDups] at declared
    have foreign : declaration.1 ∉ runtime.names := fun own => h.undeclared _ own declared
    rw [before_append foreign, before_append ((mem_names_of_perm perm).not.mpr foreign),
      List.mem_append, List.mem_append, mem_names_of_perm perm]

theorem Independent.mem_merge_iff {template runtime permuted : Declarations}
    (h : Independent template runtime) (perm : runtime.Perm permuted)
    (declaration : String × Value) :
    declaration ∈ merge permuted template ↔ declaration ∈ merge runtime template := by
  rw [h.merge_eq, (h.perm perm).merge_eq, List.mem_append, List.mem_append, perm.mem_iff]

end Declarations

open Declarations (Independent)

/-! ## Tables and renders -/

/-- What the table of one order is, it is in every order. -/
theorem Template.table_perm {template : Template} {mode : Mode} {runtime permuted : Declarations}
    (h : Independent template.declarations runtime) (perm : runtime.Perm permuted)
    {table : Variables} (built : (template.table mode runtime).result = .ok table) :
    (template.table mode permuted).result = .ok table :=
  Variables.extend_reorder (Declarations.nodup_names_merge _ _)
    (Declarations.nodup_names_merge _ _) (h.mem_merge_iff perm) built (h.undisturbed perm _ _)

/-- A render that succeeds has built its table. -/
theorem Template.exists_table_of_render {template : Template} {mode : Mode} {request : Request}
    (success : (template.render mode request).result = .ok ()) :
    ∃ table, (template.table mode request.declarations).result = .ok table := by
  rw [Template.render_eq] at success
  obtain ⟨data, _, success⟩ := Run.result_bind_eq_ok success
  obtain ⟨table, built, _⟩ := Run.result_bind_eq_ok success
  exact ⟨table, built⟩

/--
**Independent variables commute.**

Let the caller declare variables with distinct names, none of them declared by the template and none
looked up by an expression of the caller, at any nesting of calls. In lenient mode every order of
these declarations gives the same output or the same error. So it is in strict mode if the render
succeeds with one of the orders.
-/
theorem independent_variables_commute (template : Template) (request : Request)
    (independent : Independent template.declarations request.declarations)
    {permuted : Declarations} (perm : request.declarations.Perm permuted) :
    (template.render .lenient request).outcome
      = (template.render .lenient { request with declarations := permuted }).outcome ∧
    ((∃ order, request.declarations.Perm order ∧
        (template.render .strict { request with declarations := order }).result = .ok ()) →
      (template.render .strict request).outcome
        = (template.render .strict { request with declarations := permuted }).outcome) := by
  constructor
  · obtain ⟨table, built⟩ := Variables.exists_extend_lenient template.globals
      (Declarations.merge request.declarations template.declarations)
    refine Template.outcome_render_congr ?_
    exact built.trans (Template.table_perm independent perm built).symm
  · rintro ⟨order, reordered, success⟩
    obtain ⟨table, found⟩ := Template.exists_table_of_render success
    have built : (template.table .strict request.declarations).result = .ok table :=
      Template.table_perm (independent.perm reordered) reordered.symm found
    refine Template.outcome_render_congr ?_
    exact built.trans (Template.table_perm independent perm built).symm

/-- A template whose variable looks up two that only the caller can declare. -/
def pairTemplate : Template where
  root := "r"
  declarations := [("V", .string "v"), ("P", .string "$${X}-$${Y}")]
  globals := (Dictionary.empty.put "P" (.string "$${X}-$${Y}")).put "V" (.string "v")
  elements := [("e", .leaf (.string "$${P}"))]

/-- One of the two variables looks up a variable of the template, in a nested call. -/
def pairRequest : Request where
  declarations := [("X", .string "=IF(1, =IF($${V}, $${V}, 0), 0)"), ("Y", .string "=SUM(1, 2)")]

/-- The same two variables in the other order. -/
def swappedRequest : Request where
  declarations := [("Y", .string "=SUM(1, 2)"), ("X", .string "=IF(1, =IF($${V}, $${V}, 0), 0)")]

theorem independent_variables_commute_pair :
    Independent pairTemplate.declarations pairRequest.declarations ∧
    (pairTemplate.render .strict pairRequest).outcome = (.ok (), "<r><e>v-3</e></r>".toList) ∧
    (pairTemplate.render .strict swappedRequest).outcome
      = (.ok (), "<r><e>v-3</e></r>".toList) := by
  have lookups : (Value.string "=IF(1, =IF($${V}, $${V}, 0), 0)").lookups = ["V", "V"] ∧
      (Value.string "=SUM(1, 2)").lookups = [] := by
    decide +kernel
  have independent : Independent pairTemplate.declarations pairRequest.declarations := by
    refine ⟨by decide, by decide, ?_⟩
    simp only [pairRequest, List.forall_mem_cons, lookups]
    simp [Declarations.names]
  have success : (pairTemplate.render .strict pairRequest).outcome
      = (.ok (), "<r><e>v-3</e></r>".toList) := by
    decide +kernel
  have ends : (pairTemplate.render .strict pairRequest).result = .ok () :=
    congrArg Prod.fst success
  have swapped : pairRequest.declarations.Perm swappedRequest.declarations := List.Perm.swap _ _ _
  have commute := independent_variables_commute pairTemplate pairRequest independent swapped
  have same := commute.2 ⟨pairRequest.declarations, List.Perm.refl _, ends⟩
  exact ⟨independent, success, same.symm.trans success⟩

end XmlTemplate
