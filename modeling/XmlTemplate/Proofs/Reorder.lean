import XmlTemplate.Proofs.Lookup
import XmlTemplate.Proofs.Table

/-!
# Building a table in another order

The same declarations can be evaluated in two orders. The tables are the same if the order does not
matter to any reference (`Declarations.Undisturbed`): either the name that is looked up comes before
the expression in both orders or in neither, or it has in the end the value that it had before any
of them was evaluated. `Variables.extend_reorder` builds the second table along the second order;
what it knows of the table halfway is `Variables.Halfway`.
-/

namespace XmlTemplate

/-! ## Tables with the same values -/

namespace Entries

variable {α : Type} {entries entries' : Entries α}

theorem get?_eq_none_of_lt {key : String} (h : ∀ entry ∈ entries, key < entry.1) :
    get? key entries = none := by
  refine get?_eq_none_iff.mpr (fun member => ?_)
  obtain ⟨entry, stored, rfl⟩ := List.mem_map.mp member
  exact absurd (h entry stored) (String.lt_irrefl _)

/-- What is stored first is not found elsewhere if all that is there comes after it. -/
theorem not_lt_of_get? {key other : String} {value old : α} {rest : Entries α}
    (ascending : Ascending ((other, old) :: rest))
    (found : get? key ((other, old) :: rest) = some value) : ¬key < other := by
  intro before
  have all : ∀ entry ∈ (other, old) :: rest, key < entry.1 := by
    intro entry member
    rcases List.mem_cons.mp member with rfl | member
    · exact before
    · exact String.lt_trans before ((List.pairwise_cons.mp ascending).1 entry member)
  rw [get?_eq_none_of_lt all] at found
  exact absurd found (by simp)

/-- Entries in ascending order are known by what is found under the keys. -/
theorem Ascending.eq_of_get? (h : entries.Ascending) (h' : entries'.Ascending)
    (same : ∀ key, get? key entries = get? key entries') : entries = entries' := by
  induction entries generalizing entries' with
  | nil =>
      cases entries' with
      | nil => rfl
      | cons entry rest =>
          have found := same entry.1
          simp [get?] at found
  | cons entry rest ih =>
      obtain ⟨key, value⟩ := entry
      cases entries' with
      | nil =>
          have found := same key
          simp [get?] at found
      | cons entry' rest' =>
          obtain ⟨key', value'⟩ := entry'
          have found : get? key ((key', value') :: rest') = some value := by
            rw [← same, get?, if_pos rfl]
          have found' : get? key' ((key, value) :: rest) = some value' := by
            rw [same, get?, if_pos rfl]
          have keys : key = key' :=
            String.le_antisymm (String.not_lt.mp (not_lt_of_get? h found'))
              (String.not_lt.mp (not_lt_of_get? h' found))
          subst keys
          rw [get?, if_pos rfl] at found
          cases found
          obtain ⟨below, ascending⟩ := List.pairwise_cons.mp h
          obtain ⟨below', ascending'⟩ := List.pairwise_cons.mp h'
          have rests : ∀ other, get? other rest = get? other rest' := by
            intro other
            by_cases equal : key = other
            · rw [← equal, get?_eq_none_of_lt below, get?_eq_none_of_lt below']
            · have found := same other
              rwa [get?, get?, if_neg equal, if_neg equal] at found
          rw [ih ascending ascending' rests]

end Entries

namespace Dictionary

variable {α : Type}

/-- A dictionary is known by what is found under the keys. -/
theorem eq_of_get? {d d' : Dictionary α} (same : ∀ key, d.get? key = d'.get? key) : d = d' := by
  obtain ⟨entries, ascending⟩ := d
  obtain ⟨entries', ascending'⟩ := d'
  have := ascending.eq_of_get? ascending' same
  subst this
  rfl

/-- Storing what is stored already changes nothing. -/
theorem put_of_get? {d : Dictionary α} {key : String} {value : α} (h : d.get? key = some value) :
    d.put key value = d := by
  refine eq_of_get? (fun other => ?_)
  by_cases same : key = other
  · rw [← same, get?_put_self, h]
  · rw [get?_put_of_ne d same]

end Dictionary

/-! ## What comes before a name -/

namespace Declarations

/-- The names that are declared before the name is. -/
def before (name : String) (declarations : Declarations) : List String :=
  declarations.names.takeWhile (· != name)

theorem names_append_cons (front back : Declarations) (name : String) (expression : Value) :
    names (front ++ (name, expression) :: back) = front.names ++ name :: back.names := by
  rw [names, List.map_append, List.map_cons]
  rfl

theorem before_append_cons {name : String} {expression : Value} {front back : Declarations}
    (h : name ∉ front.names) :
    before name (front ++ (name, expression) :: back) = front.names := by
  have others : ∀ other ∈ front.names, (other != name) = true := by
    intro other member
    have : other ≠ name := fun same => h (same ▸ member)
    simpa using this
  rw [before, names_append_cons, List.takeWhile_append_of_pos others,
    List.takeWhile_cons_of_neg (by simp), List.append_nil]

/-- In a list without repetitions, a name is not declared before it is. -/
theorem not_mem_front {name : String} {expression : Value} {front back : Declarations}
    (distinct : (names (front ++ (name, expression) :: back)).Nodup) : name ∉ front.names := by
  rw [names_append_cons] at distinct
  intro member
  exact (List.nodup_append.mp distinct).2.2 name member name List.mem_cons_self rfl

/-- The order does not matter to any reference: what an expression looks up comes before it in both
lists or in neither, or it has in the end the value that it had at the start. -/
def Undisturbed (first second : Declarations) (start final : Variables) : Prop :=
  ∀ declaration ∈ first, ∀ other ∈ declaration.2.lookups,
    (other ∈ first.before declaration.1 ↔ other ∈ second.before declaration.1)
      ∨ final.get? other = start.get? other

theorem Undisturbed.symm {first second : Declarations} {start final : Variables}
    (same : ∀ declaration, declaration ∈ second ↔ declaration ∈ first)
    (h : Undisturbed first second start final) : Undisturbed second first start final := by
  intro declaration member other lookedUp
  exact (h declaration ((same declaration).mp member) other lookedUp).imp_left Iff.symm

end Declarations

/-! ## Evaluating in another order -/

namespace Variables

variable {mode : Mode} {start between final : Variables}

/-- On the way from one table to another: under the names that are done stands what stands there in
the end, and under all others what stood there at the start. -/
def Halfway (start final : Variables) (done : List String) (between : Variables) : Prop :=
  ∀ name, between.get? name = if name ∈ done then final.get? name else start.get? name

/-- Where a declaration stands in the list, its expression is evaluated halfway. -/
theorem evaluated_halfway {declarations : Declarations} (distinct : declarations.names.Nodup)
    (built : (extend mode start declarations).result = .ok final) {name : String}
    {expression : Value} (member : (name, expression) ∈ declarations) :
    ∃ between value, Halfway start final (declarations.before name) between
      ∧ (expression.evaluate mode between .null).result = .ok value
      ∧ final.get? name = some value := by
  obtain ⟨front, back, rfl⟩ := List.append_of_mem member
  have fresh := Declarations.not_mem_front distinct
  rw [Declarations.before_append_cons fresh]
  obtain ⟨between, first, second⟩ := extend_append_eq_ok.mp built
  obtain ⟨value, evaluated, rest⟩ := extend_cons_eq_ok.mp second
  rw [Declarations.names_append_cons, List.nodup_append, List.nodup_cons] at distinct
  obtain ⟨-, ⟨last, -⟩, apart⟩ := distinct
  refine ⟨between, value, ?_, evaluated, ?_⟩
  · intro other
    split
    · -- a name that is done is not declared again
      rename_i done
      have later : other ∉ Declarations.names back := fun again =>
        apart other done other (List.mem_cons_of_mem _ again) rfl
      have ne : name ≠ other := fun same => fresh (same ▸ done)
      rw [get?_extend_of_not_mem rest later, Dictionary.get?_put_of_ne _ ne]
    · exact get?_extend_of_not_mem first ‹_›
  · rw [get?_extend_of_not_mem rest last, Dictionary.get?_put_self]

/-- **One table, two orders.** What can be built in the first order can be built in the second, with
the same result, if the order does not matter to any reference. -/
theorem extend_reorder {first second : Declarations} (distinct : first.names.Nodup)
    (distinct' : second.names.Nodup)
    (same : ∀ declaration, declaration ∈ second ↔ declaration ∈ first)
    (built : (extend mode start first).result = .ok final)
    (undisturbed : first.Undisturbed second start final) :
    (extend mode start second).result = .ok final := by
  -- along the second order, every expression finds what it finds in the first
  have onward : ∀ back front between, second = front ++ back →
      Halfway start final front.names between →
      ∃ table, (extend mode between back).result = .ok table
        ∧ Halfway start final second.names table := by
    intro back
    induction back with
    | nil =>
        intro front between split halfway
        rw [List.append_nil] at split
        exact ⟨between, rfl, split ▸ halfway⟩
    | cons declaration rest ih =>
        intro front between split halfway
        obtain ⟨name, expression⟩ := declaration
        have member : (name, expression) ∈ first := by
          rw [← same, split]
          exact List.mem_append_right _ List.mem_cons_self
        obtain ⟨between', value, halfway', evaluated, found⟩ :=
          evaluated_halfway distinct built member
        have fresh : name ∉ front.names := Declarations.not_mem_front (split ▸ distinct')
        have agree : AgreeOn expression.lookups between between' := by
          intro other lookedUp
          rw [halfway other, halfway' other]
          rcases undisturbed _ member other lookedUp with order | unchanged
          · rw [split, Declarations.before_append_cons fresh] at order
            simp only [order]
          · simp only [unchanged, ite_self]
        have split' : second = (front ++ [(name, expression)]) ++ rest := by
          rw [split, List.append_assoc]
          rfl
        have further : Halfway start final (front ++ [(name, expression)]).names
            (between.put name value) := by
          intro other
          rw [Declarations.names_append_cons]
          by_cases equal : name = other
          · subst equal
            rw [Dictionary.get?_put_self, if_pos (by simp), found]
          · have still : other ∈ front.names ++ name :: Declarations.names []
                ↔ other ∈ front.names := by
              simp [Declarations.names, Ne.symm equal]
            rw [Dictionary.get?_put_of_ne _ equal, halfway other]
            simp only [still]
        obtain ⟨table, builds, done⟩ := ih _ _ split' further
        refine ⟨table, extend_cons_eq_ok.mpr ⟨value, ?_, builds⟩, done⟩
        rw [Value.evaluate_congr mode .null agree]
        exact evaluated
  obtain ⟨table, builds, done⟩ := onward second [] start rfl (fun _ => rfl)
  have equal : table = final := by
    refine Dictionary.eq_of_get? (fun name => ?_)
    rw [done name]
    split
    · rfl
    · -- a name that is not declared in the second order is not declared in the first
      rename_i undeclared
      refine (get?_extend_of_not_mem built (fun declared => undeclared ?_)).symm
      obtain ⟨declaration, member, rfl⟩ := List.mem_map.mp declared
      exact List.mem_map_of_mem ((same declaration).mpr member)
  rw [builds, equal]

end Variables

end XmlTemplate
