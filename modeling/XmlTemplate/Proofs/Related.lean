import Mathlib.Data.List.Forall2
import XmlTemplate.Proofs.Table

/-!
# Data that are alike

Two relations between data. Data have the same shape if they differ only in their scalars
(`Value.SameShape`), and data are extended by others that have all they have, and perhaps more
entries in their maps (`Value.ExtendedBy`). What a path leads to in the one then has a counterpart in
the other: a relation that goes through the fields of maps goes through paths (`lookup?_related`).
-/

namespace XmlTemplate.Value

/-- Neither a list nor a map. -/
def IsScalar : Value → Prop
  | .list _ | .map _ => False
  | _ => True

/-! ## Paths -/

/-- Only maps have fields. -/
theorem field?_eq_some {value field : Value} {key : String} (h : value.field? key = some field) :
    ∃ entries, value = .map entries ∧ Entries.get? key entries = some field := by
  cases value with
  | map entries => exact ⟨entries, rfl, h⟩
  | null | bool | int | float | string | list => cases h

/-- A relation under which every field has a counterpart is one under which everything that a path
leads to has one. -/
theorem lookup?_related {S : Value → Value → Prop}
    (step : ∀ {value value' field : Value} {key : String}, S value value' →
      value.field? key = some field → ∃ field', value'.field? key = some field' ∧ S field field')
    {value value' found : Value} (related : S value value') {path : List Char}
    (h : value.lookup? path = some found) :
    ∃ found', value'.lookup? path = some found' ∧ S found found' := by
  rw [lookup?] at h ⊢
  generalize segments path = keys at h ⊢
  induction keys generalizing value value' with
  | nil =>
      cases h
      exact ⟨value', rfl, related⟩
  | cons key rest ih =>
      rw [List.foldlM_cons] at h ⊢
      obtain ⟨field, here, h⟩ := Option.bind_eq_some_iff.mp h
      obtain ⟨field', here', related⟩ := step related here
      rw [here']
      exact ih related h

/-- What is found under a key in one list of entries has a counterpart in another with that key. -/
theorem exists_get?_of_keys {entries entries' : List (String × Value)} {key : String}
    {value : Value} (keys : key ∈ entries.map Prod.fst → key ∈ entries'.map Prod.fst)
    (h : Entries.get? key entries = some value) : ∃ value', Entries.get? key entries' = some value' := by
  cases found : Entries.get? key entries' with
  | some value' => exact ⟨value', rfl⟩
  | none =>
      have here := keys (List.mem_map.mpr ⟨_, Entries.mem_of_get? h, rfl⟩)
      exact absurd here (Entries.get?_eq_none_iff.mp found)

/-! ## The same shape -/

/-- The values are lists of the same length with items of the same shape, maps with the same keys and
values of the same shape, or both scalars. -/
inductive SameShape : Value → Value → Prop where
  | scalar {value value' : Value} : value.IsScalar → value'.IsScalar → SameShape value value'
  | list {items items' : List Value} : List.Forall₂ SameShape items items' →
      SameShape (.list items) (.list items')
  | map {entries entries' : List (String × Value)} :
      (∀ key, key ∈ entries.map Prod.fst ↔ key ∈ entries'.map Prod.fst) →
      (∀ key value value', Entries.get? key entries = some value →
        Entries.get? key entries' = some value' → SameShape value value') →
      SameShape (.map entries) (.map entries')

namespace SameShape

variable {value value' found : Value} {path : List Char}

theorem lookup? (h : value.SameShape value') (hfound : value.lookup? path = some found) :
    ∃ found', value'.lookup? path = some found' ∧ found.SameShape found' := by
  refine lookup?_related (fun {_ _ field key} shape here => ?_) h hfound
  obtain ⟨entries, rfl, here⟩ := field?_eq_some here
  cases shape with
  | scalar scalar _ => exact scalar.elim
  | map keys shapes =>
      obtain ⟨field', here'⟩ := exists_get?_of_keys (keys key).mp here
      exact ⟨field', here', shapes key field field' here here'⟩

/-- So it is the other way round. -/
theorem lookup?_back (h : value.SameShape value') (hfound : value'.lookup? path = some found) :
    ∃ found', value.lookup? path = some found' ∧ found'.SameShape found := by
  refine @lookup?_related (fun v v' => SameShape v' v) (fun {_ _ field key} shape here => ?_)
    _ _ _ h _ hfound
  obtain ⟨entries, rfl, here⟩ := field?_eq_some here
  cases shape with
  | scalar _ scalar => exact scalar.elim
  | map keys shapes =>
      obtain ⟨field', here'⟩ := exists_get?_of_keys (keys key).mpr here
      exact ⟨field', here', shapes key field' field here' here⟩

/-- A path leads to lists in both, with items of the same shape, or in neither. -/
theorem lookup?_list (h : value.SameShape value') (path : List Char) :
    (∃ items items', value.lookup? path = some (.list items)
        ∧ value'.lookup? path = some (.list items') ∧ List.Forall₂ SameShape items items') ∨
      ((∀ items, value.lookup? path ≠ some (.list items))
        ∧ ∀ items, value'.lookup? path ≠ some (.list items)) := by
  by_cases list : ∃ items, value.lookup? path = some (.list items)
  · obtain ⟨items, found⟩ := list
    obtain ⟨found', here, shape⟩ := h.lookup? found
    cases shape with
    | scalar scalar _ => exact scalar.elim
    | list shapes => exact .inl ⟨_, _, found, here, shapes⟩
  · refine .inr ⟨not_exists.mp list, fun items found => ?_⟩
    obtain ⟨found', here, shape⟩ := h.lookup?_back found
    cases shape with
    | scalar _ scalar => exact scalar.elim
    | list shapes => exact list ⟨_, here⟩

end SameShape

/-! ## Data with more in it -/

/-- Every entry of a map is in the other under the same key with a value that extends it, lists have
the same length with items that extend each other one by one, and scalars are equal. -/
inductive ExtendedBy : Value → Value → Prop where
  | scalar {value value' : Value} : value.IsScalar →
      (value = value' ∨ value.sameValue value' = true) → ExtendedBy value value'
  | list {items items' : List Value} : List.Forall₂ ExtendedBy items items' →
      ExtendedBy (.list items) (.list items')
  | map {entries entries' : List (String × Value)} :
      (∀ key, key ∈ entries.map Prod.fst → key ∈ entries'.map Prod.fst) →
      (∀ key value value', Entries.get? key entries = some value →
        Entries.get? key entries' = some value' → ExtendedBy value value') →
      ExtendedBy (.map entries) (.map entries')

namespace ExtendedBy

variable {value value' found : Value} {path : List Char}

theorem lookup? (h : value.ExtendedBy value') (hfound : value.lookup? path = some found) :
    ∃ found', value'.lookup? path = some found' ∧ found.ExtendedBy found' := by
  refine lookup?_related (fun {_ _ field key} more here => ?_) h hfound
  obtain ⟨entries, rfl, here⟩ := field?_eq_some here
  cases more with
  | scalar scalar _ => exact scalar.elim
  | map keys mores =>
      obtain ⟨field', here'⟩ := exists_get?_of_keys (keys key) here
      exact ⟨field', here', mores key field field' here here'⟩

end ExtendedBy

end XmlTemplate.Value
