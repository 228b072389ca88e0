/-!
# Dictionaries

Entries under text keys, in ascending order of the keys. Texts are compared character by character
by code point, which is also the order of their UTF-8 bytes.

`Entries` is the bare list, for use inside recursive types. `Dictionary` adds the proof that its
keys ascend, so every key occurs once and two dictionaries with the same entries are equal.
-/

namespace XmlTemplate

/-- Entries under text keys. -/
abbrev Entries (α : Type) := List (String × α)

namespace Entries

variable {α : Type}

/-- What is stored under the key. -/
def get? (key : String) : Entries α → Option α
  | [] => none
  | (k, value) :: rest => if k = key then some value else get? key rest

/-- Stores the value under the key, in place of what was stored there. -/
def put (key : String) (value : α) : Entries α → Entries α
  | [] => [(key, value)]
  | (k, old) :: rest =>
    if key < k then (key, value) :: (k, old) :: rest
    else if k = key then (key, value) :: rest
    else (k, old) :: put key value rest

/-- Removes what is stored under the key. -/
def erase (key : String) (entries : Entries α) : Entries α :=
  entries.filter fun entry => entry.1 != key

/-- Stores the pairs in their order, so the last value given for a key stays. -/
def putAll (entries : Entries α) (pairs : List (String × α)) : Entries α :=
  pairs.foldl (fun stored pair => put pair.1 pair.2 stored) entries

/-- The keys ascend. -/
def Ascending (entries : Entries α) : Prop :=
  entries.Pairwise fun a b => a.1 < b.1

/-- A key is stored after `put` if it is the new one or was stored before. -/
theorem mem_keys_put {key x : String} {value : α} {entries : Entries α}
    (h : x ∈ (entries.put key value).map Prod.fst) : x = key ∨ x ∈ entries.map Prod.fst := by
  induction entries with
  | nil => simpa [put] using h
  | cons entry rest ih =>
    obtain ⟨k, old⟩ := entry
    by_cases before : key < k
    · simpa [put, before] using h
    by_cases same : k = key
    · subst same
      simp [put] at h
      rcases h with h | h
      · exact .inl h
      · exact .inr (by simp [h])
    · simp [put, before, same] at h
      rcases h with h | h
      · exact .inr (by simp [h])
      · rcases ih (by simpa using h) with h | h
        · exact .inl h
        · exact .inr (by simp at h ⊢; exact .inr h)

/-- A key is above all keys of `put` if it is above the new one and the old ones. -/
theorem all_lt_put {bound key : String} {value : α} {entries : Entries α}
    (hkey : bound < key) (h : ∀ entry ∈ entries, bound < entry.1) :
    ∀ entry ∈ entries.put key value, bound < entry.1 := by
  intro entry member
  rcases mem_keys_put (List.mem_map_of_mem member) with same | old
  · exact same ▸ hkey
  · obtain ⟨other, otherMem, eq⟩ := List.mem_map.mp old
    exact eq ▸ h other otherMem

theorem Ascending.put {key : String} {value : α} {entries : Entries α}
    (h : entries.Ascending) : (entries.put key value).Ascending := by
  induction entries with
  | nil => simp [Entries.put, Ascending]
  | cons entry rest ih =>
    obtain ⟨k, old⟩ := entry
    obtain ⟨below, ascending⟩ := List.pairwise_cons.mp h
    by_cases before : key < k
    · simp only [Entries.put, before, if_true]
      refine List.pairwise_cons.mpr ⟨?_, h⟩
      intro other member
      rcases List.mem_cons.mp member with rfl | member
      · exact before
      · exact String.lt_trans before (below other member)
    by_cases same : k = key
    · subst same
      simp only [Entries.put, before, if_true, if_false]
      exact List.pairwise_cons.mpr ⟨below, ascending⟩
    · simp only [Entries.put, before, same, if_false]
      have after : k < key := Decidable.byContradiction fun no =>
        same (String.le_antisymm (String.not_lt.mp before) (String.not_lt.mp no))
      exact List.pairwise_cons.mpr ⟨all_lt_put after below, ih ascending⟩

theorem Ascending.erase {key : String} {entries : Entries α} (h : entries.Ascending) :
    (entries.erase key).Ascending :=
  List.Pairwise.filter _ h

/-! ## What is stored -/

@[simp]
theorem get?_put_self (key : String) (value : α) (entries : Entries α) :
    (entries.put key value).get? key = some value := by
  induction entries with
  | nil => simp [Entries.put, get?]
  | cons entry rest ih =>
    obtain ⟨k, old⟩ := entry
    by_cases before : key < k
    · simp [Entries.put, before, get?]
    by_cases same : k = key
    · simp [Entries.put, same, get?]
    · simp [Entries.put, before, same, get?, ih]

theorem get?_put_of_ne {key other : String} (h : key ≠ other) (value : α) (entries : Entries α) :
    (entries.put key value).get? other = entries.get? other := by
  induction entries with
  | nil => simp [Entries.put, get?, h]
  | cons entry rest ih =>
    obtain ⟨k, old⟩ := entry
    by_cases before : key < k
    · simp [Entries.put, before, get?, h]
    by_cases same : k = key
    · subst same
      simp [Entries.put, get?, h]
    · simp only [Entries.put, before, same, get?, ih, if_false]

@[simp]
theorem get?_erase_self (key : String) (entries : Entries α) :
    (entries.erase key).get? key = none := by
  induction entries with
  | nil => rfl
  | cons entry rest ih =>
    obtain ⟨k, old⟩ := entry
    by_cases same : k = key
    · simpa [Entries.erase, same] using ih
    · simpa [Entries.erase, get?, same] using ih

theorem get?_erase_of_ne {key other : String} (h : key ≠ other) (entries : Entries α) :
    (entries.erase key).get? other = entries.get? other := by
  induction entries with
  | nil => rfl
  | cons entry rest ih =>
    obtain ⟨k, old⟩ := entry
    by_cases same : k = key
    · subst same
      simpa [Entries.erase, get?, h] using ih
    · by_cases found : k = other
      · simp [Entries.erase, get?, found, Ne.symm h]
      · simpa [Entries.erase, get?, same, found] using ih

end Entries

/-- Values under text keys that ascend. -/
structure Dictionary (α : Type) where
  entries : Entries α := []
  ascending : entries.Ascending := by simp [Entries.Ascending]

namespace Dictionary

variable {α : Type}

/-- The dictionary without entries. -/
def empty : Dictionary α := {}

instance : Inhabited (Dictionary α) := ⟨empty⟩

/-- What is stored under the key. -/
def get? (d : Dictionary α) (key : String) : Option α :=
  d.entries.get? key

/-- Stores the value under the key. -/
def put (d : Dictionary α) (key : String) (value : α) : Dictionary α :=
  ⟨d.entries.put key value, d.ascending.put⟩

/-- Removes what is stored under the key. -/
def erase (d : Dictionary α) (key : String) : Dictionary α :=
  ⟨d.entries.erase key, d.ascending.erase⟩

/-- The number of entries. -/
def size (d : Dictionary α) : Nat :=
  d.entries.length

/-- The keys in their order. -/
def keys (d : Dictionary α) : List String :=
  d.entries.map Prod.fst

/-- The pairs, stored in the order given. -/
def ofList (pairs : List (String × α)) : Dictionary α :=
  pairs.foldl (fun d pair => d.put pair.1 pair.2) empty

theorem get?_empty (key : String) : (empty : Dictionary α).get? key = none := rfl

@[simp]
theorem get?_put_self (d : Dictionary α) (key : String) (value : α) :
    (d.put key value).get? key = some value :=
  Entries.get?_put_self key value d.entries

theorem get?_put_of_ne (d : Dictionary α) {key other : String} (h : key ≠ other) (value : α) :
    (d.put key value).get? other = d.get? other :=
  Entries.get?_put_of_ne h value d.entries

@[simp]
theorem get?_erase_self (d : Dictionary α) (key : String) : (d.erase key).get? key = none :=
  Entries.get?_erase_self key d.entries

theorem get?_erase_of_ne (d : Dictionary α) {key other : String} (h : key ≠ other) :
    (d.erase key).get? other = d.get? other :=
  Entries.get?_erase_of_ne h d.entries

end Dictionary

end XmlTemplate
