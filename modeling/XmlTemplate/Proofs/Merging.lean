import XmlTemplate.Proofs.Classification

/-!
# Merge keys of a document

What a document stands for with its merge keys: each mapping has its own entries in the order
written, and behind them those that it lacks of what it merges, which has been expanded before
(`Node.expanded`). Applying the merge keys one level after the other, from outside in, gives that if
the document is tidy: each mapping merges mappings without merge keys, and at most one entry stands
behind the merge entry, whose place is taken by the last entry (`Node.merged?_eq_expanded`).
-/

namespace XmlTemplate

namespace Yaml.Node

/-! ## What a document stands for -/

/-- Of the additions those under keys that the entries lack, each key once. -/
def missing (entries : List (Node × Node)) : List (Node × Node) → List (Node × Node)
  | [] => []
  | addition :: rest =>
    if hasKey addition.1 entries then missing entries rest
    else addition :: missing (entries ++ [addition]) rest

theorem addMissing_eq_append (entries additions : List (Node × Node)) :
    addMissing entries additions = entries ++ missing entries additions := by
  rw [addMissing]
  induction additions generalizing entries with
  | nil => exact (List.append_nil entries).symm
  | cons addition rest ih =>
      rw [List.foldl_cons, missing, ih]
      split
      · rfl
      · rw [List.append_assoc]
        rfl

mutual

/-- The node with all merge keys applied. -/
def expanded : Node → Node
  | .seq items => .seq (expandedItems items)
  | .map entries =>
    .map (expandedOwn entries ++ missing (expandedOwn entries) (expandedMerged entries))
  | .tagged tag node => .tagged tag (expanded node)
  | .null => .null
  | .bool b => .bool b
  | .int n => .int n
  | .float x => .float x
  | .string s => .string s

def expandedItems : List Node → List Node
  | [] => []
  | item :: rest => expanded item :: expandedItems rest

/-- The own entries of a mapping, in their order. -/
def expandedOwn : List (Node × Node) → List (Node × Node)
  | [] => []
  | (key, value) :: rest =>
    if key.isText mergeKey then expandedOwn rest else (key, expanded value) :: expandedOwn rest

/-- The entries of what a mapping merges, after its own merge keys have been applied. -/
def expandedMerged : List (Node × Node) → List (Node × Node)
  | [] => []
  | (key, value) :: rest =>
    if key.isText mergeKey then (mergeEntries? (expanded value)).getD [] else expandedMerged rest

end

/-- The entry with its value expanded. -/
def expandedEntry (entry : Node × Node) : Node × Node :=
  (entry.1, entry.2.expanded)

theorem expanded_map (entries : List (Node × Node)) : (Node.map entries).expanded =
    .map (addMissing (expandedOwn entries) (expandedMerged entries)) := by
  rw [expanded, addMissing_eq_append]

theorem expandedItems_eq_map (items : List Node) : expandedItems items = items.map expanded := by
  induction items with
  | nil => rfl
  | cons item rest ih => rw [expandedItems, ih, List.map_cons]

/-! ## What can be merged -/

theorem mapM_mapping?_eq_some_iff {items : List Node} {mappings : List (List (Node × Node))} :
    items.mapM mergeEntries?.mapping? = some mappings ↔ items = mappings.map .map := by
  induction items generalizing mappings with
  | nil => cases mappings <;> simp [List.mapM_nil]
  | cons item rest ih =>
      rw [List.mapM_cons]
      constructor
      · intro merged
        obtain ⟨first, isMap, merged⟩ := Option.bind_eq_some_iff.mp merged
        obtain ⟨more, later, rest⟩ := Option.bind_eq_some_iff.mp merged
        cases rest
        cases item with
        | map entries =>
            cases isMap
            rw [ih.mp later]
            rfl
        | null | bool | int | float | string | seq | tagged => cases isMap
      · intro same
        cases mappings with
        | nil => cases same
        | cons first more =>
            obtain ⟨rfl, later⟩ := List.cons.inj same
            rw [ih.mpr later]
            rfl

/-- A mapping is merged, or several mappings in order. -/
theorem mergeEntries?_eq_some_iff {value : Node} {additions : List (Node × Node)} :
    mergeEntries? value = some additions ↔ value = .map additions ∨
      ∃ mappings : List (List (Node × Node)),
        value = .seq (mappings.map .map) ∧ additions = mappings.flatten := by
  cases value with
  | map entries => simp [mergeEntries?]
  | seq items =>
      rw [mergeEntries?, Option.map_eq_some_iff]
      constructor
      · rintro ⟨mappings, merged, rfl⟩
        exact .inr ⟨mappings, by rw [mapM_mapping?_eq_some_iff.mp merged], rfl⟩
      · rintro (isMap | ⟨mappings, same, rfl⟩)
        · cases isMap
        · cases same
          exact ⟨mappings, mapM_mapping?_eq_some_iff.mpr rfl, rfl⟩
  | null | bool | int | float | string | tagged => simp [mergeEntries?]

/-! ## Conditions on mappings -/

/-- No entry has a merge key. -/
def NoMerge (entries : List (Node × Node)) : Prop :=
  ∀ entry ∈ entries, entry.1.isText mergeKey = false

/-- The merge entry, if there is one, is the only one, and its value can be merged. -/
def ValidMerge : List (Node × Node) → Prop
  | [] => True
  | (key, value) :: rest =>
    if key.isText mergeKey then NoMerge rest ∧ mergeEntries? value ≠ none else ValidMerge rest

/-- At most one entry stands behind the merge entry, and what is merged has no merge keys. -/
def TidyMerge : List (Node × Node) → Prop
  | [] => True
  | (key, value) :: rest =>
    if key.isText mergeKey then
      rest.length ≤ 1 ∧ ∀ additions, mergeEntries? value = some additions → NoMerge additions
    else TidyMerge rest

mutual

/-- The mappings within a node all have the property; those within keys do not count. -/
def EveryMapping (P : List (Node × Node) → Prop) : Node → Prop
  | .seq items => EveryMappingAmong P items
  | .map entries => P entries ∧ EveryMappingIn P entries
  | .tagged _ node => EveryMapping P node
  | .null | .bool _ | .int _ | .float _ | .string _ => True

def EveryMappingAmong (P : List (Node × Node) → Prop) : List Node → Prop
  | [] => True
  | item :: rest => EveryMapping P item ∧ EveryMappingAmong P rest

def EveryMappingIn (P : List (Node × Node) → Prop) : List (Node × Node) → Prop
  | [] => True
  | (_, value) :: rest => EveryMapping P value ∧ EveryMappingIn P rest

end

section Every

variable {P : List (Node × Node) → Prop}

theorem EveryMappingAmong.item {items : List Node} (h : EveryMappingAmong P items) {item : Node}
    (member : item ∈ items) : EveryMapping P item := by
  induction items with
  | nil => exact absurd member (by simp)
  | cons first rest ih =>
      rcases List.mem_cons.mp member with rfl | later
      · exact h.1
      · exact ih h.2 later

theorem EveryMappingIn.value {entries : List (Node × Node)} (h : EveryMappingIn P entries)
    {entry : Node × Node} (member : entry ∈ entries) : EveryMapping P entry.2 := by
  induction entries with
  | nil => exact absurd member (by simp)
  | cons first rest ih =>
      rcases List.mem_cons.mp member with rfl | later
      · exact h.1
      · exact ih h.2 later

/-- What is merged into a mapping comes from within its value. -/
theorem EveryMapping.addition {value : Node} (h : EveryMapping P value)
    {additions : List (Node × Node)} (merged : mergeEntries? value = some additions)
    {entry : Node × Node} (member : entry ∈ additions) : EveryMapping P entry.2 := by
  rcases mergeEntries?_eq_some_iff.mp merged with rfl | ⟨mappings, rfl, rfl⟩
  · exact EveryMappingIn.value h.2 member
  · obtain ⟨entries, among, within⟩ := List.mem_flatten.mp member
    have mapping : EveryMapping P (.map entries) :=
      EveryMappingAmong.item h (List.mem_map_of_mem among)
    exact EveryMappingIn.value mapping.2 within

end Every

/-! ## Adding what is missing -/

theorem hasKey_map_expandedEntry (key : Node) (entries : List (Node × Node)) :
    hasKey key (entries.map expandedEntry) = hasKey key entries := by
  rw [hasKey, hasKey, List.any_map]
  rfl

/-- Which entries are missing does not depend on the values. -/
theorem map_expandedEntry_addMissing (entries additions : List (Node × Node)) :
    (addMissing entries additions).map expandedEntry =
      addMissing (entries.map expandedEntry) (additions.map expandedEntry) := by
  rw [addMissing, addMissing]
  induction additions generalizing entries with
  | nil => rfl
  | cons addition rest ih =>
      rw [List.map_cons, List.foldl_cons, List.foldl_cons, ih]
      have sameKey : (expandedEntry addition).1 = addition.1 := rfl
      rw [sameKey, hasKey_map_expandedEntry]
      cases hasKey addition.1 entries with
      | true => rfl
      | false => rw [if_neg (by decide), if_neg (by decide), List.map_append]; rfl

theorem mem_of_mem_addMissing {entry : Node × Node} {entries additions : List (Node × Node)}
    (h : entry ∈ addMissing entries additions) : entry ∈ entries ∨ entry ∈ additions := by
  rw [addMissing] at h
  induction additions generalizing entries with
  | nil => exact .inl h
  | cons addition rest ih =>
      rw [List.foldl_cons] at h
      rcases ih h with stored | later
      · split at stored
        · exact .inl stored
        · rcases List.mem_append.mp stored with own | added
          · exact .inl own
          · exact .inr (List.mem_cons.mpr (.inl (List.mem_singleton.mp added)))
      · exact .inr (List.mem_cons_of_mem _ later)

/-! ## No merge key is left -/

theorem entriesMergeFree_iff {entries : List (Node × Node)} : EntriesMergeFree entries ↔
    NoMerge entries ∧ ∀ entry ∈ entries, entry.2.MergeFree := by
  induction entries with
  | nil => simp [EntriesMergeFree, NoMerge]
  | cons entry rest ih =>
      obtain ⟨key, value⟩ := entry
      rw [EntriesMergeFree, ih]
      simp only [NoMerge, List.forall_mem_cons, and_assoc, and_left_comm]

theorem itemsMergeFree_iff {items : List Node} :
    ItemsMergeFree items ↔ ∀ item ∈ items, item.MergeFree := by
  induction items with
  | nil => simp [ItemsMergeFree]
  | cons item rest ih => rw [ItemsMergeFree, ih, List.forall_mem_cons]

/-- What is merged from a node without merge keys has none. -/
theorem MergeFree.additions {value : Node} (h : value.MergeFree) :
    EntriesMergeFree ((mergeEntries? value).getD []) := by
  cases merged : mergeEntries? value with
  | none => exact trivial
  | some additions =>
      rcases mergeEntries?_eq_some_iff.mp merged with rfl | ⟨mappings, rfl, rfl⟩
      · exact h
      · rw [Option.getD_some, entriesMergeFree_iff]
        have mapping : ∀ entries ∈ mappings,
            NoMerge entries ∧ ∀ entry ∈ entries, entry.2.MergeFree := by
          intro entries among
          exact entriesMergeFree_iff.mp (itemsMergeFree_iff.mp h _ (List.mem_map_of_mem among))
        constructor
        · intro entry member
          obtain ⟨entries, among, within⟩ := List.mem_flatten.mp member
          exact (mapping entries among).1 entry within
        · intro entry member
          obtain ⟨entries, among, within⟩ := List.mem_flatten.mp member
          exact (mapping entries among).2 entry within

theorem EntriesMergeFree.addMissing {entries additions : List (Node × Node)}
    (own : EntriesMergeFree entries) (added : EntriesMergeFree additions) :
    EntriesMergeFree (addMissing entries additions) := by
  rw [entriesMergeFree_iff] at own added ⊢
  constructor
  · intro entry member
    exact (mem_of_mem_addMissing member).elim (own.1 entry) (added.1 entry)
  · intro entry member
    exact (mem_of_mem_addMissing member).elim (own.2 entry) (added.2 entry)

mutual

/-- **Nothing is left to merge.** -/
theorem mergeFree_expanded : ∀ node : Node, node.expanded.MergeFree
  | .seq items => itemsMergeFree_expandedItems items
  | .map entries => by
      rw [expanded_map]
      exact (entriesMergeFree_expandedOwn entries).addMissing
        (entriesMergeFree_expandedMerged entries)
  | .tagged _ node => mergeFree_expanded node
  | .null | .bool _ | .int _ | .float _ | .string _ => trivial

theorem itemsMergeFree_expandedItems : ∀ items : List Node, ItemsMergeFree (expandedItems items)
  | [] => trivial
  | item :: rest => ⟨mergeFree_expanded item, itemsMergeFree_expandedItems rest⟩

theorem entriesMergeFree_expandedOwn : ∀ entries : List (Node × Node),
    EntriesMergeFree (expandedOwn entries)
  | [] => trivial
  | (key, value) :: rest => by
      have later := entriesMergeFree_expandedOwn rest
      rw [expandedOwn]
      split
      · exact later
      · exact ⟨Bool.eq_false_iff.mpr ‹_›, mergeFree_expanded value, later⟩

theorem entriesMergeFree_expandedMerged : ∀ entries : List (Node × Node),
    EntriesMergeFree (expandedMerged entries)
  | [] => trivial
  | (key, value) :: rest => by
      rw [expandedMerged]
      split
      · exact (mergeFree_expanded value).additions
      · exact entriesMergeFree_expandedMerged rest

end

/-! ## Merging one mapping -/

/-- The entries of a mapping that are its own. -/
def ownEntries (entries : List (Node × Node)) : List (Node × Node) :=
  entries.filter fun entry => !entry.1.isText mergeKey

theorem NoMerge.ownEntries_eq {entries : List (Node × Node)} (h : NoMerge entries) :
    ownEntries entries = entries := by
  refine List.filter_eq_self.mpr fun entry member => ?_
  rw [h entry member]
  rfl

theorem expandedOwn_eq_map : ∀ entries : List (Node × Node),
    expandedOwn entries = (ownEntries entries).map expandedEntry
  | [] => rfl
  | (key, value) :: rest => by
      rw [expandedOwn, ownEntries, List.filter_cons, expandedOwn_eq_map rest]
      cases key.isText mergeKey <;> rfl

theorem NoMerge.expandedMerged_eq : ∀ {entries : List (Node × Node)}, NoMerge entries →
    expandedMerged entries = []
  | [], _ => rfl
  | (key, value) :: rest, h => by
      rw [expandedMerged, h _ List.mem_cons_self]
      exact NoMerge.expandedMerged_eq fun entry member => h entry (List.mem_cons_of_mem _ member)

/-- A mapping without merge key of its own only has its values expanded. -/
theorem NoMerge.expanded_eq {entries : List (Node × Node)} (h : NoMerge entries) :
    (Node.map entries).expanded = .map (entries.map expandedEntry) := by
  rw [expanded_map, h.expandedMerged_eq, expandedOwn_eq_map, h.ownEntries_eq]
  rfl

theorem mergeEntries?_expanded {value : Node} {additions : List (Node × Node)}
    (merged : mergeEntries? value = some additions) (noMerge : NoMerge additions) :
    mergeEntries? value.expanded = some (additions.map expandedEntry) := by
  rcases mergeEntries?_eq_some_iff.mp merged with rfl | ⟨mappings, rfl, rfl⟩
  · rw [noMerge.expanded_eq]
    rfl
  · refine mergeEntries?_eq_some_iff.mpr (.inr ⟨mappings.map (List.map expandedEntry), ?_, ?_⟩)
    · rw [expanded, expandedItems_eq_map, List.map_map, List.map_map]
      refine congrArg Node.seq (List.map_congr_left fun entries among => ?_)
      exact NoMerge.expanded_eq fun entry member =>
        noMerge entry (List.mem_flatten_of_mem among member)
    · rw [List.map_flatten]

/-- In a tidy mapping the last entry, which takes the place of the merge entry, was behind it
already. -/
theorem takeMerge?_eq {entries : List (Node × Node)} (valid : ValidMerge entries)
    (tidy : TidyMerge entries) :
    (takeMerge? entries = none ∧ NoMerge entries) ∨
    ∃ merge ∈ entries, ∃ additions, takeMerge? entries = some (merge.2, ownEntries entries)
      ∧ mergeEntries? merge.2 = some additions ∧ NoMerge additions
      ∧ expandedMerged entries = additions.map expandedEntry := by
  induction entries with
  | nil => exact .inl ⟨rfl, fun _ member => absurd member (by simp)⟩
  | cons entry rest ih =>
      obtain ⟨key, value⟩ := entry
      rw [ValidMerge] at valid
      rw [TidyMerge] at tidy
      rw [takeMerge?, ownEntries, List.filter_cons, expandedMerged]
      cases isMerge : key.isText mergeKey with
      | true =>
          rw [isMerge, if_pos rfl] at valid tidy
          obtain ⟨single, mergeable⟩ := valid
          obtain ⟨additions, merged⟩ := Option.ne_none_iff_exists'.mp mergeable
          have noMerge : NoMerge additions := tidy.2 additions merged
          refine .inr ⟨(key, value), List.mem_cons_self, additions, ?_, merged, noMerge, ?_⟩
          · have own := single.ownEntries_eq
            rw [ownEntries] at own
            rw [if_pos rfl, Bool.not_true, if_neg (by decide), own]
            -- nothing or one entry moves up
            rcases rest with _ | ⟨last, _ | ⟨further, more⟩⟩
            · rfl
            · rfl
            · exact absurd tidy.1 (by simp)
          · rw [if_pos rfl, mergeEntries?_expanded merged noMerge, Option.getD_some]
      | false =>
          rw [isMerge, if_neg (by decide)] at valid tidy
          rw [if_neg (by decide), Bool.not_false, if_pos rfl, if_neg (by decide)]
          rcases ih valid tidy with ⟨taken, noMerge⟩ | ⟨merge, member, more⟩
          · refine .inl ⟨?_, List.forall_mem_cons.mpr ⟨isMerge, noMerge⟩⟩
            rw [taken]
            rfl
          · obtain ⟨additions, taken, rest⟩ := more
            refine .inr ⟨merge, List.mem_cons_of_mem _ member, additions, ?_, rest⟩
            rw [taken]
            rfl

/-- A mapping is merged as it should be, with the values as they are. -/
theorem applyMerge?_eq {entries : List (Node × Node)} (valid : ValidMerge entries)
    (tidy : TidyMerge entries) : ∃ additions,
      applyMerge? entries = some (addMissing (ownEntries entries) additions)
      ∧ expandedMerged entries = additions.map expandedEntry
      ∧ ∀ entry ∈ additions, ∃ merge ∈ entries, mergeEntries? merge.2 = some additions := by
  rw [applyMerge?]
  rcases takeMerge?_eq valid tidy with ⟨taken, noMerge⟩ | ⟨merge, member, additions, taken, rest⟩
  · refine ⟨[], ?_, noMerge.expandedMerged_eq, fun _ nothing => absurd nothing (by simp)⟩
    rw [taken, noMerge.ownEntries_eq]
    rfl
  · obtain ⟨merged, _, same⟩ := rest
    refine ⟨additions, ?_, same, fun _ _ => ⟨merge, member, merged⟩⟩
    rw [taken]
    dsimp only
    rw [merged]
    rfl

/-! ## Merging all mappings -/

theorem height_le_of_mem_items {item : Node} {items : List Node} (member : item ∈ items) :
    item.height ≤ height.heightItems items := by
  induction items with
  | nil => exact absurd member (by simp)
  | cons first rest ih =>
      rw [height.heightItems]
      rcases List.mem_cons.mp member with rfl | later
      · exact Nat.le_max_left _ _
      · exact Nat.le_trans (ih later) (Nat.le_max_right _ _)

theorem height_le_of_mem_entries {entry : Node × Node} {entries : List (Node × Node)}
    (member : entry ∈ entries) : entry.2.height ≤ height.heightEntries entries := by
  induction entries with
  | nil => exact absurd member (by simp)
  | cons first rest ih =>
      rw [height.heightEntries]
      rcases List.mem_cons.mp member with rfl | later
      · exact Nat.le_max_left _ _
      · exact Nat.le_trans (ih later) (Nat.le_max_right _ _)

/-- What is merged into a mapping is less high than the value it comes from. -/
theorem height_lt_of_mem_additions {value : Node} {additions : List (Node × Node)}
    (merged : mergeEntries? value = some additions) {entry : Node × Node}
    (member : entry ∈ additions) : entry.2.height < value.height := by
  rcases mergeEntries?_eq_some_iff.mp merged with rfl | ⟨mappings, rfl, rfl⟩
  · exact Nat.lt_succ_of_le (height_le_of_mem_entries member)
  · obtain ⟨entries, among, within⟩ := List.mem_flatten.mp member
    have inMapping : entry.2.height < (Node.map entries).height :=
      Nat.lt_succ_of_le (height_le_of_mem_entries within)
    have mapping : (Node.map entries).height ≤ height.heightItems (mappings.map .map) :=
      height_le_of_mem_items (List.mem_map_of_mem among)
    exact Nat.lt_of_lt_of_le inMapping (Nat.le_trans mapping (Nat.le_succ _))

theorem mapM_eq_some_map {α β : Type} {f : α → Option β} {g : α → β} {as : List α}
    (h : ∀ a ∈ as, f a = some (g a)) : as.mapM f = some (as.map g) := by
  induction as with
  | nil => rfl
  | cons a rest ih =>
      obtain ⟨first, later⟩ := List.forall_mem_cons.mp h
      rw [List.mapM_cons, first, ih later]
      rfl

/-- Levels enough for the node apply all its merge keys. -/
theorem mergeWithin_eq_expanded {levels : Nat} {node : Node} (high : node.height ≤ levels)
    (valid : node.EveryMapping ValidMerge) (tidy : node.EveryMapping TidyMerge) :
    mergeWithin levels node = some node.expanded := by
  -- what a mapping merges is no part of it as written, but it is not as high as the mapping
  induction levels generalizing node with
  | zero =>
      cases node with
      | seq | map | tagged => exact absurd high (by simp [height])
      | null | bool | int | float | string => rw [mergeWithin] <;> simp [expanded]
  | succ levels ih =>
      cases node with
      | seq items =>
          have each : ∀ item ∈ items, mergeWithin levels item = some item.expanded := by
            intro item member
            have low : item.height ≤ levels :=
              Nat.le_trans (height_le_of_mem_items member) (Nat.le_of_succ_le_succ high)
            exact ih low (EveryMappingAmong.item valid member) (EveryMappingAmong.item tidy member)
          rw [mergeWithin, mapM_eq_some_map each, expanded, expandedItems_eq_map]
          rfl
      | map entries =>
          obtain ⟨valid, validIn⟩ := valid
          obtain ⟨tidy, tidyIn⟩ := tidy
          obtain ⟨additions, merged, same, source⟩ := applyMerge?_eq valid tidy
          have ofValue : ∀ entry ∈ entries, entry.2.height ≤ levels := fun entry member =>
            Nat.le_trans (height_le_of_mem_entries member) (Nat.le_of_succ_le_succ high)
          -- an entry is the mapping's own, or it comes from the value of the merge entry
          have each : ∀ entry ∈ addMissing (ownEntries entries) additions,
              (mergeWithin levels entry.2).map (entry.1, ·) = some (expandedEntry entry) := by
            intro entry member
            rcases mem_of_mem_addMissing member with own | added
            · have own : entry ∈ entries := (List.mem_filter.mp own).1
              rw [ih (ofValue entry own) (validIn.value own) (tidyIn.value own)]
              rfl
            · obtain ⟨merge, within, merged⟩ := source entry added
              have low : entry.2.height ≤ levels :=
                Nat.le_trans (Nat.le_of_lt (height_lt_of_mem_additions merged added))
                  (ofValue merge within)
              rw [ih low ((validIn.value within).addition merged added)
                ((tidyIn.value within).addition merged added)]
              rfl
          show (applyMerge? entries >>= fun merged => (merged.mapM fun entry =>
            (mergeWithin levels entry.2).map (entry.1, ·)).map Node.map) = _
          rw [merged, Option.bind_eq_bind, Option.bind_some, mapM_eq_some_map each,
            map_expandedEntry_addMissing, expanded_map, expandedOwn_eq_map, same]
          rfl
      | tagged tag node =>
          rw [mergeWithin, ih (Nat.le_of_succ_le_succ high) valid tidy]
          rfl
      | null | bool | int | float | string => rw [mergeWithin] <;> simp [expanded]

/-- **Applying the merge keys of a tidy document expands it.** -/
theorem merged?_eq_expanded {node : Node} (valid : node.EveryMapping ValidMerge)
    (tidy : node.EveryMapping TidyMerge) : node.merged? = some node.expanded :=
  mergeWithin_eq_expanded (Nat.le_refl _) valid tidy

end Yaml.Node

end XmlTemplate
