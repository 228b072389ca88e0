import XmlTemplate.Yaml.Node

/-!
# Merge keys

A mapping may have an entry under the key `<<` whose value is a mapping, or a sequence of mappings,
to be merged into it. The last entry of the mapping takes the place of the merge entry, and the
entries that the mapping lacks are added at its end. Each mapping is merged once, before the
mappings within it.
-/

namespace XmlTemplate.Yaml.Node

/-- The text of a merge key. -/
def mergeKey : String := "<<"

/-- Takes out the merge entry; the last entry moves to its place. -/
def takeMerge? : List (Node × Node) → Option (Node × List (Node × Node))
  | [] => none
  | (key, value) :: rest =>
    if key.isText mergeKey then
      match rest.getLast? with
      | none => some (value, [])
      | some last => some (value, last :: rest.dropLast)
    else (takeMerge? rest).map fun (merged, others) => (merged, (key, value) :: others)

/-- Adds the entries whose keys are not there yet. -/
def addMissing (entries additions : List (Node × Node)) : List (Node × Node) :=
  additions.foldl (fun stored addition =>
    if hasKey addition.1 stored then stored else stored ++ [addition]) entries

/-- The entries to be merged, from one mapping or from several in order. Anything else cannot be
merged. -/
def mergeEntries? : Node → Option (List (Node × Node))
  | .map entries => some entries
  | .seq items => (items.mapM mapping?).map List.flatten
  | _ => none
where
  /-- The entries of a mapping. -/
  mapping? : Node → Option (List (Node × Node))
    | .map entries => some entries
    | _ => none

/-- The entries of a mapping after its merge entry has been applied. -/
def applyMerge? (entries : List (Node × Node)) : Option (List (Node × Node)) :=
  match takeMerge? entries with
  | none => some entries
  | some (value, others) => (mergeEntries? value).map (addMissing others)

/-- The number of levels of a node. -/
def height : Node → Nat
  | .seq items => heightItems items + 1
  | .map entries => heightEntries entries + 1
  | .tagged _ node => height node + 1
  | _ => 0
where
  /-- The greatest height among the items. -/
  heightItems : List Node → Nat
    | [] => 0
    | item :: rest => max (height item) (heightItems rest)
  /-- The greatest height among the values. -/
  heightEntries : List (Node × Node) → Nat
    | [] => 0
    | (_, value) :: rest => max (height value) (heightEntries rest)

/-- Applies the merge entries down to the given number of levels. -/
def mergeWithin : Nat → Node → Option Node
  | levels + 1, .seq items => (items.mapM (mergeWithin levels)).map .seq
  | levels + 1, .map entries => do
    let merged ← applyMerge? entries
    (merged.mapM fun entry => (mergeWithin levels entry.2).map (entry.1, ·)).map .map
  | levels + 1, .tagged tag node => (mergeWithin levels node).map (.tagged tag)
  | _, node => some node

/-- Applies all merge entries. What is merged into a mapping comes from within it, so no level is
ever added. -/
def merged? (node : Node) : Option Node :=
  mergeWithin (height node) node

end XmlTemplate.Yaml.Node
