import XmlTemplate.Yaml.Token
import XmlTemplate.Yaml.Tree

/-!
# Parser

How tokens become the tree of a document. Every function takes the tokens from the front and gives
back those it leaves. Where a node may be missing, the next token tells.
-/

namespace XmlTemplate.Yaml

/-- What the handles of tags stand for. -/
abbrev Handles := List (String × List UInt8)

/-- The bytes of a text. -/
def bytesOf (s : String) : List UInt8 :=
  s.toList.flatMap String.utf8EncodeChar

/-- The handles that every document has. -/
def defaultHandles : Handles :=
  [("!", bytesOf "!"), ("!!", bytesOf "tag:yaml.org,2002:")]

/-- A tag with its handle resolved. -/
def resolveTag? (handles : Handles) (handle : String) (suffix : List UInt8) :
    Option (List UInt8) :=
  if handle = "" then some suffix else (handles.lookup handle).map (· ++ suffix)

namespace Tree

/-- Whether the next token is one of those that end a missing node. -/
def stopsAt (stops : List Token) : List Token → Bool
  | [] => false
  | t :: _ => stops.contains t

/-- What is left after the token, if it is the next one. -/
def accept? (t : Token) : List Token → Option (List Token)
  | [] => none
  | next :: rest => if next = t then some rest else none

/-- What ends a missing item of a block sequence. -/
def blockItemStops : List Token := [.blockEntry, .blockEnd]

/-- What ends a missing item of a sequence that is not indented. -/
def bareItemStops : List Token := [.blockEntry, .key, .value, .blockEnd]

/-- What ends a missing key or value of a block mapping. -/
def blockMappingStops : List Token := [.key, .value, .blockEnd]

/-- What ends a missing key of a flow mapping. -/
def flowKeyStops : List Token := [.value, .flowEntry, .flowMappingEnd]

/-- What ends a missing value of a flow mapping. -/
def flowValueStops : List Token := [.flowEntry, .flowMappingEnd]

/-- What ends a missing key of a single pair in a flow sequence. -/
def pairKeyStops : List Token := [.value, .flowEntry, .flowSequenceEnd]

/-- What ends a missing value of a single pair in a flow sequence. -/
def pairValueStops : List Token := [.flowEntry, .flowSequenceEnd]

/-- The empty node behind properties. -/
def missing? (properties : Properties) (tokens : List Token) : Option (Tree × List Token) :=
  if properties = {} then none else some (.scalar properties true "", tokens)

mutual

/-- A node: an alias, or content with its properties. A block collection may start only where
`block` says so, and a sequence without indentation only where `bare` does. -/
def node? (handles : Handles) (block bare : Bool) : List Token → Option (Tree × List Token)
  | .alias anchor :: rest => some (.alias anchor, rest)
  | .anchor name :: .tag handle suffix :: rest => do
    let tag ← resolveTag? handles handle suffix
    content? handles block bare ⟨some name, some tag⟩ rest
  | .tag handle suffix :: .anchor name :: rest => do
    let tag ← resolveTag? handles handle suffix
    content? handles block bare ⟨some name, some tag⟩ rest
  | .anchor name :: rest => content? handles block bare ⟨some name, none⟩ rest
  | .tag handle suffix :: rest => do
    let tag ← resolveTag? handles handle suffix
    content? handles block bare ⟨none, some tag⟩ rest
  | rest => content? handles block bare {} rest
termination_by tokens => (tokens.length, 1)

/-- The content of a node. It may be missing behind properties. -/
def content? (handles : Handles) (block bare : Bool) (properties : Properties) :
    List Token → Option (Tree × List Token)
  | .scalar plain text :: rest => some (.scalar properties plain text, rest)
  | .flowSequenceStart :: rest => do
    let (items, rest) ← flowItems? handles rest
    some (.seq properties items, rest)
  | .flowMappingStart :: rest => do
    let (entries, rest) ← flowEntries? handles rest
    some (.map properties entries, rest)
  | tokens@(.blockSequenceStart :: rest) =>
    if block then do
      let (items, rest) ← blockItems? handles rest
      some (.seq properties items, rest)
    else missing? properties tokens
  | tokens@(.blockMappingStart :: rest) =>
    if block then do
      let (entries, rest) ← blockEntries? handles rest
      some (.map properties entries, rest)
    else missing? properties tokens
  | tokens@(.blockEntry :: rest) =>
    if bare then do
      let (items, rest) ← bareItems? handles rest
      some (.seq properties items, rest)
    else missing? properties tokens
  | tokens => missing? properties tokens
termination_by tokens => (tokens.length, 0)

/-- A node, or nothing in front of one of the given tokens. -/
def nodeUnless? (handles : Handles) (block bare : Bool) (stops : List Token)
    (tokens : List Token) : Option (Tree × List Token) :=
  if stopsAt stops tokens then some (nothing, tokens) else node? handles block bare tokens
termination_by (tokens.length, 2)

/-- The items of a block sequence, each after its mark, up to the end of the block. -/
def blockItems? (handles : Handles) : List Token → Option (List Tree × List Token)
  | .blockEnd :: rest => some ([], rest)
  | .blockEntry :: tokens => do
    let (item, rest) ← nodeUnless? handles true false blockItemStops tokens
    if rest.length ≤ tokens.length then
      let (items, rest) ← blockItems? handles rest
      some (item :: items, rest)
    else none
  | _ => none
termination_by tokens => (tokens.length, 3)

/-- The items of a sequence that is not indented, from behind the mark of its first one. -/
def bareItems? (handles : Handles) (tokens : List Token) : Option (List Tree × List Token) := do
  let (item, rest) ← nodeUnless? handles true false bareItemStops tokens
  match rest with
  | .blockEntry :: rest =>
    if rest.length < tokens.length then
      let (items, rest) ← bareItems? handles rest
      some (item :: items, rest)
    else none
  | rest => some ([item], rest)
termination_by (tokens.length, 3)

/-- The entries of a block mapping, up to the end of the block. -/
def blockEntries? (handles : Handles) : List Token → Option (List (Tree × Tree) × List Token)
  | .blockEnd :: rest => some ([], rest)
  | .key :: tokens => do
    let (key, rest) ← nodeUnless? handles true true blockMappingStops tokens
    if rest.length ≤ tokens.length then
      let (value, rest) ← blockValue? handles rest
      if rest.length ≤ tokens.length then
        let (entries, rest) ← blockEntries? handles rest
        some ((key, value) :: entries, rest)
      else none
    else none
  | _ => none
termination_by tokens => (tokens.length, 3)

/-- The value of a block mapping behind its mark; without the mark there is none. -/
def blockValue? (handles : Handles) : List Token → Option (Tree × List Token)
  | .value :: rest => nodeUnless? handles true true blockMappingStops rest
  | rest => some (nothing, rest)
termination_by tokens => (tokens.length, 3)

/-- The items of a flow sequence from behind its opening bracket or a comma, up to its closing
bracket. -/
def flowItems? (handles : Handles) (tokens : List Token) : Option (List Tree × List Token) := do
  if stopsAt [.flowSequenceEnd] tokens then some ([], tokens.drop 1)
  else
    let (item, rest) ← flowItem? handles tokens
    if rest.length < tokens.length then
      let (items, rest) ← moreFlowItems? handles rest
      some (item :: items, rest)
    else none
termination_by (tokens.length, 6)

/-- What follows an item of a flow sequence: the closing bracket, or a comma and perhaps more. -/
def moreFlowItems? (handles : Handles) : List Token → Option (List Tree × List Token)
  | .flowSequenceEnd :: rest => some ([], rest)
  | .flowEntry :: rest => flowItems? handles rest
  | _ => none
termination_by tokens => (tokens.length, 5)

/-- An item of a flow sequence: a node, or a single pair behind the mark of its key. -/
def flowItem? (handles : Handles) : List Token → Option (Tree × List Token)
  | .key :: tokens => do
    let (key, rest) ←
      -- the token that stands for a missing key is taken with it
      if stopsAt pairKeyStops tokens then some (nothing, tokens.drop 1)
      else node? handles false false tokens
    if rest.length ≤ tokens.length then
      let (value, rest) ← pairValue? handles rest
      some (.map {} [(key, value)], rest)
    else none
  | tokens => node? handles false false tokens
termination_by tokens => (tokens.length, 4)

/-- The value of a single pair behind its mark; without the mark there is none. -/
def pairValue? (handles : Handles) : List Token → Option (Tree × List Token)
  | .value :: rest => nodeUnless? handles false false pairValueStops rest
  | rest => some (nothing, rest)
termination_by tokens => (tokens.length, 3)

/-- The entries of a flow mapping from behind its opening bracket or a comma, up to its closing
bracket. -/
def flowEntries? (handles : Handles) (tokens : List Token) :
    Option (List (Tree × Tree) × List Token) := do
  if stopsAt [.flowMappingEnd] tokens then some ([], tokens.drop 1)
  else
    let (entry, rest) ← flowPair? handles tokens
    if rest.length < tokens.length then
      let (entries, rest) ← moreFlowEntries? handles rest
      some (entry :: entries, rest)
    else none
termination_by (tokens.length, 6)

/-- What follows an entry of a flow mapping: the closing bracket, or a comma and perhaps more. -/
def moreFlowEntries? (handles : Handles) :
    List Token → Option (List (Tree × Tree) × List Token)
  | .flowMappingEnd :: rest => some ([], rest)
  | .flowEntry :: rest => flowEntries? handles rest
  | _ => none
termination_by tokens => (tokens.length, 5)

/-- An entry of a flow mapping. Without the mark of a key there is only a key. -/
def flowPair? (handles : Handles) : List Token → Option ((Tree × Tree) × List Token)
  | .key :: tokens => do
    let (key, rest) ← nodeUnless? handles false false flowKeyStops tokens
    if rest.length ≤ tokens.length then
      let (value, rest) ← flowValue? handles rest
      some ((key, value), rest)
    else none
  | tokens => do
    let (key, rest) ← node? handles false false tokens
    some ((key, nothing), rest)
termination_by tokens => (tokens.length, 4)

/-- The value of a flow mapping behind its mark; without the mark there is none. -/
def flowValue? (handles : Handles) : List Token → Option (Tree × List Token)
  | .value :: rest => nodeUnless? handles false false flowValueStops rest
  | rest => some (nothing, rest)
termination_by tokens => (tokens.length, 3)

end

/-! ## Documents -/

/-- The directives in front of a document: at most one version, which has to be 1.1 or 1.2, and
handles, each of them at most once. -/
def directives? (versionSeen : Bool) (handles : Handles) :
    List Token → Option (Handles × List Token)
  | .versionDirective major minor :: rest =>
    if !versionSeen && major = 1 && (minor = 1 || minor = 2) then directives? true handles rest
    else none
  | .tagDirective handle standsFor :: rest =>
    if (handles.lookup handle).isSome then none
    else directives? versionSeen ((handle, standsFor) :: handles) rest
  | rest => some (handles, rest)

/-- What a document without a start mark may not start with. -/
def isDirective : Token → Bool
  | .versionDirective _ _ => true
  | .tagDirective _ _ => true
  | _ => false

/-- The root node behind a start mark. It may be missing. -/
def rootAfterStart? (handles : Handles) : List Token → Option (Tree × List Token)
  | [] => some (nothing, [])
  | t :: rest =>
    if isDirective t || t = .documentStart || t = .documentEnd then some (nothing, t :: rest)
    else node? handles true false (t :: rest)

/-- The tokens of a text that holds one document, or nothing. Only end marks may follow it. -/
def ofTokens? (tokens : List Token) : Option Tree := do
  match tokens with
  | [] => some nothing
  | t :: _ =>
    let (tree, rest) ←
      if isDirective t || t = .documentStart then do
        let (handles, rest) ← directives? false [] tokens
        rootAfterStart? (handles ++ defaultHandles) (← accept? .documentStart rest)
      else node? defaultHandles true false tokens
    if rest.all (· = .documentEnd) then some tree else none

end Tree

end XmlTemplate.Yaml
