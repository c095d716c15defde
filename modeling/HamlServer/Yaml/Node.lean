import HamlServer.Yaml.Lexer

/-!
Nodes of a YAML document.

A document is a tree of scalars, lists and maps.  Anchors give nodes numbers, and an alias stands
for the node that has its number; since an alias may stand inside the node it names, it is followed
only where its value is asked for.
-/

namespace HamlServer.Yaml

/-- A node; a tag is kept in full. -/
inductive Node where
  | scalar (text : String) (style : Style) (tag : Option String)
  | list (items : List Node) (tag : Option String)
  | map (entries : List (Node × Node)) (tag : Option String)
  | alias (anchor : Nat)
  deriving Inhabited

/-- A document: its root, and the nodes that aliases stand for. -/
structure Document where
  root : Option Node
  anchored : List (Nat × Node)

namespace Node

mutual

/-- The number of events that a node consists of: one for a scalar or an alias, and two for the ends
of a collection besides those of its parts. -/
def size : Node → Nat
  | .scalar _ _ _ => 1
  | .alias _ => 1
  | .list items _ => 2 + itemsSize items
  | .map entries _ => 2 + entriesSize entries
termination_by structural n => n

/-- The number of events of the items of a list. -/
def itemsSize : List Node → Nat
  | [] => 0
  | n :: ns => n.size + itemsSize ns
termination_by structural ns => ns

/-- The number of events of an entry of a map. -/
def entrySize : Node × Node → Nat
  | (k, v) => k.size + v.size
termination_by structural e => e

/-- The number of events of the entries of a map. -/
def entriesSize : List (Node × Node) → Nat
  | [] => 0
  | e :: es => entrySize e + entriesSize es
termination_by structural es => es

end

/-- The scalar that stands where nothing is written. -/
def blank (tag : Option String) : Node := .scalar "" .plain tag

end Node

/-- The state of the parser: the tokens that follow, the meaning of tag handles, the number of each
anchor, the occurrence that last took each number, and the nodes of the occurrences. -/
structure Parsing where
  tokens : List Token
  handles : List (String × String) := []
  numbers : List (String × Nat) := []
  owners : List (Nat × Nat) := []
  nodes : List (Nat × Node) := []

/-- A step of the parser, which may fail. -/
abbrev Parser := StateT Parsing Option

namespace Parser

/-- The token at the front. -/
def peek : Parser Token := do return (← get).tokens.headD .streamEnd

/-- Goes over a token. -/
def skip : Parser Unit := modify fun p => { p with tokens := p.tokens.tail }

/-- Goes over a given token. -/
def expect (t : Token) : Parser Unit := do
  if (← peek) = t then skip else failure

/-- Numbers an anchor by the count of different names before it, and gives its occurrence. -/
def bindAnchor (name : String) : Parser Nat := do
  let p ← get
  let number := p.numbers.length
  let occurrence := p.owners.length
  set { p with
    numbers := (name, number) :: p.numbers.filter (·.1 ≠ name)
    owners := (number, occurrence) :: p.owners }
  return occurrence

/-- Gives the occurrence of an anchor its node. -/
def giveNode (occurrence : Option Nat) (n : Node) : Parser Node := do
  match occurrence with
  | none => return n
  | some k =>
    modify fun p => { p with nodes := (k, n) :: p.nodes }
    return n

/-- The handles that stand for themselves unless a directive gives them another meaning. -/
def standardHandles : List (String × String) :=
  [("!", "!"), ("!!", "tag:yaml.org,2002:")]

/-- A tag in full. -/
def fullTag (handle rest : String) : Parser String := do
  if handle.isEmpty then return rest
  match ((← get).handles ++ standardHandles).lookup handle with
  | some opening => return opening ++ rest
  | none => failure

/-- The anchor and the tag in front of a node, in either order and each at most once. -/
def properties : Parser (Option String × Option String) := do
  match ← peek with
  | .anchor name =>
    skip
    match ← peek with
    | .tag handle rest =>
      skip
      return (some name, some (← fullTag handle rest))
    | _ => return (some name, none)
  | .tag handle rest =>
    skip
    match ← peek with
    | .anchor name =>
      skip
      return (some name, some (← fullTag handle rest))
    | _ => return (none, some (← fullTag handle rest))
  | _ => return (none, none)

mutual

/-- A node.  Block collections stand only where `block` is set, and a list without indentation of
its own only where `indentless` is set. -/
def node : Nat → Bool → Bool → Parser Node
  | 0, _, _ => failure
  | fuel + 1, block, indentless => do
    match ← peek with
    | .alias name =>
      skip
      match (← get).numbers.lookup name with
      | some n => return .alias n
      | none => failure
    | _ =>
    let (name, tag) ← properties
    let start (m : Parser Node) : Parser Node := do
      let occurrence ← name.mapM bindAnchor
      giveNode occurrence (← m)
    match ← peek, block with
    | .scalar text style, _ =>
      skip
      start (pure (.scalar text style tag))
    | .flowListStart, _ =>
      skip
      start do return .list (← flowItems fuel true) tag
    | .flowMapStart, _ =>
      skip
      start do return .map (← flowEntries fuel true) tag
    | .blockListStart, true =>
      skip
      start do return .list (← blockItems fuel) tag
    | .blockMapStart, true =>
      skip
      start do return .map (← blockEntries fuel) tag
    | .blockEntry, _ =>
      if indentless then start do return .list (← looseItems fuel) tag
      else if name.isSome || tag.isSome then start (pure (.blank tag))
      else failure
    | _, _ =>
      if name.isSome || tag.isSome then start (pure (.blank tag)) else failure

/-- The items of a block list, up to its end. -/
def blockItems : Nat → Parser (List Node)
  | 0 => failure
  | fuel + 1 => do
    match ← peek with
    | .blockEntry =>
      skip
      let item ← match ← peek with
        | .blockEntry | .blockEnd => pure (.blank none)
        | _ => node fuel true false
      return item :: (← blockItems fuel)
    | .blockEnd =>
      skip
      return []
    | _ => failure

/-- The items of a list that has no indentation of its own. -/
def looseItems : Nat → Parser (List Node)
  | 0 => failure
  | fuel + 1 => do
    match ← peek with
    | .blockEntry =>
      skip
      let item ← match ← peek with
        | .blockEntry | .key | .value | .blockEnd => pure (.blank none)
        | _ => node fuel true false
      return item :: (← looseItems fuel)
    | _ => return []

/-- The entries of a block map, up to its end. -/
def blockEntries : Nat → Parser (List (Node × Node))
  | 0 => failure
  | fuel + 1 => do
    match ← peek with
    | .key =>
      skip
      let key ← blockPart fuel
      let value ← match ← peek with
        | .value => do
          skip
          blockPart fuel
        | _ => pure (.blank none)
      return (key, value) :: (← blockEntries fuel)
    | .blockEnd =>
      skip
      return []
    | _ => failure

/-- A key or a value of a block map. -/
def blockPart : Nat → Parser Node
  | 0 => failure
  | fuel + 1 => do
    match ← peek with
    | .key | .value | .blockEnd => return .blank none
    | _ => node fuel true true

/-- The items of a list in brackets; `first` is set in front of the first one. -/
def flowItems : Nat → Bool → Parser (List Node)
  | 0, _ => failure
  | fuel + 1, first => do
    if (← peek) = .flowListEnd then
      skip
      return []
    if !first then expect .flowEntry
    match ← peek with
    | .flowListEnd =>
      skip
      return []
    | .key =>
      skip
      let entry ← singleEntry fuel
      return .map [entry] none :: (← flowItems fuel false)
    | _ =>
      let item ← node fuel false false
      return item :: (← flowItems fuel false)

/-- An entry that stands in a list as a map of its own.  A missing key takes the token that stands
in its place. -/
def singleEntry : Nat → Parser (Node × Node)
  | 0 => failure
  | fuel + 1 => do
    let key ← match ← peek with
      | .value | .flowEntry | .flowListEnd => do
        skip
        pure (.blank none)
      | _ => node fuel false false
    if (← peek) = .value then
      skip
      match ← peek with
      | .flowEntry | .flowListEnd => return (key, .blank none)
      | _ => return (key, ← node fuel false false)
    else return (key, .blank none)

/-- The entries of a map in braces; `first` is set in front of the first one. -/
def flowEntries : Nat → Bool → Parser (List (Node × Node))
  | 0, _ => failure
  | fuel + 1, first => do
    if (← peek) = .flowMapEnd then
      skip
      return []
    if !first then expect .flowEntry
    match ← peek with
    | .flowMapEnd =>
      skip
      return []
    | .key =>
      skip
      let key ← match ← peek with
        | .value | .flowEntry | .flowMapEnd => pure (.blank none)
        | _ => node fuel false false
      let value ← flowValue fuel
      return (key, value) :: (← flowEntries fuel false)
    | _ =>
      let key ← node fuel false false
      return (key, .blank none) :: (← flowEntries fuel false)

/-- The value of an entry in braces, which may be missing. -/
def flowValue : Nat → Parser Node
  | 0 => failure
  | fuel + 1 => do
    if (← peek) = .value then
      skip
      match ← peek with
      | .flowEntry | .flowMapEnd => return .blank none
      | _ => node fuel false false
    else return .blank none

end

/-- The versions of the language that are read. -/
def isKnownVersion (major minor : Nat) : Bool := major == 1 && (minor == 1 || minor == 2)

/-- The directives in front of a document: at most one version, and each handle at most once. -/
def directives : Nat → Bool → Parser Bool
  | 0, _ => failure
  | fuel + 1, versioned => do
    match ← peek with
    | .version major minor =>
      if versioned || !isKnownVersion major minor then failure
      skip
      let _ ← directives fuel true
      return true
    | .handle name opening =>
      let p ← get
      if (p.handles.lookup name).isSome then failure
      set { p with handles := p.handles ++ [(name, opening)] }
      skip
      let _ ← directives fuel versioned
      return true
    | _ => return versioned

/-- Marks of a document's end. -/
def skipEnds : Nat → Parser Unit
  | 0 => failure
  | fuel + 1 => do
    if (← peek) = .documentEnd then
      skip
      skipEnds fuel

/-- The root of a document; nothing when its start is marked and nothing follows. -/
def root (fuel : Nat) : Parser Node := do
  let directed ← directives fuel false
  match ← peek with
  | .documentStart =>
    skip
    match ← peek with
    | .version _ _ | .handle _ _ | .documentStart | .documentEnd | .streamEnd => return .blank none
    | _ => node fuel true false
  | _ => if directed then failure else node fuel true false

/-- The one document of a text, which may be missing. -/
def document (fuel : Nat) : Parser Document := do
  if (← peek) = .streamEnd then return ⟨none, []⟩
  let n ← root fuel
  skipEnds fuel
  expect .streamEnd
  let p ← get
  return ⟨some n, p.owners.filterMap fun (number, k) => (p.nodes.lookup k).map (number, ·)⟩

end Parser

/-- Reads the document of a text. -/
def Document.parse? (s : String) : Option Document := do
  let tokens ← tokenize s.toList
  let fuel := 4 * tokens.length + 8
  let (d, _) ← (Parser.document fuel).run { tokens }
  return d

/-- The number of events of a document. -/
def Document.size (d : Document) : Nat := (d.root.map Node.size).getD 0

end HamlServer.Yaml
