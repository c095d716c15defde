import HamlServer.Toml.Numeral
import HamlServer.Toml.Quoted

/-!
TOML documents.

A document is a sequence of lines: headers, which say which table the following lines belong to,
and assignments.  Arrays, and tables between braces, may go over several lines and end with a comma.
-/

namespace HamlServer.Toml

/-- The number of arrays and tables between braces that may stand inside each other. -/
def maxNesting : Nat := 80

/-- The number of keys that may stand between dots. -/
def maxKeys : Nat := 80

/-- Skips white space, line breaks and comments; `comment` is set inside a comment. -/
def skipGap : Bool → List Char → Option (List Char)
  | _, [] => some []
  | _, '\n' :: r => skipGap false r
  | _, '\r' :: '\n' :: r => skipGap false r
  | true, c :: r => if isTextChar c then skipGap true r else none
  | false, c :: r =>
    if c == '#' then skipGap true r else if isBlank c then skipGap false r else some (c :: r)

/-- What follows the end of a line, in front of which a comment may stand. -/
def endLine : Bool → List Char → Option (List Char)
  | _, [] => some []
  | _, '\n' :: r => some r
  | _, '\r' :: '\n' :: r => some r
  | true, c :: r => if isTextChar c then endLine true r else none
  | false, c :: r =>
    if c == '#' then endLine true r else if isBlank c then endLine false r else none

/-! ## Keys -/

/-- The characters of a key without quotes. -/
def isKeyChar (c : Char) : Bool := c.isAlphanum || c == '-' || c == '_'

/-- A key without dots. -/
def takeKey (s : List Char) : Option (String × List Char) :=
  match s.takeWhile isKeyChar with
  | [] =>
    if "\"\"\"".toList.isPrefixOf s || "'''".toList.isPrefixOf s then none
    else (takeShortText s).map fun (text, r) => (String.ofList text, r)
  | bare => some (String.ofList bare, s.drop bare.length)

/-- A key with dots between its pieces, of which there may be so many. -/
def takePath : Nat → List Char → Option (KeyPath × List Char)
  | 0, _ => none
  | pieces + 1, s => do
    let (k, r) ← takeKey s
    match r.dropWhile isBlank with
    | '.' :: r =>
      let (path, r) ← takePath pieces (r.dropWhile isBlank)
      return (⟨k :: path.front, path.last⟩, r)
    | r => return (⟨[], k⟩, r)

/-- The key of an assignment, and what follows its equals sign. -/
def takeAssigned (s : List Char) : Option (KeyPath × List Char) := do
  let (path, r) ← takePath maxKeys s
  return (path, (← after? '=' r).dropWhile isBlank)

/-! ## Values -/

mutual

/-- A value, of which `depth` arrays and tables may stand inside each other. -/
def takeValue (depth : Nat) : Nat → List Char → Option (Value × List Char)
  | 0, _ => none
  | fuel + 1, s =>
    match s, depth with
    | '[' :: r, depth + 1 => do
      let (items, r) ← takeItems depth fuel r
      return (.array items, r)
    | '\x7b' :: r, depth + 1 => do
      let (entries, r) ← takeEntries depth fuel [] r
      return (.table .braces entries, r)
    | '"' :: _, _ => (takeText s).map fun (text, r) => (.string (String.ofList text), r)
    | '\'' :: _, _ => (takeText s).map fun (text, r) => (.string (String.ofList text), r)
    | _, _ => takeUnquoted s

/-- The items of an array, behind its opening bracket or a comma. -/
def takeItems (depth : Nat) : Nat → List Char → Option (List Value × List Char)
  | 0, _ => none
  | fuel + 1, s => do
    let s ← skipGap false s
    if s.head? = some ']' then return ([], s.tail)
    let (v, r) ← takeValue depth fuel s
    match ← skipGap false r with
    | ',' :: r =>
      let (vs, r) ← takeItems depth fuel r
      return (v :: vs, r)
    | ']' :: r => return ([v], r)
    | _ => none

/-- The entries of a table, behind its opening brace or a comma; `es` are those before. -/
def takeEntries (depth : Nat) : Nat → Entries → List Char → Option (Entries × List Char)
  | 0, _, _ => none
  | fuel + 1, es, s => do
    let s ← skipGap false s
    if s.head? = some '\x7d' then return (es, s.tail)
    let (path, r) ← takeAssigned s
    let (v, r) ← takeValue depth fuel r
    let es ← es.assign path v
    match ← skipGap false r with
    | ',' :: r => takeEntries depth fuel es r
    | '\x7d' :: r => return (es, r)
    | _ => none

end

/-! ## Lines -/

/-- A line of a document. -/
inductive Line where
  | table (path : KeyPath)
  | item (path : KeyPath)
  | assignment (path : KeyPath) (v : Value)

/-- The key between the brackets of a header, and what follows them. -/
def takeHeader (closing : List Char) (s : List Char) : Option (KeyPath × List Char) := do
  let (path, r) ← takePath maxKeys (s.dropWhile isBlank)
  if closing.isPrefixOf r then return (path, r.drop closing.length) else none

/-- A line, and what follows it on the same line. -/
def takeLine (s : List Char) : Option (Line × List Char) :=
  match s with
  | '[' :: '[' :: r => (takeHeader [']', ']'] r).map fun (path, r) => (.item path, r)
  | '[' :: r => (takeHeader [']'] r).map fun (path, r) => (.table path, r)
  | s => do
    let (path, r) ← takeAssigned s
    let (v, r) ← takeValue maxNesting (r.length + 1) r
    return (.assignment path v, r)

/-- The lines of a document. -/
def takeLines : Nat → List Char → Option (List Line)
  | 0, _ => none
  | fuel + 1, s => do
    let s ← skipGap false s
    if s = [] then return []
    let (line, r) ← takeLine s
    return line :: (← takeLines fuel (← endLine false r))

/-! ## Documents -/

/-- The entries that the lines so far give, and the table that the last header opened. -/
structure Progress where
  entries : Entries := []
  context : List String := []

/-- Takes a line into account. -/
def Progress.add (p : Progress) : Line → Option Progress
  | .table path => (p.entries.openTable path).map (⟨·, path.toList⟩)
  | .item path => (p.entries.addTable path).map (⟨·, path.toList⟩)
  | .assignment path v =>
    (p.entries.within .implied (fun _ es => es.assign path v) p.context .header).map
      (⟨·, p.context⟩)

/-- The text of a document without the mark of its byte order. -/
def dropMark : List Char → List Char
  | '\uFEFF' :: r => r
  | s => s

/-- The entries of a document. -/
def parse? (s : String) : Option Entries := do
  let cs := dropMark s.toList
  let p ← (← takeLines (cs.length + 1) cs).foldlM Progress.add ({} : Progress)
  return p.entries

end HamlServer.Toml
