import HamlServer.Text.Utf8
import HamlServer.Yaml.ScalarText

/-!
The lexer of YAML.

Tokens are read one after the other, while the lexer keeps the indentation of the open block
collections, and for every level of brackets the place where a key of one line may have begun.  When
a colon shows that it was a key, the key token goes in front of what was read since.
-/

namespace HamlServer.Yaml

/-- A place in a text: what follows, and the line, the column in characters and the number of bytes
before it. -/
structure Cursor where
  rest : List Char
  line : Nat := 0
  column : Nat := 0
  index : Nat := 0

namespace Cursor

/-- Goes over the next `n` characters; a carriage return in front of a line feed belongs to it. -/
def advance : Nat → Cursor → Cursor
  | 0, c => c
  | n + 1, c =>
    match c.rest with
    | [] => c
    | x :: r =>
      let index := c.index + x.utf8Size
      if x == '\r' && r.head? == some '\n' then advance n { c with rest := r, index }
      else if isBreak x then advance n ⟨r, c.line + 1, 0, index⟩
      else advance n ⟨r, c.line, c.column + 1, index⟩

/-- Goes to where a given rest begins. -/
def moveTo (c : Cursor) (rest : List Char) : Cursor := c.advance (c.rest.length - rest.length)

end Cursor

/-- The place where a key of one line may have begun, by the number of tokens before it; `required`
tells that nothing else can stand there. -/
structure KeyPlace where
  required : Bool
  tokens : Nat
  line : Nat
  column : Nat
  index : Nat

/-- The state of the lexer.  The places of keys are kept for each level of brackets, the innermost
first; `indents` holds the columns of the block collections around the innermost one. -/
structure Lexer where
  cursor : Cursor
  tokens : Array Token := #[]
  indent : Int := -1
  indents : List Int := []
  keyAllowed : Bool := true
  keys : List (Option KeyPlace) := [none]

namespace Lexer

/-- Whether the lexer is inside brackets. -/
def inFlow (l : Lexer) : Bool := 1 < l.keys.length

/-- Adds a token. -/
def emit (l : Lexer) (t : Token) : Lexer := { l with tokens := l.tokens.push t }

/-- Goes on at a rest of the text. -/
def moveTo (l : Lexer) (rest : List Char) : Lexer := { l with cursor := l.cursor.moveTo rest }

/-- Goes over `n` characters. -/
def skip (l : Lexer) (n : Nat) : Lexer := { l with cursor := l.cursor.advance n }

/-- Allows a key of one line, or not. -/
def allowKey (l : Lexer) (b : Bool) : Lexer := { l with keyAllowed := b }

/-- The greatest number of bytes between the start of a key of one line and its colon. -/
def maxKeyLength : Nat := 1024

/-- Gives up the places of keys that lie too far back; a key that is required must not be given
up. -/
def dropStale (l : Lexer) : Option Lexer := do
  let keys ← l.keys.mapM fun key =>
    match key with
    | none => some none
    | some k =>
      if k.line < l.cursor.line || k.index + maxKeyLength < l.cursor.index then
        if k.required then none else some none
      else some (some k)
  return { l with keys }

/-- Gives up the innermost place of a key. -/
def dropKey (l : Lexer) : Option Lexer :=
  match l.keys with
  | some k :: _ => if k.required then none else some { l with keys := none :: l.keys.tail }
  | _ => some { l with keys := none :: l.keys.tail }

/-- Notes that a key of one line may begin here. -/
def noteKey (l : Lexer) : Option Lexer :=
  if l.keyAllowed then do
    let required := !l.inFlow && l.indent == l.cursor.column
    let place : KeyPlace :=
      ⟨required, l.tokens.size, l.cursor.line, l.cursor.column, l.cursor.index⟩
    let l ← l.dropKey
    return { l with keys := some place :: l.keys.tail }
  else some l

/-- Opens a block collection at a column unless one is open there; its token goes in front of the
token number `place`. -/
def indentTo (l : Lexer) (column place : Nat) (t : Token) : Lexer :=
  if l.inFlow || column ≤ l.indent then l
  else { l with
    indents := l.indent :: l.indents
    indent := column
    tokens := l.tokens.insertIdxIfInBounds place t }

/-- Closes the block collections that lie deeper than a column. -/
def closeTo (column : Int) : List Int → Lexer → Lexer
  | outer :: indents, l =>
    if !l.inFlow && column < l.indent then
      closeTo column indents ({ l with indent := outer, indents }.emit .blockEnd)
    else l
  | [], l => l

/-- Closes the block collections that lie deeper than a column. -/
def unindent (l : Lexer) (column : Int) : Lexer := closeTo column l.indents l

/-- Goes over a byte order mark at the start of a line. -/
def skipMark (l : Lexer) : Lexer :=
  if l.cursor.column == 0 && l.cursor.rest.head? == some '\uFEFF' then l.skip 1 else l

/-- Goes over white space, comments and line breaks.  Tabs count as white space inside brackets and
where no key can begin. -/
def skipBlank : Nat → Lexer → Lexer
  | 0, l => l
  | fuel + 1, l =>
    let l := l.skipMark
    let tabs := l.inFlow || !l.keyAllowed
    let rest := l.cursor.rest.dropWhile fun c => c == ' ' || (tabs && c == '\t')
    let rest := if rest.head? = some '#' then rest.dropWhile (fun c => !isBreak c) else rest
    match takeBreak rest with
    | some (_, rest) =>
      let l := l.moveTo rest
      skipBlank fuel (if l.inFlow then l else l.allowKey true)
    | none => l.moveTo rest

/-! ## Directives, anchors and tags -/

/-- A number of at most nine digits. -/
def versionNumber (s : List Char) : Option (Nat × List Char) :=
  let ds := s.takeWhile Char.isDigit
  if ds = [] ∨ 9 < ds.length then none
  else some (Text.ofDigits 10 (ds.map fun c => c.toNat - 48), s.drop ds.length)

/-- The number of octets of a character, by its first. -/
def octetCount? (b : Nat) : Option Nat :=
  if b < 0x80 then some 1
  else if b < 0xC0 then none
  else if b < 0xE0 then some 2
  else if b < 0xF0 then some 3
  else if b < 0xF8 then some 4
  else none

/-- One octet written with a percent sign. -/
def percentOctet? : List Char → Option (Nat × List Char)
  | '%' :: a :: b :: r => do return ((← Text.hexDigit? a) * 16 + (← Text.hexDigit? b), r)
  | _ => none

/-- The octets that continue a character. -/
def percentTail : Nat → List Char → Option (Bytes × List Char)
  | 0, s => some ([], s)
  | n + 1, s => do
    let (b, r) ← percentOctet? s
    if b / 0x40 ≠ 2 then none
    let (bs, r) ← percentTail n r
    return (UInt8.ofNat b :: bs, r)

/-- A character written with percent signs. -/
def percentChar (s : List Char) : Option (List Char × List Char) := do
  let (b, r) ← percentOctet? s
  let (bs, r) ← percentTail ((← octetCount? b) - 1) r
  return (Utf8.decodeChars (UInt8.ofNat b :: bs), r)

/-- The characters of a tag; brackets and commas only where the tag is written out in full. -/
def isTagChar (full : Bool) (c : Char) : Bool :=
  isNameChar c || ";/?:@&=+$.%!~*'()".toList.contains c || (full && ",[]".toList.contains c)

/-- The longest run of tag characters. -/
def tagRun (full : Bool) : Nat → List Char → Option (List Char × List Char)
  | 0, _ => none
  | fuel + 1, s =>
    match s with
    | [] => some ([], [])
    | c :: r =>
      if !isTagChar full c then some ([], c :: r)
      else do
        let (cs, r) ← if c = '%' then percentChar s else some ([c], r)
        let (run, r) ← tagRun full fuel r
        return (cs ++ run, r)

/-- A tag's handle: an exclamation mark, perhaps with a name and a second mark behind it. -/
def tagHandle (s : List Char) : Option (List Char × List Char) :=
  match s with
  | '!' :: r =>
    let name := r.takeWhile isNameChar
    match r.drop name.length with
    | '!' :: r => some ('!' :: name ++ ['!'], r)
    | r => some ('!' :: name, r)
  | _ => none

/-- A tag: its handle, which is empty for a full tag and for the tag that says nothing, and the rest
of it. -/
def tagParts (s : List Char) : Option (List Char × List Char × List Char) :=
  match s with
  | '!' :: '<' :: r => do
    let (uri, r) ← tagRun true (r.length + 1) r
    match uri, r with
    | _ :: _, '>' :: r => return ([], uri, r)
    | _, _ => none
  | _ => do
    let (handle, r) ← tagHandle s
    let (run, r) ← tagRun false (r.length + 1) r
    if 1 < handle.length && handle.getLast? == some '!' then
      if run = [] then none else return (handle, run, r)
    else
      let rest := handle.tail ++ run
      return if rest = [] then ([], ['!'], r) else (['!'], rest, r)

/-- The token of a directive behind its percent sign, and what follows its name and values. -/
def directive (s : List Char) : Option (Token × List Char) :=
  let name := s.takeWhile isNameChar
  let rest := s.drop name.length
  if !endsWord rest then none
  else if name = "YAML".toList then do
    let (major, r) ← versionNumber (rest.dropWhile isGap)
    match r with
    | '.' :: r =>
      let (minor, r) ← versionNumber r
      return (.version major minor, r)
    | _ => none
  else if name = "TAG".toList then do
    let (handle, r) ← tagHandle (rest.dropWhile isGap)
    if handle.getLast? ≠ some '!' || !r.head?.any isGap then none
    let r := r.dropWhile isGap
    let (opening, r) ← tagRun true (r.length + 1) r
    if opening = [] || !endsWord r then none
    return (.handle (String.ofList handle) (String.ofList opening), r)
  else none

/-- Reads a directive. -/
def readDirective (l : Lexer) : Option Lexer := do
  let l ← (l.unindent (-1)).dropKey
  let (token, r) ← directive l.cursor.rest.tail
  let rest ← skipComment r
  return ((l.allowKey false).moveTo rest).emit token

/-- What may follow the name of an anchor. -/
def endsAnchor (s : List Char) : Bool :=
  endsWord s || s.head?.any fun c => "?:,]\x7d%@".toList.contains c || c.toNat == 0x60

/-- Reads an anchor or an alias. -/
def readAnchor (l : Lexer) (make : String → Token) : Option Lexer := do
  let l ← l.noteKey
  let s := l.cursor.rest.tail
  let name := s.takeWhile isNameChar
  let rest := s.drop name.length
  if name = [] || !endsAnchor rest then none
  return ((l.allowKey false).moveTo rest).emit (make (String.ofList name))

/-- Reads a tag. -/
def readTag (l : Lexer) : Option Lexer := do
  let l ← l.noteKey
  let (handle, name, rest) ← tagParts l.cursor.rest
  if !(endsWord rest || (l.inFlow && rest.head? == some ',')) then none
  return ((l.allowKey false).moveTo rest).emit (.tag (String.ofList handle) (String.ofList name))

/-! ## Scalars -/

/-- Reads a block scalar. -/
def readBlock (l : Lexer) (folded : Bool) : Option Lexer := do
  let l ← l.dropKey
  let (text, rest) ← blockText folded l.indent l.cursor.rest.tail
  return ((l.allowKey true).moveTo rest).emit
    (.scalar (String.ofList text) (if folded then .folded else .literal))

/-- Reads a quoted scalar. -/
def readQuoted (l : Lexer) (single : Bool) : Option Lexer := do
  let l ← l.noteKey
  let s := l.cursor.rest.tail
  let (text, rest) ← quotedText single (s.length + 1) false s
  return ((l.allowKey false).moveTo rest).emit
    (.scalar (String.ofList text) (if single then .single else .double))

/-- Reads a plain scalar. -/
def readPlain (l : Lexer) : Option Lexer := do
  let l ← l.noteKey
  let s := l.cursor.rest
  let (text, broke, rest) ← plainText l.inFlow (l.indent + 1).toNat (s.length + 2) {} s
  return ((l.allowKey broke).moveTo rest).emit (.scalar (String.ofList text) .plain)

/-! ## Structure -/

/-- Reads the mark of a document's start or end. -/
def readMark (l : Lexer) (t : Token) : Option Lexer := do
  let l ← (l.unindent (-1)).dropKey
  return ((l.allowKey false).skip 3).emit t

/-- Reads an opening bracket. -/
def readOpening (l : Lexer) (t : Token) : Option Lexer := do
  let l ← l.noteKey
  return (({ l with keys := none :: l.keys }.allowKey true).skip 1).emit t

/-- Reads a closing bracket. -/
def readClosing (l : Lexer) (t : Token) : Option Lexer := do
  let l ← l.dropKey
  let keys := match l.keys with
    | _ :: k :: ks => k :: ks
    | keys => keys
  return (({ l with keys }.allowKey false).skip 1).emit t

/-- Opens a block collection in front of an indicator; a block indicator must stand where a key may
begin. -/
def openBlock (l : Lexer) (t : Token) : Option Lexer :=
  if l.inFlow then some l
  else if l.keyAllowed then some (l.indentTo l.cursor.column l.tokens.size t)
  else none

/-- Reads the indicator of a list's entry. -/
def readEntry (l : Lexer) : Option Lexer := do
  let l ← (← l.openBlock .blockListStart).dropKey
  return ((l.allowKey true).skip 1).emit .blockEntry

/-- Reads the indicator of a key. -/
def readKey (l : Lexer) : Option Lexer := do
  let l ← (← l.openBlock .blockMapStart).dropKey
  return ((l.allowKey (!l.inFlow)).skip 1).emit .key

/-- Reads the colon in front of a value.  If a key of one line may have begun, it did. -/
def readValue (l : Lexer) : Option Lexer :=
  match l.keys with
  | some k :: keys =>
    let l := { l with keys := none :: keys, tokens := l.tokens.insertIdxIfInBounds k.tokens .key }
    let l := l.indentTo k.column k.tokens .blockMapStart
    some (((l.allowKey false).skip 1).emit .value)
  | _ => do
    let l ← l.openBlock .blockMapStart
    return ((l.allowKey (!l.inFlow)).skip 1).emit .value

/-- The characters that no plain scalar begins with, unless the next one allows it. -/
def isIndicator (c : Char) : Bool :=
  "-?:,[]\x7b\x7d#&*!|>'\"%@".toList.contains c || c.toNat == 0x60

/-- Reads the token at the front; white space in front of it has been passed over. -/
def readToken (l : Lexer) : Option Lexer :=
  let s := l.cursor.rest
  let start := l.cursor.column == 0
  match s with
  | [] => none
  | c :: r =>
    if start && c == '%' then l.readDirective
    else if start && isDocumentMark s then
      l.readMark (if c == '-' then .documentStart else .documentEnd)
    else if c == '[' then l.readOpening .flowListStart
    else if c == '\x7b' then l.readOpening .flowMapStart
    else if c == ']' then l.readClosing .flowListEnd
    else if c == '\x7d' then l.readClosing .flowMapEnd
    else if c == ',' then do return (((← l.dropKey).allowKey true).skip 1).emit .flowEntry
    else if c == '-' && endsWord r then l.readEntry
    else if c == '?' && (l.inFlow || endsWord r) then l.readKey
    else if c == ':' && (l.inFlow || endsWord r) then l.readValue
    else if c == '*' then l.readAnchor .alias
    else if c == '&' then l.readAnchor .anchor
    else if c == '!' then l.readTag
    else if c == '|' && !l.inFlow then l.readBlock false
    else if c == '>' && !l.inFlow then l.readBlock true
    else if c == '\'' then l.readQuoted true
    else if c == '"' then l.readQuoted false
    else if !(isGap c || isBreak c || isIndicator c) ||
        (c == '-' && !r.head?.any isGap) ||
        (!l.inFlow && (c == '?' || c == ':') && !endsWord r) then l.readPlain
    else none

/-- Reads tokens up to the end of the text. -/
def readAll : Nat → Lexer → Option Lexer
  | 0, _ => none
  | fuel + 1, l => do
    let l ← (skipBlank (l.cursor.rest.length + 1) l).dropStale
    let l := l.unindent l.cursor.column
    if l.cursor.rest = [] then
      let l ← (l.unindent (-1)).dropKey
      return l.emit .streamEnd
    readAll fuel (← l.readToken)

end Lexer

/-- The characters that may stand in a text. -/
def isAllowed (c : Char) : Bool :=
  let n := c.toNat
  c == '\t' || c == '\n' || c == '\r' || (0x20 ≤ n && n ≤ 0x7E) || n == 0x85 ||
    (0xA0 ≤ n && n ≤ 0xD7FF) || (0xE000 ≤ n && n ≤ 0xFFFD) || 0x10000 ≤ n

/-- The tokens of a text, or nothing when it is not well-formed. -/
def tokenize (s : List Char) : Option (List Token) :=
  if s.all isAllowed then
    (Lexer.readAll (s.length + 2) { cursor := { rest := s } }).map (·.tokens.toList)
  else none

end HamlServer.Yaml
