import HamlServer.Text.Digits
import HamlServer.Yaml.Token

/-!
The text of YAML scalars.

A scalar that goes over several lines is folded: a single line break counts as a space, and of
several breaks the first is dropped.  White space around folded breaks does not count.  Block
scalars keep their lines, less the indentation that all of them share.
-/

namespace HamlServer.Yaml

/-- A line feed, a carriage return, or one of the three further characters that end a line. -/
def isBreak (c : Char) : Bool :=
  c == '\n' || c == '\r' || c == '\x85' || c == '\u2028' || c == '\u2029'

/-- A space or a tab. -/
def isGap (c : Char) : Bool := c == ' ' || c == '\t'

/-- Whether a text is at its end, or goes on with white space. -/
def endsWord : List Char → Bool
  | [] => true
  | c :: _ => isGap c || isBreak c

/-- The character that a line break stands for in a scalar. -/
def breakChar (c : Char) : Char := if c == '\u2028' || c == '\u2029' then c else '\n'

/-- The line break at the front of a text, and what follows. -/
def takeBreak : List Char → Option (Char × List Char)
  | '\r' :: '\n' :: r => some ('\n', r)
  | c :: r => if isBreak c then some (breakChar c, r) else none
  | [] => none

/-- Whether a line begins with the mark of a document's start or end. -/
def isDocumentMark : List Char → Bool
  | '-' :: '-' :: '-' :: r => endsWord r
  | '.' :: '.' :: '.' :: r => endsWord r
  | _ => false

/-- Letters, digits, the hyphen and the underscore. -/
def isNameChar (c : Char) : Bool := c.isAlphanum || c == '-' || c == '_'

/-- White space between the words of a scalar: the blanks of one line, or a first line break and
those after it.  The column counts the blanks since the last break. -/
structure Gap where
  blanks : List Char := []
  first : Option Char := none
  more : List Char := []
  broke : Bool := false
  column : Nat := 0

namespace Gap

/-- Adds a blank; blanks behind a break do not count. -/
def addBlank (g : Gap) (c : Char) : Gap :=
  if g.broke then { g with column := g.column + 1 } else { g with blanks := g.blanks ++ [c] }

/-- Adds a line break; blanks in front of the first one do not count. -/
def addBreak (g : Gap) (c : Char) : Gap :=
  if g.broke then { g with more := g.more ++ [c], column := 0 }
  else { blanks := [], first := some c, more := [], broke := true, column := 0 }

/-- The gap behind an escaped line break. -/
def escaped : Gap := { broke := true }

/-- What a gap stands for between two words. -/
def text (g : Gap) : List Char :=
  match g.first with
  | none => if g.broke then g.more else g.blanks
  | some '\n' => if g.more = [] then [' '] else g.more
  | some c => c :: g.more

/-- Takes white space from a text.  A tab behind a break fails before the column `limit`. -/
def take (limit : Nat) : Gap → List Char → Option (Gap × List Char)
  | g, '\r' :: '\n' :: r => take limit (g.addBreak '\n') r
  | g, c :: r =>
    if isGap c then
      if g.broke && c == '\t' && g.column < limit then none else take limit (g.addBlank c) r
    else if isBreak c then take limit (g.addBreak (breakChar c)) r
    else some (g, c :: r)
  | g, [] => some (g, [])

end Gap

/-! ## Plain scalars -/

/-- The characters that end a plain scalar inside brackets. -/
def endsFlow (c : Char) : Bool := c == ',' || c == '[' || c == ']' || c == '\x7b' || c == '\x7d'

/-- A run of a plain scalar up to white space or an indicator.  Inside brackets, a colon in front of
an indicator fails. -/
def plainRun (flow : Bool) : List Char → Option (List Char × List Char)
  | [] => some ([], [])
  | c :: r =>
    let before (p : Char → Bool) : Bool := r.head?.any p
    if isGap c || isBreak c then some ([], c :: r)
    else if flow && c == ':' && before (fun d => endsFlow d || d == '?') then none
    else if (c == ':' && endsWord r) || (flow && endsFlow c) then some ([], c :: r)
    else (plainRun flow r).map fun (run, rest) => (c :: run, rest)

/-- A plain scalar: its text, whether a line break follows it, and the rest.  `gap` is the white
space in front, and `indent` the column that its lines have to reach outside brackets. -/
def plainText (flow : Bool) (indent : Nat) :
    Nat → Gap → List Char → Option (List Char × Bool × List Char)
  | 0, _, _ => none
  | fuel + 1, gap, s =>
    if (gap.broke && gap.column == 0 && isDocumentMark s) || s.head? == some '#' then
      some ([], gap.broke, s)
    else do
      let (run, rest) ← plainRun flow s
      let front := if run = [] then [] else gap.text ++ run
      let open' := if run = [] then gap.broke else false
      if !rest.head?.any (fun c => isGap c || isBreak c) then return (front, open', rest)
      let (gap', rest') ← Gap.take indent {} rest
      if !flow && gap'.broke && gap'.column < indent then return (front, gap'.broke, rest')
      let (text, broke, rest) ← plainText flow indent fuel gap' rest'
      return (front ++ text, broke, rest)

/-! ## Quoted scalars -/

/-- A run between single quotes up to white space or the closing quote. -/
def singleRun : List Char → List Char × List Char
  | '\'' :: '\'' :: r => ('\'' :: (singleRun r).1, (singleRun r).2)
  | '\'' :: r => ([], '\'' :: r)
  | c :: r =>
    if isGap c || isBreak c then ([], c :: r) else (c :: (singleRun r).1, (singleRun r).2)
  | [] => ([], [])

/-- The character that an escape of one letter stands for. -/
def escape? : Char → Option Char
  | '0' => some '\x00'
  | 'a' => some '\x07'
  | 'b' => some '\x08'
  | 't' => some '\t'
  | '\t' => some '\t'
  | 'n' => some '\n'
  | 'v' => some '\x0B'
  | 'f' => some '\x0C'
  | 'r' => some '\r'
  | 'e' => some '\x1B'
  | ' ' => some ' '
  | '"' => some '"'
  | '/' => some '/'
  | '\\' => some '\\'
  | 'N' => some '\x85'
  | '_' => some '\xA0'
  | 'L' => some '\u2028'
  | 'P' => some '\u2029'
  | _ => none

/-- The number of hexadecimal digits behind the letter of an escape. -/
def escapeDigits? : Char → Option Nat
  | 'x' => some 2
  | 'u' => some 4
  | 'U' => some 8
  | _ => none

/-- The character of an escape behind its backslash, and what follows. -/
def escapeAt : List Char → Option (Char × List Char)
  | [] => none
  | c :: r =>
    match escapeDigits? c with
    | some n => if r.length < n then none else (Text.charOfHex? (r.take n)).map (·, r.drop n)
    | none => (escape? c).map (·, r)

/-- A run between double quotes up to white space, the closing quote or an escaped line break; the
flag tells of the last. -/
def doubleRun : Nat → List Char → Option (List Char × Bool × List Char)
  | 0, _ => none
  | _, [] => some ([], false, [])
  | _, '"' :: r => some ([], false, '"' :: r)
  | fuel + 1, '\\' :: r =>
    match takeBreak r with
    | some (_, rest) => some ([], true, rest)
    | none => do
      let (c, rest) ← escapeAt r
      let (run, escaped, rest) ← doubleRun fuel rest
      return (c :: run, escaped, rest)
  | fuel + 1, c :: r =>
    if isGap c || isBreak c then some ([], false, c :: r)
    else (doubleRun fuel r).map fun (run, escaped, rest) => (c :: run, escaped, rest)

/-- The text of a quoted scalar behind its opening quote, and what follows its closing quote.
`lineStart` is set at the start of a line. -/
def quotedText (single : Bool) : Nat → Bool → List Char → Option (List Char × List Char)
  | 0, _, _ => none
  | fuel + 1, lineStart, s => do
    if (lineStart && isDocumentMark s) || s = [] then none
    let (run, escaped, rest) ←
      if single then some ((singleRun s).1, false, (singleRun s).2) else doubleRun (s.length + 1) s
    let quote := if single then '\'' else '"'
    if rest.head? = some quote then return (run, rest.tail)
    let (gap, rest) ← Gap.take 0 (if escaped then .escaped else {}) rest
    let (text, rest) ← quotedText single fuel (gap.broke && gap.column == 0) rest
    return (run ++ gap.text ++ text, rest)

/-! ## Block scalars -/

/-- What happens to the line breaks at the end of a block scalar. -/
inductive Chomp where
  | clip
  | strip
  | keep
  deriving DecidableEq

/-- The indicator of chomping at the front of a text. -/
def takeChomp : List Char → Option (Chomp × List Char)
  | '+' :: r => some (.keep, r)
  | '-' :: r => some (.strip, r)
  | _ => none

/-- The indicator of indentation at the front of a text, and what follows; zero is none. -/
def takeDigit : List Char → Option (Option Nat × List Char)
  | c :: r =>
    if c == '0' then none else if c.isDigit then some (some (c.toNat - 48), r)
    else some (none, c :: r)
  | [] => some (none, [])

/-- The indicators of a block scalar in either order. -/
def blockIndicators (s : List Char) : Option (Chomp × Option Nat × List Char) :=
  match takeChomp s with
  | some (chomp, r) => (takeDigit r).map fun (digit, r) => (chomp, digit, r)
  | none => do
    let (digit, r) ← takeDigit s
    match digit, takeChomp r with
    | some n, some (chomp, r) => return (chomp, some n, r)
    | digit, _ => return (.clip, digit, r)

/-- The rest of a line that holds nothing but a comment. -/
def skipComment (s : List Char) : Option (List Char) :=
  let s := s.dropWhile isGap
  let s := if s.head? = some '#' then s.dropWhile (fun c => !isBreak c) else s
  match s with
  | [] => some []
  | s => (takeBreak s).map (·.2)

/-- The empty lines in front of a line of a block scalar. -/
structure Margin where
  breaks : List Char := []
  widest : Nat := 0
  column : Nat := 0

/-- Takes indentation up to `indent`, or any if that is not yet known, and empty lines. -/
def Margin.take (indent : Option Nat) : Margin → List Char → Option (Margin × List Char)
  | m, '\r' :: '\n' :: r =>
    take indent ⟨m.breaks ++ ['\n'], max m.widest m.column, 0⟩ r
  | m, c :: r =>
    let within := indent.all (m.column < ·)
    if c == ' ' && within then take indent { m with column := m.column + 1 } r
    else if c == '\t' && within then none
    else if isBreak c then
      take indent ⟨m.breaks ++ [breakChar c], max m.widest m.column, 0⟩ r
    else some ({ m with widest := max m.widest m.column }, c :: r)
  | m, [] => some ({ m with widest := max m.widest m.column }, [])

/-- What is still to be joined to the text of a block scalar: the break that ended the last line,
the empty lines behind it, and whether that line began with a blank. -/
structure Pending where
  last : List Char := []
  breaks : List Char := []
  afterBlank : Bool := false

/-- The lines of a block scalar that are indented by `indent`. -/
def blockLines (folded : Bool) (indent : Nat) :
    Nat → Pending → Nat → List Char → Option (List Char × Pending × List Char)
  | 0, _, _, _ => none
  | fuel + 1, p, column, s =>
    if column ≠ indent ∨ s = [] then some ([], p, s)
    else do
      let blank := s.head?.any isGap
      let joined :=
        if folded && p.last == ['\n'] && !p.afterBlank && !blank then
          (if p.breaks = [] then [' '] else [])
        else p.last
      let line := s.takeWhile fun c => !isBreak c
      let rest := s.drop line.length
      let (last, rest) := match takeBreak rest with
        | some (c, r) => ([c], r)
        | none => ([], rest)
      let (margin, rest) ← Margin.take (some indent) {} rest
      let (text, p', rest) ←
        blockLines folded indent fuel ⟨last, margin.breaks, blank⟩ margin.column rest
      return (joined ++ p.breaks ++ line ++ text, p', rest)

/-- The text of a block scalar behind its first character, and what follows; `parent` is the
indentation of what holds it. -/
def blockText (folded : Bool) (parent : Int) (s : List Char) :
    Option (List Char × List Char) := do
  let (chomp, digit, rest) ← blockIndicators s
  let rest ← skipComment rest
  let known := digit.map fun n => n + (max 0 parent).toNat
  let (margin, rest) ← Margin.take known {} rest
  let indent := known.getD (max (max margin.widest (parent + 1).toNat) 1)
  let (text, p, rest) ←
    blockLines folded indent (rest.length + 2) ⟨[], margin.breaks, false⟩ margin.column rest
  let ending := match chomp with
    | .strip => []
    | .clip => p.last
    | .keep => p.last ++ p.breaks
  return (text ++ ending, rest)

end HamlServer.Yaml
