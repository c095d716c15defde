import HamlServer.Config.LintConfig
import HamlServer.Text.Line
import HamlServer.Text.Word

/-!
Corrections of single lines.

Each correction is a function of a line and of the options of its linter, and leaves a line alone
that it does not recognise.  A line is looked at in parts that are determined from the left: its
indentation, the segments or the indicator behind it, and the rest.

* `leading_append_trimStart` (in `Text.Blank`) is what all of them rest on: the parts make up the
  line.
-/

namespace HamlServer.Correct

open Text

/-- A line without the white space at its end. -/
def trimLine (line : List Char) : List Char := trimEnd line

/-! ## Segments of a tag -/

/-- A segment that starts with a mark and has a name, and what follows. -/
def segment? (mark : Char) : List Char → Option (List Char × List Char)
  | c :: r =>
    let name := r.takeWhile isNameChar
    if c = mark ∧ name ≠ [] then some (c :: name, r.drop name.length) else none
  | [] => none

/-- The class and the id at the front of a text, in either order, and what follows. -/
def classAndId? (s : List Char) : Option (List Char × List Char × List Char) :=
  let pair (a b : Char) : Option (List Char × List Char × List Char) := do
    let (first, r) ← segment? a s
    let (second, r) ← segment? b r
    return (first, second, r)
  match pair '#' '.' with
  | some (id, cls, r) => some (cls, id, r)
  | none => pair '.' '#'

/-- Puts a class and an id at the front of a line into the order that the style asks for. -/
def orderSegments (style : String) (line : List Char) : List Char :=
  match classAndId? (trimStart line) with
  | none => line
  | some (cls, id, rest) =>
    leading line ++ (if style = "class" then cls ++ id else id ++ cls) ++ rest

/-! ## Script and comments -/

/-- Puts one space between the mark of a script line and its code.  Comments and interpolated text,
whose marks have a second character, are left alone, and so is a single octet of white space. -/
def spaceScript (line : List Char) : List Char :=
  match trimStart line with
  | mark :: r =>
    let gap := leading r
    let code := trimStart r
    if (mark ≠ '-' ∧ mark ≠ '=') ∨ code = [] then line
    else if Utf8.size gap = 1 then line
    else if gap = [] ∧ (code.head? = some '#' ∨ (mark = '=' ∧ code.head? = some '=')) then line
    else leading line ++ mark :: ' ' :: code
  | [] => line

/-- Puts one space between the mark of a comment and its text. -/
def spaceComment (line : List Char) : List Char :=
  match trimStart line with
  | '-' :: '#' :: r =>
    let text := trimStart r
    leading line ++ '-' :: '#' :: (if text = [] then [] else ' ' :: text)
  | _ => line

/-! ## Attributes -/

/-- The segments at the front of a text, up to what is none; there may be no segment. -/
def segments : Nat → List Char → List Char × List Char
  | 0, s => ([], s)
  | fuel + 1, s =>
    match (segment? '.' s).or ((segment? '#' s).or (segment? '%' s)) with
    | some (seg, r) => (seg ++ (segments fuel r).1, (segments fuel r).2)
    | none => ([], s)

/-- A parenthesis around a text without parentheses, and what follows it. -/
def parenthesized? : List Char → Option (List Char × List Char)
  | '(' :: r =>
    let inner := r.takeWhile fun c => c != '(' && c != ')'
    match r.drop inner.length with
    | ')' :: rest => some (inner, rest)
    | _ => none
  | _ => none

/-- The value of an attribute: quoted in one of two ways, or bare. -/
inductive AttributeValue where
  | double (text : List Char)
  | single (text : List Char)
  | bare (text : List Char)
  deriving DecidableEq, Repr

namespace AttributeValue

/-- A text up to the next quote, and what follows the quote. -/
def untilQuote? (quote : Char) (s : List Char) : Option (List Char × List Char) := cutAt quote s

/-- The value at the front of a text, and what follows.  A quote that is not closed starts none. -/
def read (s : List Char) : AttributeValue × List Char :=
  let bareValue :=
    let text := s.takeWhile fun c => c != '"' && c != '\'' && !isBlank c
    (AttributeValue.bare text, s.drop text.length)
  match s with
  | '"' :: r => match untilQuote? '"' r with
    | some (text, rest) => (.double text, rest)
    | none => bareValue
  | '\'' :: r => match untilQuote? '\'' r with
    | some (text, rest) => (.single text, rest)
    | none => bareValue
  | _ => bareValue

/-- A value as it stands in a hash.  Interpolation works only between double quotes, and any other
quoted text goes between single ones. -/
def toHash : AttributeValue → List Char
  | .double text =>
    if contains ['#', '\x7b'] text then '"' :: text ++ ['"'] else '\'' :: text ++ ['\'']
  | .single text => '\'' :: text ++ ['\'']
  | .bare text => text

end AttributeValue

/-- The names and values of the attributes in a text.  A name starts with a word character; one
without an equals sign behind it does not count. -/
def attributes : Nat → List Char → List (List Char × AttributeValue)
  | 0, _ => []
  | fuel + 1, s =>
    match s.dropWhile (fun c => !isWordChar c) with
    | [] => []
    | s =>
      let name := s.takeWhile isNameChar
      match s.drop name.length with
      | '=' :: r => (name, (AttributeValue.read r).1) :: attributes fuel (AttributeValue.read r).2
      | r => attributes fuel r

/-- An attribute as it stands in a hash; a name with a hyphen is quoted. -/
def attributeToHash (a : List Char × AttributeValue) : List Char :=
  (if '-' ∈ a.1 then '\'' :: a.1 ++ ['\''] else a.1) ++ ':' :: ' ' :: a.2.toHash

/-- Attributes as a hash. -/
def toHash (as : List (List Char × AttributeValue)) : List Char :=
  '\x7b' :: List.intercalate [',', ' '] (as.map attributeToHash) ++ ['\x7d']

/-- Writes the attributes in the parenthesis behind a tag as a hash. -/
def hashAttributes (line : List Char) : List Char :=
  let (tag, r) := segments line.length (trimStart line)
  if tag = [] then line
  else match parenthesized? r with
    | none => line
    | some (inner, rest) =>
      match attributes inner.length inner with
      | [] => line
      | as => leading line ++ tag ++ toHash as ++ rest

/-! ## Indentation -/

/-- Spaces and tabs. -/
def isIndent (c : Char) : Bool := c == ' ' || c == '\t'

/-- The number of columns of an indentation, a tab counting as `width`. -/
def columns (width : Nat) : List Char → Nat
  | [] => 0
  | c :: r => (if c = '\t' then width else 1) + columns width r

/-- An indentation of so many steps.  To build the unit first, all spaces of one step, takes memory
for the whole width, and of a huge one more than there is, even where no step is left; here the unit
is not built. -/
def indentOf (width : Nat) (spaces : Bool) (steps : Nat) : List Char :=
  if spaces then List.replicate (steps * width) ' ' else List.replicate steps '\t'

/-- Brings the indentation of a line to whole steps, rounding down. -/
def normalizeIndent (width : Nat) (spaces : Bool) (line : List Char) : List Char :=
  let indent := line.takeWhile isIndent
  if indent = [] then line
  else indentOf width spaces (columns width indent / width) ++ line.drop indent.length

/-- The configured width of a step; zero counts as not given. -/
def indentWidth (c : LintConfig) : Nat :=
  match c.nat? "Indentation" "width" with
  | none | some 0 => 2
  | some w => w

/-- Whether steps are made of spaces. -/
def usesSpaces (c : LintConfig) : Bool :=
  ((c.string? "Indentation" "character").getD "space") == "space"

/-! ## The corrections by name -/

/-- The linters that correct single lines. -/
inductive LineRule where
  | trailingWhitespace
  | classesBeforeIds
  | spaceBeforeScript
  | leadingCommentSpace
  | htmlAttributes
  | indentation
  deriving DecidableEq, Repr

namespace LineRule

/-- All of them, in the order in which they are applied. -/
def all : List LineRule := [.trailingWhitespace, .classesBeforeIds, .spaceBeforeScript,
  .leadingCommentSpace, .htmlAttributes, .indentation]

/-- The name of the linter. -/
def name : LineRule → String
  | .trailingWhitespace => "TrailingWhitespace"
  | .classesBeforeIds => "ClassesBeforeIds"
  | .spaceBeforeScript => "SpaceBeforeScript"
  | .leadingCommentSpace => "LeadingCommentSpace"
  | .htmlAttributes => "HtmlAttributes"
  | .indentation => "Indentation"

/-- The correction of a line. -/
def fix (c : LintConfig) : LineRule → List Char → List Char
  | .trailingWhitespace, line => trimLine line
  | .classesBeforeIds, line =>
    orderSegments ((c.string? "ClassesBeforeIds" "EnforcedStyle").getD "class") line
  | .spaceBeforeScript, line => spaceScript line
  | .leadingCommentSpace, line => spaceComment line
  | .htmlAttributes, line => hashAttributes line
  | .indentation, line => normalizeIndent (indentWidth c) (usesSpaces c) line

end LineRule

end HamlServer.Correct
