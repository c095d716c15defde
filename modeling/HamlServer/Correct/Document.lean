import HamlServer.Correct.Line

/-!
Corrections of whole documents.

A document is trimmed and its tabs are spread; then each line is corrected, and last the end of the
document.  Lines inside a filter block, such as an embedded script, only lose the white space at
their end.  A filter block goes on until a line that is not blank and not indented deeper than the
line that opens it.
-/

namespace HamlServer.Correct

open Text

/-- A document without white space around it, and with two spaces for each tab. -/
def sanitize (s : List Char) : List Char :=
  (trim s).flatMap fun c => if c = '\t' then [' ', ' '] else [c]

/-- The number of octets of the white space in front of a line. -/
def depth (line : List Char) : Nat := Utf8.size (leading line)

/-- Whether a line opens a filter block: a colon and a word, and nothing else. -/
def isFilterLine (line : List Char) : Bool :=
  match trimStart line with
  | ':' :: name => name != [] && name.all isWordChar
  | _ => false

/-- The filter block that a line lies in, by the depth of its opening line: the block around the
line before, unless this line ends it. -/
def stillOpen (block : Option Nat) (line : List Char) : Option Nat :=
  block.filter fun d => isBlankText line || d < depth line

/-- The filter block that is open behind a line, given the one that the line lies in. -/
def openedBy (block : Option Nat) (line : List Char) : Option Nat :=
  match block with
  | some d => some d
  | none => if isFilterLine line then some (depth line) else none

/-- Applies the enabled corrections to a line; inside a filter block only the first of them. -/
def fixLine (c : LintConfig) (inFilter : Bool) (line : List Char) : List Char :=
  LineRule.all.foldl (fun line rule =>
    if (inFilter && rule != .trailingWhitespace) || !c.isEnabled rule.name then line
    else rule.fix c line) line

/-- Corrects lines one after the other; `block` is the filter block open in front of them. -/
def fixLines (c : LintConfig) : Option Nat → List (List Char) → List (List Char)
  | _, [] => []
  | block, line :: rest =>
    let block := stillOpen block line
    fixLine c block.isSome line :: fixLines c (openedBy block line) rest

/-- A document with a line feed at its end. -/
def withFinalNewline (s : List Char) : List Char :=
  if s.getLast? = some '\n' then s else s ++ ['\n']

/-- Corrects the end of a document: empty lines at the end go, and then a line feed is added, or all
white space removed. -/
def fixEnd (c : LintConfig) (s : List Char) : List Char :=
  let s := if c.isEnabled "TrailingEmptyLines" then trimEnd s else s
  if c.isEnabled "FinalNewline" then
    if (c.bool? "FinalNewline" "present").getD true then withFinalNewline s else trimEnd s
  else s

/-- Corrects a document. -/
def correct (c : LintConfig) (s : List Char) : List Char :=
  fixEnd c (joinLines (fixLines c none (docLines (sanitize s))))

/-- `correct` on strings. -/
def correctString (c : LintConfig) (s : String) : String := String.ofList (correct c s.toList)

end HamlServer.Correct
