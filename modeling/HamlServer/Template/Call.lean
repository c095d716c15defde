import HamlServer.Text.Line
import HamlServer.Text.Word

/-!
Calls of helpers in a line of a template.

A helper is called by its name, perhaps an opening parenthesis, and its first argument.  White space
may stand between these parts.
-/

namespace HamlServer.Template

open Text

/-- One of two quotes. -/
def isQuote (c : Char) : Bool := c == '"' || c == '\''

/-- A text behind white space, one opening parenthesis, and white space again. -/
def skipOpening (s : List Char) : List Char :=
  match trimStart s with
  | '(' :: r => trimStart r
  | r => r

/-- The first of some names that a text begins with, and what follows it. -/
def nameAt? (names : List String) (s : List Char) : Option (String × List Char) :=
  names.findSome? fun n => (dropStart? n.toList s).map (n, ·)

/-- A name at the front of a text, and what follows the opening of its call. -/
def callAt? (names : List String) (s : List Char) : Option (String × List Char) :=
  (nameAt? names s).map fun (n, r) => (n, skipOpening r)

/-- A name behind an equals sign. -/
def outputAt? {α : Type} (call : List Char → Option α) : List Char → Option α
  | '=' :: r => call (trimStart r)
  | _ => none

/-- The first success of a matcher that is tried at the start of every word; `inWord` tells that a
word character comes before. -/
def findWord {α : Type} (matcher : List Char → Option α) : Bool → List Char → Option α
  | inWord, s =>
    let here := if inWord then none else matcher s
    match s with
    | [] => here
    | c :: r => here.orElse fun _ => findWord matcher (isWordChar c) r

/-- A quoted text that may not be closed yet. -/
def openText? : List Char → Option (List Char)
  | q :: r => if isQuote q then some (r.takeWhile fun c => !isQuote c) else none
  | [] => none

/-- A quoted text that is closed and not empty. -/
def closedText? : List Char → Option (List Char)
  | q :: r =>
    let text := r.takeWhile fun c => !isQuote c
    if isQuote q && !text.isEmpty && text.length < r.length then some text else none
  | [] => none

/-- A bare argument: it begins with neither a quote nor white space, and ends in front of a comma, a
closing parenthesis or white space. -/
def bareText? : List Char → Option (List Char)
  | c :: r =>
    if isQuote c || isBlank c then none
    else some (c :: r.takeWhile fun c => c != ',' && c != ')' && !isBlank c)
  | [] => none

/-- Whether some text occurs in a line. -/
def mentions (line : List Char) (words : List String) : Bool :=
  words.any fun w => contains w.toList line

end HamlServer.Template
