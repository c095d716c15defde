import HamlServer.Files.Scan
import HamlServer.Text.Line

/-!
Partials: templates that other templates render.

A partial is a file whose name starts with an underscore.  It is rendered by its path under the
views without the underscore and the endings.  A comment near its top may declare the locals that it
takes.
-/

namespace HamlServer.Rails

open Text

/-- A local that a partial takes, with its default if it has one. -/
structure PartialLocal where
  name : String
  default : Option String
  deriving DecidableEq, Repr

/-- A partial: the name it is rendered by, its file, and its locals. -/
structure Partial where
  name : String
  file : Path
  directory : Path
  locals : List PartialLocal

/-- The name that renders the partial in a file, by the path of the file under the views; other
files have none. -/
def renderName? (relative : List Char) : Option (List Char) := do
  let (dir, file) := match cutAtLast '/' relative with
    | some (dir, file) => (some dir, file)
    | none => (none, relative)
  let stem ← dropEnd? ".haml".toList (← dropStart? ['_'] file)
  let stem := (dropEnd? ".html".toList stem).getD stem
  if stem.isEmpty then none
  return match dir with
    | some dir => dir ++ '/' :: stem
    | none => stem

/-- A local as it is declared: its name, and behind a colon its default. -/
def parseLocal? (s : List Char) : Option PartialLocal :=
  let s := trim s
  let (name, default) := match cutAt ':' s with
    | some (name, default) => (trim name, trim default)
    | none => (s, [])
  if name.isEmpty then none
  else some ⟨String.ofList name, if default.isEmpty then none else some (String.ofList default)⟩

/-- The declaration of locals at the front of a line and of those after it: what stands in its
parentheses, which is not empty and holds no closing one. -/
def localsAt? (s : List Char) : Option (List Char) := do
  let r ← dropStart? "-#".toList s
  let r ← dropStart? "locals:".toList (trimStart r)
  let r ← dropStart? ['('] (trimStart r)
  let inner := r.takeWhile (· != ')')
  if inner.isEmpty || inner.length == r.length then none else some inner

/-- The first success of a matcher that is tried at the front of every line, with the lines after
it. -/
def findLine {α : Type} (matcher : List Char → Option α) : List (List Char) → Option α
  | [] => none
  | line :: rest => (matcher (joinLines (line :: rest))).orElse fun _ => findLine matcher rest

/-- The locals that the first lines of a partial declare. -/
def parseLocals (header : List (List Char)) : List PartialLocal :=
  match findLine localsAt? header with
  | none => []
  | some inner => (inner.splitOn ',').filterMap parseLocal?

/-- The number of lines that may hold the declaration. -/
def headerLines : Nat := 5

/-- The locals of a partial with the given content; octets that spell no text declare none. -/
def localsOf (content : Bytes) : List PartialLocal :=
  match Utf8.decode? content with
  | none => []
  | some text => parseLocals ((lines text.toList).take headerLines)

/-- The partial that a file under the views is, if it is one. -/
def partialOf? (f : Scanned) : Option Partial :=
  (renderName? f.relative).map fun name =>
    ⟨String.ofList name, f.path, f.directory, localsOf f.content⟩

/-- The partials under the views, in the order of their paths. -/
def partials (d : Directory) (views : Path) : List Partial :=
  (d.filesUnder views true).filterMap partialOf?

end HamlServer.Rails
