import HamlServer.Editor.CompletionItem
import HamlServer.Rails.Partial
import HamlServer.Template.Call

/-!
Candidates for partials.

Behind the opening quote of a render call all partials are offered, the nearest first.  A candidate
closes the quote and goes on with the locals that the partial takes.
-/

namespace HamlServer.Suggest

open Text Template Rails

/-- The quote of a render call that starts a text. -/
def renderQuoteAt? (s : List Char) : Option Char := do
  let r := skipOpening (← dropStart? "render".toList s)
  let r := match dropStart? "partial:".toList r with
    | some r => trimStart r
    | none => r
  r.head?.filter isQuote

/-- Whether a text starts with the name of the argument that gives the partial. -/
def namedAt? (s : List Char) : Option Unit := do
  let r ← dropStart? "partial:".toList s
  (trimStart r).head?.filter isQuote |>.map fun _ => ()

/-- How many of the locals have no default, and how many have one. -/
def localsDetail (ls : List PartialLocal) : String :=
  if ls.isEmpty then "Partial (no locals)"
  else
    let required := (ls.filter (·.default.isNone)).length
    let optional := ls.length - required
    s!"Partial ({required} required, {optional} optional)"

/-- The line of the documentation for a local. -/
def localLine (l : PartialLocal) : String :=
  let name := l.name
  match l.default with
  | none => s!"- {name}: required\n"
  | some default => s!"- {name}: optional (default: {default})\n"

/-- The documentation of a partial. -/
def partialDocumentation (p : Partial) : String :=
  "File: " ++ p.file.display ++
    if p.locals.isEmpty then "" else "\n\nLocals:\n" ++ String.join (p.locals.map localLine)

/-- The argument for a local with a place for its value, or the whole of it as a place. -/
def localArgument (l : PartialLocal) (n : Nat) : String :=
  match l.default with
  | none => l.name ++ ": $\x7b" ++ toString n ++ ":value\x7d"
  | some default => "$\x7b" ++ toString n ++ ":" ++ l.name ++ ": " ++ default ++ "\x7d"

/-- The snippet for a partial; the opening quote is on the line already.  Where the partial is given
by a named argument, the locals are too. -/
def partialSnippet (quote : Char) (named : Bool) (p : Partial) : String :=
  let name := p.name.push quote
  if p.locals.isEmpty then name
  else
    let arguments := ", ".intercalate (p.locals.zipIdx.map fun (l, i) => localArgument l (i + 1))
    if named then name ++ ", locals: \x7b " ++ arguments ++ " \x7d" else name ++ ", " ++ arguments

/-- A number with at least three digits. -/
def threeDigits (n : Nat) : String :=
  let s := toString n
  String.ofList (List.replicate (3 - s.length) '0') ++ s

/-- The candidate for a partial at a distance from the document. -/
def partialItem (quote : Char) (named : Bool) (distance : Nat) (p : Partial) : CompletionItem where
  label := p.name
  kind := .file
  detail := some (localsDetail p.locals)
  documentation := some (partialDocumentation p)
  insertion := some (.snippet (partialSnippet quote named p))
  filterText := some p.name
  sortText := some (threeDigits distance ++ "_" ++ p.name)

/-- Selects the first candidate beforehand. -/
def preselectFirst : List CompletionItem → List CompletionItem
  | [] => []
  | i :: rest => { i with preselect := true } :: rest

/-- The order of candidates by their sort texts. -/
def sortLe (a b : CompletionItem) : Bool := !decide (b.sortText.getD "" < a.sortText.getD "")

/-- The partials, behind the opening quote of a render call. -/
def partialItems (d : Directory) (views document : Path) (line : List Char) :
    List CompletionItem :=
  match findMatch renderQuoteAt? line with
  | none => []
  | some quote =>
    let named := (findMatch namedAt? line).isSome
    let item (p : Partial) : CompletionItem :=
      partialItem quote named (document.directory.distance p.directory) p
    preselectFirst (((partials d views).map item).mergeSort sortLe)

end HamlServer.Suggest
