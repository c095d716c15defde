import HamlServer.Config.LintConfig
import HamlServer.Editor.Manifest
import HamlServer.Editor.Notice
import HamlServer.Editor.Request
import HamlServer.Locate.Definition
import HamlServer.Session.State
import HamlServer.Suggest.Completion
import HamlServer.Text.Cursor
import HamlServer.Url.FileUrl

/-!
What a session does for each request.

A handler gives the state afterwards, what was done on the way in its order, and for a request that
is answered the result.
-/

namespace HamlServer

/-- What became of a request. -/
structure Handled where
  session : Session
  effects : List Effect := []
  result : Option Json := none

namespace Session

/-- A message to the editor as an effect. -/
def tell (m : Outgoing) : Effect := .write m

/-! ## The start -/

/-- The root of the project: the one that the options name, or else the one that the editor names,
by its URL rather than by its path. -/
def rootOf (o : Options) (rootUri rootPath : Option String) : Option Path :=
  o.root.or ((rootUri.bind Url.toPath?).or (rootPath.map Path.ofString))

/-- Opens the project. -/
def setup (s : Session) (o : Options) (w : World) (rootUri rootPath : Option String) : Handled :=
  let root := rootOf o rootUri rootPath
  let config := LintConfig.discover w.files root o.cwd
  { session := { s with opened := some ⟨{ root }, ⟨config, root⟩⟩ }
    result := some Manifest.toJson }

/-- Loads the routes of the project, and tells which tool was asked. -/
def loadRoutes (s : Session) (w : World) (p : Project) : Session × Project × List Effect :=
  let (p, fetched) := p.load w.files w.tools.listing
  (s.withProject p, p, (fetched.map fun root => Effect.call (.listing root)).toList)

/-- Loads the routes of a Rails project while the editor shows the progress. -/
def ready (s : Session) (w : World) (p : Project) : Handled :=
  let p := p.classify w.files
  let s := s.withProject p
  if p.isRails then
    let n := s.tasks + 1
    let (s, p, calls) := loadRoutes { s with tasks := n } w p
    let count := p.routes.size
    { session := s
      effects := [tell (Notice.createProgress n),
        tell (Notice.progressBegin n "Loading Rails routes")] ++ calls ++
        [tell (Notice.progressReport n s!"{count} routes loaded" 100),
          tell (Notice.progressEnd n),
          tell (Notice.log .info s!"Loaded {count} Rails routes")] }
  else { session := s }

/-! ## Documents -/

/-- The findings of a document, and the call that they come from; an empty document has none. -/
def findings (w : World) (k : Corrector) (uri content : String) :
    List Diagnostic × List Effect :=
  if content.isEmpty then ([], [])
  else
    let job := k.job (Url.documentPath uri) content
    let found := match w.tools.findings job with
      | .ok ds => ds
      | .error _ => []
    (found, [.call (.findings job)])

/-- Takes the new text of a document, and tells the findings where that is asked for. -/
def sync (s : Session) (o : Options) (w : World) (k : Corrector) (uri : String) :
    Option String → Handled
  | none => { session := s }
  | some content =>
    let s := s.store w uri content
    if o.lintEnabled then
      let (found, calls) := findings w k uri content
      { session := { s with documents := (s.documents.setDiagnostics uri found).1 }
        effects := calls ++ [tell (Notice.diagnostics uri found)] }
    else { session := s }

/-- Closes a document; its findings go. -/
def close (s : Session) (o : Options) (uri : String) : Handled where
  session := { s with documents := s.documents.delete uri }
  effects := if o.lintEnabled then [tell (Notice.diagnostics uri [])] else []

/-! ## Editing -/

/-- The text of a document as the corrector leaves it, and the call of the external linter. -/
def corrected (w : World) (k : Corrector) (uri content : String) : String × Effect :=
  let path := Url.documentPath uri
  (k.correct w.tools path content, .call (.correction (k.correctionJob path content)))

/-- Formats a document: one edit that replaces all of it; nothing for an empty or unknown one. -/
def format (s : Session) (w : World) (k : Corrector) (uri : String) : Handled :=
  let (s, found) := s.document w uri
  match found.filter (!·.content.isEmpty) with
  | none => { session := s, result := some .null }
  | some d =>
    let (text, call) := corrected w k uri d.content
    let edit : TextEdit := ⟨Text.fullRange d.content.toList, text⟩
    { session := s, effects := [call], result := some (.array [edit.toJson]) }

/-- Offers the actions for a range of an open document. -/
def offer (s : Session) (o : Options) (w : World) (uri : String) (range : Range)
    (diagnostics : List Diagnostic) : Handled :=
  let (s, found) := s.document w uri
  let actions := match found with
    | none => []
    | some _ => CodeAction.offers o.lintEnabled uri range diagnostics
  { session := s, result := some (.array (actions.map CodeAction.toJson)) }

/-- The conversion of a selection, if it is not blank and the converter succeeds, and the call of
the converter. -/
def converted (w : World) (content : String) (range : Range) : Option String × List Effect :=
  let selected := Text.slice content.toList range
  if Text.isBlankText selected then (none, [])
  else
    let source := String.ofList selected
    (match w.tools.conversion source with
      | .ok text => some text
      | .error _ => none, [.call (.conversion source)])

/-- Attaches its edit to an action; one that cannot be resolved stays as it is. -/
def resolve (s : Session) (w : World) (k : Corrector) (a : CodeAction) : Handled :=
  match a.target with
  | none => { session := s, result := some a.toJson }
  | some target =>
    let uri := target.uri
    let (s, found) := s.document w uri
    match found, a.actionKind, target.range with
    | some d, some .fixAll, _ =>
      let (text, call) := corrected w k uri d.content
      { session := s
        effects := [call, tell (Notice.log .info s!"Autocorrected code action for {uri}")]
        result := some (a.withDocumentEdit uri d.content text).toJson }
    | some d, some .convert, some range =>
      let (text, calls) := converted w d.content range
      let a := match text with
        | some text => a.withRangeEdit uri range text
        | none => a
      { session := s, effects := calls, result := some a.toJson }
    | _, _, _ => { session := s, result := some a.toJson }

/-! ## Completion and navigation -/

/-- The workspace as completion and navigation see it, once the routes are loaded. -/
def look (s : Session) (w : World) (p : Project) : Session × Workspace × List Effect :=
  let p := p.classify w.files
  let (s, p, calls) := loadRoutes s w p
  (s, ⟨w.files, p.root, p.isRails, some p.routes⟩, calls)

/-- The candidates at a position. -/
def complete (s : Session) (w : World) (p : Project) (uri : String) (position : Position) :
    Handled :=
  let (s, found) := s.document w uri
  match found.bind fun d => Text.linePrefix d.content.toList position with
  | none => { session := s, result := some (.array []) }
  | some line =>
    let (s, workspace, calls) := s.look w p
    let items := workspace.complete (Url.documentPath uri) line
    { session := s, effects := calls, result := some (.array (items.map CompletionItem.toJson)) }

/-- The line at a position, and the word that the position touches. -/
def lineAndWord? (content : List Char) (p : Position) : Option (List Char × List Char) := do
  return (← Text.lineAt content p.line, ← Text.wordAt content p)

/-- The places that the text at a position leads to; nothing when there are none. -/
def define (s : Session) (w : World) (p : Project) (uri : String) (position : Position) : Handled :=
  let (s, found) := s.document w uri
  match found.bind fun d => lineAndWord? d.content.toList position with
  | none => { session := s, result := some .null }
  | some (line, word) =>
    let (s, workspace, calls) := s.look w p
    let places := workspace.definitions (Url.documentPath uri) line word
    let result := if places.isEmpty then .null else .array (places.map Location.toJson)
    { session := s, effects := calls, result := some result }

end Session

end HamlServer
