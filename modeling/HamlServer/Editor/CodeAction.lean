import HamlServer.Editor.Diagnostic
import HamlServer.Editor.Edit

/-!
Code actions: offered without an edit, and resolved by attaching one.

An action carries, as its data, what is needed to resolve it: the document, and for a conversion the
selected range.
-/

namespace HamlServer

/-- A code action as it travels between the server and the editor. -/
structure CodeAction where
  title : String
  kind : Option String := none
  diagnostics : Option (List Diagnostic) := none
  edit : Option WorkspaceEdit := none
  data : Option Json := none

/-- What resolving an action has to do: correct the whole document, or convert the selection. -/
inductive ActionKind where
  | fixAll
  | convert
  deriving DecidableEq, Repr

namespace ActionKind

/-- The name of a kind on the wire. -/
def name : ActionKind → String
  | .fixAll => "quickfix"
  | .convert => "refactor"

/-- The title under which an action is offered. -/
def title : ActionKind → String
  | .fixAll => "Fix All Auto-correctable Issues"
  | .convert => "Convert selected HTML/ERB to HAML"

/-- The kind with a name. -/
def ofName? (name : String) : Option ActionKind :=
  if name = ActionKind.fixAll.name then some .fixAll
  else if name = ActionKind.convert.name then some .convert
  else none

end ActionKind

/-- What an offered action is about. -/
structure ActionTarget where
  uri : String
  range : Option Range
  deriving DecidableEq, Repr

namespace ActionTarget

/-- A target as JSON. -/
def toJson (t : ActionTarget) : Json :=
  .ofOptional [("uri", some (.string t.uri)), ("range", t.range.map Range.toJson)]

/-- Reads a target. -/
def ofJson? (v : Json) : Option ActionTarget := do
  let fields ← Json.record ["uri", "range"] v
  return ⟨← Json.required Json.text fields "uri", ← Json.optional Range.ofJson? fields "range"⟩

end ActionTarget

namespace CodeAction

/-- An action as JSON; what is absent is left out. -/
def toJson (a : CodeAction) : Json :=
  .ofOptional [("title", some (.string a.title)), ("kind", a.kind.map .string),
    ("diagnostics", a.diagnostics.map fun ds => .array (ds.map Diagnostic.toJson)),
    ("edit", a.edit.map WorkspaceEdit.toJson), ("data", a.data)]

/-- The names of the fields in their order. -/
def fieldNames : List String := ["title", "kind", "diagnostics", "edit", "data"]

/-- Reads an action. -/
def ofJson? (v : Json) : Option CodeAction := do
  let fields ← Json.record fieldNames v
  return {
    title := ← Json.required Json.text fields "title"
    kind := ← Json.optional Json.text fields "kind"
    diagnostics := ← Json.optional (Json.list Diagnostic.ofJson?) fields "diagnostics"
    edit := ← Json.optional WorkspaceEdit.ofJson? fields "edit"
    data := ← Json.optional Json.any fields "data" }

/-- The kind of an action, if it is one of the server's own. -/
def actionKind (a : CodeAction) : Option ActionKind := a.kind.bind ActionKind.ofName?

/-- The target of an action, if its data names one. -/
def target (a : CodeAction) : Option ActionTarget := a.data.bind ActionTarget.ofJson?

/-- Offers to correct the document when the editor shows a finding that can be corrected. -/
def fixAll? (uri : String) (diagnostics : List Diagnostic) : Option CodeAction :=
  let fixable := Diagnostic.correctable diagnostics
  if fixable.isEmpty then none
  else some {
    title := ActionKind.fixAll.title
    kind := some ActionKind.fixAll.name
    diagnostics := some fixable
    data := some (ActionTarget.toJson ⟨uri, none⟩) }

/-- Offers to convert a selection that is not empty. -/
def convert? (uri : String) (range : Range) : Option CodeAction :=
  if range.isEmpty then none
  else some {
    title := ActionKind.convert.title
    kind := some ActionKind.convert.name
    data := some (ActionTarget.toJson ⟨uri, some range⟩) }

/-- The actions for a range of a document, given the findings shown there: none while linting is
disabled. -/
def offers (lintEnabled : Bool) (uri : String) (range : Range) (diagnostics : List Diagnostic) :
    List CodeAction :=
  if lintEnabled then (fixAll? uri diagnostics).toList ++ (convert? uri range).toList else []

/-- The action with an edit that replaces the whole of `original`. -/
def withDocumentEdit (a : CodeAction) (uri original corrected : String) : CodeAction :=
  { a with edit := some (.single uri ⟨Text.fullRange original.toList, corrected⟩) }

/-- The action with an edit that replaces a range. -/
def withRangeEdit (a : CodeAction) (uri : String) (range : Range) (text : String) : CodeAction :=
  { a with edit := some (.single uri ⟨range, text⟩) }

end CodeAction

end HamlServer
