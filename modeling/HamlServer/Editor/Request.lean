import HamlServer.Editor.CodeAction
import HamlServer.Editor.Message

/-!
Requests: what the editor asks for, with its parameters read.

`Request.read?` gives each method its parameters; it fails when they do not have the shape that the
method needs, and never for a method without parameters.
-/

namespace HamlServer

/-- What a message asks the server to do. -/
inductive Request where
  | setup (rootUri rootPath : Option String)
  | ready
  | opened (uri : String) (text : Option String)
  | changed (uri : String) (text : Option String)
  | saved (uri : String) (text : Option String)
  | closed (uri : String)
  | format (uri : String)
  | complete (uri : String) (position : Position)
  | define (uri : String) (position : Position)
  | actions (uri : String) (range : Range) (diagnostics : List Diagnostic)
  | resolve (action : CodeAction)
  | shutdown
  | exit
  | unknown

namespace Request

/-- Reads the identifier of a document. -/
def documentUri? (v : Json) : Option String := do
  Json.required Json.text (← Json.record ["uri"] v) "uri"

/-- Reads a document with its text. -/
def document? (v : Json) : Option (String × Option String) := do
  let fields ← Json.record ["uri", "text"] v
  return (← Json.required Json.text fields "uri", ← Json.optional Json.text fields "text")

/-- Reads the new text of a changed document. -/
def change? (v : Json) : Option String := do
  Json.required Json.text (← Json.record ["text"] v) "text"

/-- Reads the findings that the editor shows; those of another shape are passed over. -/
def context? (v : Json) : Option (List Diagnostic) := do
  let fields ← Json.record ["diagnostics"] v
  let found ← Json.defaulted [] (Json.list Json.any) fields "diagnostics"
  return found.filterMap Diagnostic.ofJson?

/-- Reads a document and a position in it. -/
def place? (v : Json) : Option (String × Position) := do
  let fields ← Json.record ["textDocument", "position"] v
  return (← Json.required documentUri? fields "textDocument",
    ← Json.required Position.ofJson? fields "position")

/-- Reads the parameters of a document. -/
def ofDocument? (v : Json) : Option String := do
  Json.required documentUri? (← Json.record ["textDocument"] v) "textDocument"

/-- Reads the parameters of a method. -/
def read? (method : Method) (params : Json) : Option Request :=
  match method with
  | .setup => do
    let fields ← Json.record ["rootUri", "rootPath"] params
    return .setup (← Json.optional Json.text fields "rootUri")
      (← Json.optional Json.text fields "rootPath")
  | .ready => some .ready
  | .didOpen => do
    let fields ← Json.record ["textDocument"] params
    let (uri, text) ← Json.required document? fields "textDocument"
    return .opened uri text
  | .didChange => do
    let fields ← Json.record ["textDocument", "contentChanges"] params
    let uri ← Json.required documentUri? fields "textDocument"
    let changes ← Json.defaulted [] (Json.list change?) fields "contentChanges"
    return .changed uri changes.getLast?
  | .didSave => do
    let fields ← Json.record ["textDocument", "text"] params
    return .saved (← Json.required documentUri? fields "textDocument")
      (← Json.optional Json.text fields "text")
  | .didClose => (ofDocument? params).map .closed
  | .formatting => (ofDocument? params).map .format
  | .completion => (place? params).map fun (uri, position) => .complete uri position
  | .definition => (place? params).map fun (uri, position) => .define uri position
  | .codeAction => do
    let fields ← Json.record ["textDocument", "range", "context"] params
    return .actions (← Json.required documentUri? fields "textDocument")
      (← Json.required Range.ofJson? fields "range")
      (← Json.defaulted [] context? fields "context")
  | .resolve => (CodeAction.ofJson? params).map .resolve
  | .shutdown => some .shutdown
  | .exit => some .exit
  | .other _ => some .unknown

end Request

end HamlServer
