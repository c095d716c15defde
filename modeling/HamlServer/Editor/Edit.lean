import HamlServer.Editor.Place

/-!
Edits: replacements of ranges, grouped by document.
-/

namespace HamlServer

/-- The replacement of a range by a text. -/
structure TextEdit where
  range : Range
  newText : String
  deriving DecidableEq, Repr

namespace TextEdit

/-- An edit as JSON. -/
def toJson (e : TextEdit) : Json :=
  .ofMembers [("range", e.range.toJson), ("newText", .string e.newText)]

/-- Reads an edit. -/
def ofJson? (v : Json) : Option TextEdit := do
  let fields ← Json.record ["range", "newText"] v
  return ⟨← Json.required Range.ofJson? fields "range", ← Json.required Json.text fields "newText"⟩

end TextEdit

/-- Edits of several documents; the documents in the order of their names, each once. -/
structure WorkspaceEdit where
  changes : List (String × List TextEdit)
  deriving DecidableEq, Repr

namespace WorkspaceEdit

/-- One edit of one document. -/
def single (uri : String) (edit : TextEdit) : WorkspaceEdit := ⟨[(uri, [edit])]⟩

/-- Edits as JSON. -/
def toJson (e : WorkspaceEdit) : Json :=
  .ofMembers [("changes", .ofMembers (e.changes.map fun (uri, es) =>
    (uri, .array (es.map TextEdit.toJson))))]

/-- Reads the edits of each document. -/
def changesOfJson? : Json → Option (List (String × List TextEdit))
  | .object ms => ms.mapM fun (uri, v) => (Json.list TextEdit.ofJson? v).map (uri, ·)
  | _ => none

/-- Reads edits. -/
def ofJson? (v : Json) : Option WorkspaceEdit := do
  let fields ← Json.record ["changes"] v
  return ⟨← Json.required changesOfJson? fields "changes"⟩

end WorkspaceEdit

end HamlServer
