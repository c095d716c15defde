import HamlServer.Json.Basic

/-!
The manifest: what the server can do, and its name and version.
-/

namespace HamlServer.Manifest

/-- The version of the server. -/
def version : String := "0.1.0"

/-- The characters that open the list of candidates again while typing. -/
def triggers : List String := ["_", ":", ".", "%", "#", "\"", "'", "("]

/-- What the server can do. -/
def capabilities : Json := .ofMembers [
  ("textDocumentSync", .ofMembers [("openClose", .bool true), ("change", .nat 1),
    ("save", .ofMembers [("includeText", .bool true)])]),
  ("documentFormattingProvider", .ofMembers [("workDoneProgress", .bool false)]),
  ("completionProvider", .ofMembers [("triggerCharacters", .array (triggers.map .string)),
    ("resolveProvider", .bool false)]),
  ("codeActionProvider", .ofMembers [
    ("codeActionKinds", .array [.string "quickfix", .string "refactor"]),
    ("resolveProvider", .bool true)]),
  ("definitionProvider", .bool true)]

/-- The answer that starts a session. -/
def toJson : Json := .ofMembers [("capabilities", capabilities),
  ("serverInfo", .ofMembers [("name", .string "haml_lsp"), ("version", .string version)])]

end HamlServer.Manifest
