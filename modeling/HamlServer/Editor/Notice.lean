import HamlServer.Editor.Diagnostic
import HamlServer.Editor.Message

/-!
What the server tells the editor unasked: findings, messages, and the progress of a task.
-/

namespace HamlServer.Notice

/-- How important a message is. -/
inductive Level where
  | error
  | warning
  | info
  | log
  deriving DecidableEq, Repr

/-- The number of a level on the wire. -/
def Level.toNat : Level → Nat
  | .error => 1
  | .warning => 2
  | .info => 3
  | .log => 4

/-- The findings of a document; they replace those that were told before. -/
def diagnostics (uri : String) (ds : List Diagnostic) : Outgoing :=
  .notification "textDocument/publishDiagnostics"
    (.ofMembers [("uri", .string uri), ("diagnostics", .array (ds.map Diagnostic.toJson))])

/-- A message with its level. -/
def message (method : String) (level : Level) (text : String) : Outgoing :=
  .notification method (.ofMembers [("type", .nat level.toNat), ("message", .string text)])

/-- A message for the log. -/
def log (level : Level) (text : String) : Outgoing :=
  message "window/logMessage" level ("[Haml LSP] " ++ text)

/-- A message that is shown to the user. -/
def alert (level : Level) (text : String) : Outgoing := message "window/showMessage" level text

/-- The name of the `n`-th task. -/
def token (n : Nat) : String := s!"routes-{n}"

/-- Asks for the progress of the `n`-th task to be shown. -/
def createProgress (n : Nat) : Outgoing :=
  .request (.number (Int64.ofNat n)) "window/workDoneProgress/create"
    (.ofMembers [("token", .string (token n))])

/-- Tells of a task's progress. -/
def progress (n : Nat) (value : List (String × Json)) : Outgoing :=
  .notification "$/progress"
    (.ofMembers [("token", .string (token n)), ("value", .ofMembers value)])

/-- A task begins. -/
def progressBegin (n : Nat) (title : String) : Outgoing :=
  progress n [("kind", .string "begin"), ("title", .string title), ("cancellable", .bool false)]

/-- A task is done by so many percent. -/
def progressReport (n : Nat) (text : String) (percentage : Nat) : Outgoing :=
  progress n [("kind", .string "report"), ("message", .string text),
    ("percentage", .nat percentage)]

/-- A task ends. -/
def progressEnd (n : Nat) : Outgoing := progress n [("kind", .string "end")]

end HamlServer.Notice
