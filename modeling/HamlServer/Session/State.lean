import HamlServer.Correct.Corrector
import HamlServer.Editor.Message
import HamlServer.Session.Documents
import HamlServer.Session.Project

/-!
The state of a session with the editor, and what a step of it can do to the world.

A session reads its clock at every use of the open documents; the readings are given by a function
of their number, so nothing is assumed of the clock.
-/

namespace HamlServer

/-- How a session is set up. -/
structure Options where
  lintEnabled : Bool := false
  root : Option Path := none
  maxDocuments : Nat := 100
  ttl : Nat := 3600 * tenPow 9
  cwd : Path

/-- What a session finds outside of itself while it handles a message: the files, the tools, and the
readings of its clock. -/
structure World where
  files : Directory
  tools : Tools
  clock : Nat → Int

/-- What the editor's first request opens: the project, and the corrector of its documents. -/
structure Opened where
  project : Project
  corrector : Corrector

/-- The state of a session: the open documents and how often they were used, what the first request
opened, the number of tasks whose progress was shown, and whether the end was announced. -/
structure Session where
  documents : Documents
  uses : Nat := 0
  opened : Option Opened := none
  tasks : Nat := 0
  ended : Bool := false

/-- What a session does to the outside: it writes a message, or asks a tool. -/
inductive Effect where
  | write (message : Outgoing)
  | call (c : ToolCall)

namespace Session

/-- The state at the start. -/
def start (o : Options) : Session := { documents := .ofCapacity o.maxDocuments o.ttl }

/-- The exit code of the server: success only when the end was announced. -/
def exitCode (s : Session) : Nat := if s.ended then 0 else 1

/-- The time of the next use of a document. -/
def now (s : Session) (w : World) : Int := w.clock s.uses

/-- Looks a document up. -/
def document (s : Session) (w : World) (uri : String) : Session × Option OpenDocument :=
  let (documents, found) := s.documents.get (s.now w) uri
  ({ s with documents, uses := s.uses + 1 }, found)

/-- Opens a document or replaces its text. -/
def store (s : Session) (w : World) (uri content : String) : Session :=
  { s with documents := s.documents.set (s.now w) uri content, uses := s.uses + 1 }

/-- Closes the documents that have been idle for too long. -/
def tidy (s : Session) (w : World) : Session :=
  { s with documents := (s.documents.dropStale (s.now w)).1, uses := s.uses + 1 }

/-- Changes what is known of the project. -/
def withProject (s : Session) (p : Project) : Session :=
  { s with opened := s.opened.map fun o => { o with project := p } }

end Session

end HamlServer
