import HamlServer.Editor.Diagnostic

/-!
The documents that the editor has open, bounded in number and in idle time.

A document is known by its identifier, and no two have the same.  When a new one needs room, all
documents that were idle for too long go, and only if there are none, the one that was not used for
the longest time.  Times are readings of a clock in nanoseconds; a clock that goes backwards makes
nothing idle.
-/

namespace HamlServer

/-- An open document, with the findings of its last lint run and the time of its last use. -/
structure OpenDocument where
  uri : String
  content : String
  diagnostics : List Diagnostic := []
  lastUse : Int
  deriving DecidableEq, Repr

/-- The open documents.  `ttl` is the greatest idle time. -/
structure Documents where
  entries : List OpenDocument := []
  capacity : Nat
  ttl : Nat

namespace Documents

/-- No documents, with room for some; there is always room for one. -/
def ofCapacity (capacity ttl : Nat) : Documents := { capacity := max 1 capacity, ttl }

/-- The number of documents. -/
def size (s : Documents) : Nat := s.entries.length

/-- The document with an identifier. -/
def find? (s : Documents) (uri : String) : Option OpenDocument := s.entries.find? (·.uri = uri)

/-- Whether a document is open. -/
def contains (s : Documents) (uri : String) : Bool := (s.find? uri).isSome

/-- Changes the document with an identifier, if it is open. -/
def modify (s : Documents) (uri : String) (f : OpenDocument → OpenDocument) : Documents :=
  { s with entries := s.entries.map fun e => if e.uri = uri then f e else e }

/-- Notes the use of a document. -/
def touch (s : Documents) (now : Int) (uri : String) : Documents :=
  s.modify uri fun e => { e with lastUse := now }

/-- Looks a document up, which is a use of it. -/
def get (s : Documents) (now : Int) (uri : String) : Documents × Option OpenDocument :=
  let s := s.touch now uri
  (s, s.find? uri)

/-- Replaces the findings of a document, and tells whether it is open. -/
def setDiagnostics (s : Documents) (uri : String) (ds : List Diagnostic) : Documents × Bool :=
  (s.modify uri fun e => { e with diagnostics := ds }, s.contains uri)

/-- Closes a document. -/
def delete (s : Documents) (uri : String) : Documents :=
  { s with entries := s.entries.filter (·.uri ≠ uri) }

/-- Closes all documents. -/
def clear (s : Documents) : Documents := { s with entries := [] }

/-- Whether a document has been idle for too long. -/
def isStale (s : Documents) (now : Int) (e : OpenDocument) : Bool := s.ttl < now - e.lastUse

/-- Closes the documents that have been idle for too long, and tells their number. -/
def dropStale (s : Documents) (now : Int) : Documents × Nat :=
  let kept := { s with entries := s.entries.filter fun e => !s.isStale now e }
  (kept, s.size - kept.size)

/-- The document that was not used for the longest time; of several the first. -/
def oldest? (s : Documents) : Option OpenDocument :=
  s.entries.find? fun e => s.entries.all fun e' => e.lastUse ≤ e'.lastUse

/-- Closes documents so that another one has room. -/
def makeRoom (s : Documents) (now : Int) : Documents :=
  if 0 < (s.dropStale now).2 then (s.dropStale now).1
  else match s.oldest? with
    | some e => s.delete e.uri
    | none => s

/-- Opens a document, or replaces its text; its findings stay until they are replaced. -/
def set (s : Documents) (now : Int) (uri content : String) : Documents :=
  match s.find? uri with
  | some _ => s.modify uri fun e => { e with content, lastUse := now }
  | none =>
    let s := if s.capacity ≤ s.size then s.makeRoom now else s
    { s with entries := s.entries ++ [{ uri, content, lastUse := now }] }

/-- `set` for an identifier and a text that may be missing; then nothing happens. -/
def setIfGiven (s : Documents) (now : Int) : Option String → Option String → Documents
  | some uri, some content => s.set now uri content
  | _, _ => s

end Documents

end HamlServer
