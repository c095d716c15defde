import HamlServer.Files.Path

/-!
A tree of files and directories.

Places are lists of names from the root.  A tree holds the octets of its files and the places of its
directories; `write` makes the directories on the way, so a file always lies in a directory that is
there.  Paths are resolved as an operating system does: every step but the last has to be a
directory, and `..` leaves the directory that was reached.
-/

namespace HamlServer

/-- A place: the names on the way from the root. -/
abbrev Place := List Bytes

/-- A tree of files. -/
structure FileTree where
  files : List (Place × Bytes)
  directories : List Place
  deriving Repr, Inhabited

/-- What stands at a place. -/
inductive Entry where
  | file (place : Place) (content : Bytes)
  | directory (place : Place)
  deriving Repr

/-- Why a path leads nowhere. -/
inductive LookupError where
  | notFound
  | notDirectory
  deriving DecidableEq, Repr

namespace LookupError

/-- The words of the operating system. -/
def message : LookupError → String
  | .notFound => "No such file or directory (os error 2)"
  | .notDirectory => "Not a directory (os error 20)"

end LookupError

namespace FileTree

/-- The tree that holds nothing but the root. -/
def empty : FileTree := ⟨[], [[]]⟩

/-- What stands at a place. -/
def entryAt (t : FileTree) (place : Place) : Except LookupError Entry :=
  match t.files.lookup place with
  | some content => .ok (.file place content)
  | none => if t.directories.contains place then .ok (.directory place) else .error .notFound

/-- The directory at a place. -/
def directoryAt (t : FileTree) (place : Place) : Except LookupError Place :=
  match t.entryAt place with
  | .ok (.directory place) => .ok place
  | .ok (.file _ _) => .error .notDirectory
  | .error e => .error e

/-- The place that one piece of a path leads to from a directory; a piece that names nothing stays
there. -/
def stepPlace (place : Place) (piece : Bytes) : Place :=
  if piece = [] ∨ piece = [46] then place
  else if piece = [46, 46] then place.dropLast
  else place ++ [piece]

/-- Follows the pieces of a path; each is taken from a directory. -/
def follow (t : FileTree) : Place → List Bytes → Except LookupError Place
  | place, [] => .ok place
  | place, piece :: pieces => do
    let directory ← t.directoryAt place
    t.follow (stepPlace directory piece) pieces

/-- What a path leads to, from the working directory `cwd`. -/
def lookup (t : FileTree) (cwd : Place) (p : Path) : Except LookupError Entry :=
  if p.octets = [] then .error .notFound
  else do
    let place ← t.follow (if p.isAbsolute then [] else cwd) (p.octets.splitOn slash)
    t.entryAt place

/-- Whether a path leads to anything. -/
def exists? (t : FileTree) (cwd : Place) (p : Path) : Bool :=
  match t.lookup cwd p with
  | .ok _ => true
  | .error _ => false

/-- The octets of the file that a path leads to. -/
def read? (t : FileTree) (cwd : Place) (p : Path) : Option Bytes :=
  match t.lookup cwd p with
  | .ok (.file _ content) => some content
  | _ => none

/-- The text of the file that a path leads to. -/
def readText? (t : FileTree) (cwd : Place) (p : Path) : Option String :=
  (t.read? cwd p).bind Utf8.decode?

/-- The place of the directory that a path leads to. -/
def directory? (t : FileTree) (cwd : Place) (p : Path) : Option Place :=
  match t.lookup cwd p with
  | .ok (.directory place) => some place
  | _ => none

/-- Whether a path leads to a file. -/
def isFile (t : FileTree) (cwd : Place) (p : Path) : Bool := (t.read? cwd p).isSome

/-- Whether a path leads to a directory. -/
def isDirectory (t : FileTree) (cwd : Place) (p : Path) : Bool := (t.directory? cwd p).isSome

/-- The places of the directories on the way to a place, the root first. -/
def ancestors (place : Place) : List Place := (List.range place.length).map place.take

/-- Adds directories that are not there yet. -/
def addDirectories (t : FileTree) (places : List Place) : FileTree :=
  { t with directories := t.directories ++ places.filter fun p => !t.directories.contains p }

/-- Adds a directory and those on the way to it. -/
def makeDirectory (t : FileTree) (place : Place) : FileTree :=
  t.addDirectories (ancestors place ++ [place])

/-- Puts a file in place of what stands there, and makes the directories on the way. -/
def write (t : FileTree) (place : Place) (content : Bytes) : FileTree :=
  let t := t.addDirectories (ancestors place)
  { t with files := t.files.filter (·.1 ≠ place) ++ [(place, content)] }

/-- The place of the file that a path would make when it is opened for writing; none if something
stands there already. -/
def newPlace? (t : FileTree) (cwd : Place) (p : Path) : Option Place := do
  let pieces := p.octets.splitOn slash
  let name := pieces.getLastD []
  if stepPlace [] name = [] then none
  else match t.follow (if p.isAbsolute then [] else cwd) pieces.dropLast with
    | .ok place =>
      match t.directoryAt place, t.entryAt (place ++ [name]) with
      | .ok _, .error _ => some (place ++ [name])
      | _, _ => none
    | .error _ => none

/-- Removes what stands at a place, with all that lies under it. -/
def remove (t : FileTree) (place : Place) : FileTree :=
  { files := t.files.filter fun (p, _) => !place.isPrefixOf p
    directories := t.directories.filter fun p => !place.isPrefixOf p }

end FileTree

/-- What a component of the server may see of the files: a tree, and the working directory from
which relative paths are taken. -/
structure Directory where
  tree : FileTree
  cwd : Place
  deriving Repr, Inhabited

namespace Directory

/-- Whether a path leads to anything. -/
def exists? (d : Directory) (p : Path) : Bool := d.tree.exists? d.cwd p

/-- Whether a path leads to a file. -/
def isFile (d : Directory) (p : Path) : Bool := d.tree.isFile d.cwd p

/-- Whether a path leads to a directory. -/
def isDirectory (d : Directory) (p : Path) : Bool := d.tree.isDirectory d.cwd p

/-- The text of the file that a path leads to. -/
def readText? (d : Directory) (p : Path) : Option String := d.tree.readText? d.cwd p

/-- The files after a path has been opened for adding to it. -/
def touch (d : Directory) (p : Path) : Directory :=
  match d.tree.newPlace? d.cwd p with
  | some place => { d with tree := d.tree.write place [] }
  | none => d

end Directory

end HamlServer
