import HamlServer.Files.Tree

/-!
Scans of directories.

`filesBelow` lists the files under a directory in the order in which a walk meets them.  A scan,
`filesUnder`, ends when it has met a fixed number of files, and puts those in the order of their
paths, component by component.  A scanned file is known by the names that lead to it from the
scanned directory.
-/

namespace HamlServer

/-- A file found by a scan: the scanned directory and the names that lead to the file. -/
structure Scanned where
  base : Path
  names : List Bytes
  content : Bytes
  deriving Repr

namespace Scanned

/-- The path of a scanned file. -/
def path (f : Scanned) : Path := f.names.foldl (fun p name => p.join ⟨name⟩) f.base

/-- The path relative to the scanned directory as text, with forward slashes. -/
def relative (f : Scanned) : List Char :=
  (Utf8.decodeLossy (List.intercalate [slash] f.names)).toList.map fun c =>
    if c = '\\' then '/' else c

/-- The name of a scanned file. -/
def fileName (f : Scanned) : Bytes := f.names.getLastD []

/-- The directory that holds a scanned file. -/
def directory (f : Scanned) : Path := f.names.dropLast.foldl (fun p name => p.join ⟨name⟩) f.base

end Scanned

namespace Directory

/-- The names that lead from one place to another under it. -/
def namesBelow (base place : Place) : Option (List Bytes) :=
  if base.isPrefixOf place ∧ base.length < place.length then some (place.drop base.length) else none

/-- Names in the order of paths. -/
def namesLe (a b : List Bytes) : Bool := Path.componentsLe (a.map .name) (b.map .name)

/-- The files under a directory at any depth, as a walk meets them.  The system may list files in
any order; here it is that of the tree.  A path that is no directory holds none. -/
def filesBelow (d : Directory) (dir : Path) : List Scanned :=
  match d.tree.directory? d.cwd dir with
  | none => []
  | some base =>
    d.tree.files.filterMap fun (place, content) =>
      (namesBelow base place).map fun names => ⟨dir, names, content⟩

/-- The number of files after which a scan ends. -/
def scanLimit : Nat := 10000

/-- The files that a scan of a directory finds, in the order of their paths; without `recursive`,
only those that lie in the directory itself are met. -/
def filesUnder (d : Directory) (dir : Path) (recursive : Bool) : List Scanned :=
  let met := (d.filesBelow dir).filter fun f => recursive || f.names.length == 1
  (met.take scanLimit).mergeSort fun a b => namesLe a.names b.names

end Directory

end HamlServer
