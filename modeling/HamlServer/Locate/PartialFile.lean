import HamlServer.Files.Scan
import HamlServer.Template.Call

/-!
The files of a rendered partial.

A partial may be meant in four ways: by its path under the views, as a file beside the document, as
a shared one, or as any file of that name.  Earlier ways rank higher, and within a way the nearer
file.
-/

namespace HamlServer.Locate

open Text Template

/-- The name of the partial that a render call at the front of a text gives. -/
def renderedAt? (s : List Char) : Option (List Char) := do
  let r := skipOpening (← dropStart? "render".toList s)
  let r := match dropStart? "partial:".toList r with
    | some r => trimStart r
    | none => r
  closedText? r

/-- Whether a render call at the front of a text gives output. -/
def outputRenderAt? : List Char → Option Unit :=
  outputAt? fun s => (dropStart? "render".toList s).map fun _ => ()

/-- The name of the partial that a line renders. -/
def renderedName? (line : List Char) : Option (List Char) :=
  if (findMatch outputRenderAt? line).isSome then findMatch renderedAt? line else none

/-- How a file was found. -/
inductive PartialWay where
  | exact
  | near
  | shared
  | anywhere
  deriving DecidableEq, Repr

namespace PartialWay

/-- The rank of a way; the ranks lie further apart than any nearness can make up for. -/
def rank : PartialWay → Nat
  | .exact => 1000
  | .near => 800
  | .shared => 400
  | .anywhere => 200

end PartialWay

/-- The file names of a partial, the preferred one first. -/
def partialFileNames (base : List Char) : List String :=
  [String.ofList ('_' :: base ++ ".html.haml".toList), String.ofList ('_' :: base ++ ".haml".toList)]

/-- The file of a partial in a directory. -/
def partialIn? (d : Directory) (dir : Path) (base : List Char) : Option Path :=
  ((partialFileNames base).map dir.child).find? d.isFile

/-- What follows the first `app/views/` of a path that has two further segments behind it: all but
the last of them. -/
def viewSubdirectoryAt? (s : List Char) : Option (List Char) := do
  let r ← dropStart? "app/views/".toList s
  let (dir, file) ← cutAtLast '/' r
  if dir.isEmpty || file.isEmpty || dir.contains '\n' then none else some dir

/-- The directory under the views that a document lies in. -/
def viewDirectory? (document views : Path) : Option Path :=
  if document.isUnder views then document.parent?
  else
    let path := document.display.toList.map fun c => if c = '\\' then '/' else c
    (findMatch viewSubdirectoryAt? path).map fun dir => views.child (String.ofList dir)

/-- A file that may be meant, with its rank. -/
structure PartialHit where
  file : Path
  rank : Nat

/-- The rank of a file found in some way: the nearer the file, the higher. -/
def hitRank (document file : Path) (way : PartialWay) : Nat :=
  let distance := (file.parent?.map (document.directory.distance ·)).getD 0
  way.rank + (100 - 10 * distance)

/-- The files found, in the order of the ways. -/
def foundPartials (d : Directory) (views document : Path) (name : List Char) :
    List (Path × PartialWay) :=
  let base := (name.splitOn '/').getLastD []
  let exact := (cutAtLast '/' name).bind fun (dir, base) =>
    partialIn? d (views.child (String.ofList dir)) base
  let near := (viewDirectory? document views).bind (partialIn? d · base)
  let shared := partialIn? d (views.child "shared") base
  let anywhere := (d.filesUnder views true).filter fun f =>
    (partialFileNames base).any fun n => f.fileName == Utf8.encode n
  (exact.map (·, PartialWay.exact)).toList ++ (near.map (·, .near)).toList ++
    (shared.map (·, .shared)).toList ++ anywhere.map (·.path, .anywhere)

/-- The files found, each under the first way that found it. -/
def distinctHits (document : Path) (found : List (Path × PartialWay)) : List PartialHit :=
  found.foldl (fun hits (file, way) =>
    if hits.any (fun h => h.file.same file) then hits
    else hits ++ [⟨file, hitRank document file way⟩]) []

/-- The files that a render call may mean, the best first. -/
def partialFiles (d : Directory) (views document : Path) (line : List Char) : List Path :=
  match renderedName? line with
  | none => []
  | some name =>
    if d.isDirectory views then
      let hits := distinctHits document (foundPartials d views document name)
      (hits.mergeSort fun a b => b.rank ≤ a.rank).map (·.file)
    else []

end HamlServer.Locate
