import HamlServer.Editor.Place
import HamlServer.Locate.ActionLine
import HamlServer.Locate.AssetFile
import HamlServer.Locate.PartialFile
import HamlServer.Url.FileUrl
import HamlServer.Workspace

/-!
Navigation: the places that the text under the cursor leads to.

Partials come first, then the action of a route's helper, then assets.  A file whose path has no URL
is left out.
-/

namespace HamlServer.Workspace

open Locate

/-- The start of a line of a file. -/
def locationOf? (file : Path) (line : Nat) : Option Location :=
  (Url.ofPath? file).map fun uri => ⟨uri, .lineStart (UInt32.ofNat line)⟩

/-- The place that the helper of a route leads to, if there is one. -/
def helperDefinitions (d : Directory) (root : Path) (t : RouteTable) (word : List Char) :
    List Location :=
  (actionLine? d root t word).toList.filterMap fun (file, line) => locationOf? file line

/-- The places that routes and assets lead to. -/
def railsDefinitions (w : Workspace) (root : Path) (line word : List Char) : List Location :=
  (match w.usableRoutes with
    | none => []
    | some t => helperDefinitions w.files root t word) ++
    (assetFiles w.files root line).filterMap (locationOf? · 0)

/-- The places that a line of a document leads to, with the cursor at a word of it. -/
def definitions (w : Workspace) (document : Path) (line word : List Char) : List Location :=
  match w.root with
  | none => []
  | some root =>
    if line.isEmpty || word.isEmpty then []
    else
      (partialFiles w.files (viewsOf root) document line).filterMap (locationOf? · 0) ++
        if w.isRails then w.railsDefinitions root line word else []

end HamlServer.Workspace
