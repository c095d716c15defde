import HamlServer.Suggest.AssetName
import HamlServer.Suggest.Element
import HamlServer.Suggest.PartialCall
import HamlServer.Suggest.RouteHelper
import HamlServer.Workspace

/-!
Completion: the candidates for the text in front of the cursor.

Routes, partials and assets are offered in Rails projects only; elements and attributes everywhere.
-/

namespace HamlServer.Workspace

open Suggest

/-- The candidates of a Rails project. -/
def railsItems (w : Workspace) (document : Path) (line : List Char) : List CompletionItem :=
  let routes := match w.usableRoutes with
    | some t => routeItems document line t
    | none => []
  let files := match w.root with
    | some root => partialItems w.files (viewsOf root) document line ++ assetItems w.files root line
    | none => []
  routes ++ files

/-- The candidates for a line of a document, cut at the cursor. -/
def complete (w : Workspace) (document : Path) (line : List Char) : List CompletionItem :=
  (if w.isRails then w.railsItems document line else []) ++ elementItems line ++
    attributeItems line

end HamlServer.Workspace
