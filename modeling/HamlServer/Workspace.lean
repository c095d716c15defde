import HamlServer.Files.Scan
import HamlServer.Rails.Route

/-!
The workspace: what completion and navigation may look at.
-/

namespace HamlServer

/-- A workspace: its files, its root, whether it is a Rails project, and its routes, if they are
known. -/
structure Workspace where
  files : Directory
  root : Option Path
  isRails : Bool
  routes : Option RouteTable

namespace Workspace

/-- The directory of the views of a project. -/
def viewsOf (root : Path) : Path := (root.child "app").child "views"

/-- The routes that are worth looking at: those of a Rails project that has some. -/
def usableRoutes (w : Workspace) : Option RouteTable :=
  w.routes.filter fun t => w.isRails && t.size != 0

end Workspace

end HamlServer
