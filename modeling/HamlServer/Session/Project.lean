import HamlServer.Rails.Listing
import HamlServer.Rails.Project
import HamlServer.Tool.Launch

/-!
What the server remembers of a project: whether it is a Rails project, and its routes.

Both are found out once.  The routes count as loaded even when listing them failed, until they are
forgotten.
-/

namespace HamlServer

/-- What is known of a project. -/
structure Project where
  root : Option Path
  rails : Option Bool := none
  routes : RouteTable := .empty
  loaded : Bool := false

namespace Project

/-- Finds out whether the project is a Rails project, unless that is known. -/
def classify (p : Project) (files : Directory) : Project :=
  match p.rails with
  | some _ => p
  | none => { p with rails := some (p.root.any (Rails.isProject files)) }

/-- Whether the project is known to be a Rails project. -/
def isRails (p : Project) : Bool := p.rails.getD false

/-- The routes of a listing; a listing that failed has none. -/
def routesOf (root : Path) : Except ToolError String → RouteTable
  | .ok output => Rails.parseListing (some root) output
  | .error _ => .empty

/-- Loads the routes of a Rails project, unless they are loaded, and tells of the project whose
routes were listed. -/
def load (p : Project) (files : Directory) (listing : Path → Except ToolError String) :
    Project × Option Path :=
  if p.loaded then (p, none)
  else
    let p := p.classify files
    match p.isRails, p.root with
    | true, some root => ({ p with routes := routesOf root (listing root), loaded := true }, some root)
    | _, _ => (p, none)

/-- Forgets the routes. -/
def forget (p : Project) : Project := { p with routes := .empty, loaded := false }

end Project

end HamlServer
