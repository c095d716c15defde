import HamlServer.Files.Tree

/-!
Rails projects: a directory is one when the marker files are there.
-/

namespace HamlServer.Rails

/-- The paths, taken from the root, that a Rails project has. -/
def markers : List String := ["config/application.rb", "Gemfile", "config/routes.rb"]

/-- A directory is a Rails project when all the markers are there. -/
def isProject (d : Directory) (root : Path) : Bool := markers.all fun m => d.exists? (root.child m)

end HamlServer.Rails
