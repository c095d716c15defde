import HamlServer.Files.Tree
import HamlServer.Rails.Route
import HamlServer.Text.Line

/-!
The action that serves a route.

The helper of a route leads to the line of the controller's file that defines the action.
-/

namespace HamlServer.Locate

open Text

/-- The name of the route that a helper belongs to. -/
def helperRoute? (word : List Char) : Option (List Char) :=
  (["_path", "_url"].findSome? fun tail => dropEnd? tail.toList word).filter fun name =>
    !name.isEmpty && !name.contains '\n'

/-- Whether a text is the name of an action and then ends, or goes on with white space or an opening
parenthesis. -/
def isName (action s : List Char) : Bool :=
  match dropStart? action s with
  | some [] => true
  | some (c :: _) => isBlank c || c == '('
  | none => false

/-- What may follow the white space behind a word: that white space is not empty, but its end may
belong to what follows. -/
def afterBlank (s : List Char) : List (List Char) :=
  (List.range (leading s).length).map fun n => s.drop (n + 1)

/-- Whether a line defines an action, of the instance or of the class. -/
def definesAction (action line : List Char) : Bool :=
  match dropStart? "def".toList (trimStart line) with
  | none => false
  | some r => (afterBlank r).any fun s =>
      isName action s || (dropStart? "self.".toList s).any (isName action)

/-- The file of a controller. -/
def controllerFile (root : Path) (controller : String) : Path :=
  ((root.child "app").child "controllers").child (controller ++ "_controller.rb")

/-- The file and the line of the action that serves the route of a helper.  The editor is told of no
line whose number does not fit. -/
def actionLine? (d : Directory) (root : Path) (t : RouteTable) (word : List Char) :
    Option (Path × Nat) := do
  let name ← helperRoute? word
  let route ← t.get? (String.ofList name)
  let controller ← route.controller
  let action ← route.action
  let file := controllerFile root controller
  let content ← d.readText? file
  let line ← ((lines content.toList).findIdx? (definesAction action.toList)).filter
    (· < UInt32.size)
  return (file, line)

end HamlServer.Locate
