import HamlServer.Editor.CompletionItem
import HamlServer.Files.Path
import HamlServer.Rails.Route
import HamlServer.Template.Call

/-!
Candidates for route helpers.

A line that mentions a link or an address is offered all routes.  The first of those whose
controller has most in common with the document's own is selected beforehand.
-/

namespace HamlServer.Suggest

open Text Template

/-- The words of a line that uses routes. -/
def routeWords : List String :=
  ["link_to", "redirect_to", "button_to", "form_for", "visit", "url", "path", "href"]

/-- The parts between slashes. -/
def segments (s : List Char) : List (List Char) := s.splitOn '/'

/-- The directories that hold what belongs to a controller. -/
def controllerDirectories : List String := ["/app/controllers/", "/app/views/"]

/-- What follows the last of the controller directories in a line. -/
def afterDirectory? (line : List Char) : Option (List Char) :=
  match line with
  | [] => none
  | c :: r =>
    (afterDirectory? r).orElse fun _ =>
      controllerDirectories.findSome? fun d => dropStart? d.toList (c :: r)

/-- The path without what stands, in the first line that holds a controller directory, up to the
last one there. -/
def dropDirectories : List (List Char) → List (List Char)
  | [] => []
  | line :: rest =>
    match afterDirectory? line with
    | some r => r :: rest
    | none => line :: dropDirectories rest

/-- The controller that a document belongs to: the first segment behind the directories. -/
def controllerOf (document : Path) : List Char :=
  let path := document.display.toList.map fun c => if c = '\\' then '/' else c
  let rest := joinLines (dropDirectories (path.splitOn '\n'))
  let first := rest.takeWhile (· != '/')
  (dropEnd? "_controller.rb".toList first).getD first

/-- The number of segments in front that two names share. -/
def sharedSegments (a b : List Char) : Nat := Path.commonLength (segments a) (segments b)

/-- The place of the first greatest number. -/
def firstGreatest : List Nat → Option Nat
  | [] => none
  | n :: rest => some ((n :: rest).findIdx (· == rest.foldl max n))

/-- What stands for a parameter: an identifier is likely the instance of the controller. -/
def placeholder (controller : Option String) (param : String) : String :=
  match controller with
  | some c => if param = "id" then "@" ++ String.ofList ((segments c.toList).getLastD []) else param
  | none => param

/-- The snippet for a helper: the choice between its path and its address, and a place for each
parameter. -/
def helperSnippet (r : Route) : String :=
  let places := r.params.zipIdx.map fun (param, i) =>
    "$\x7b" ++ toString (i + 2) ++ ":" ++ placeholder r.controller param ++ "\x7d"
  let arguments := if places.isEmpty then "" else "(" ++ ", ".intercalate places ++ ")"
  r.helper ++ "_$\x7b1|path,url|\x7d" ++ arguments

/-- The candidate for a route. -/
def routeItem (r : Route) (preselect : Bool) : CompletionItem where
  label := r.helper
  kind := .method
  detail := some ("|".intercalate r.verbs ++ " " ++ r.uri)
  documentation := r.source.map fun s => s!"Defined in {s}"
  insertion := some (.snippet (helperSnippet r))
  preselect := preselect

/-- How well a route fits a document. -/
def routeScore (document : Path) (r : Route) : Nat :=
  sharedSegments (controllerOf document) (r.controller.getD "").toList

/-- The routes, on a line that uses routes. -/
def routeItems (document : Path) (line : List Char) (t : RouteTable) : List CompletionItem :=
  if mentions line routeWords then
    let best := firstGreatest (t.routes.map (routeScore document))
    t.routes.zipIdx.map fun (r, i) => routeItem r (some i == best)
  else []

end HamlServer.Suggest
