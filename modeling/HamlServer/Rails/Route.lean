import HamlServer.KeyedList

/-!
Routes and the table of them.

A route is known by the name of its helper.  The table keeps the routes in the order in which their
helpers first came up; a further route with the same helper only adds its verbs.

While routes come in, the places of their helpers are kept in an index beside them, so that an
insertion need not search.  That the index and the routes agree is part of the type.

* `placed_append`: a new helper gets the place behind all others.
-/

namespace HamlServer

/-- A route: the name of its helper without `_path` or `_url`, its verbs and address, the parameters
of the address, the controller and action that serve it, and the place where it is declared. -/
structure Route where
  helper : String
  verbs : List String := []
  uri : String := ""
  params : List String := []
  controller : Option String := none
  action : Option String := none
  source : Option String := none
  deriving DecidableEq, Repr, Inhabited

namespace Route

/-- Adds the verbs that are not there yet, one after the other. -/
def addVerbs (r : Route) (verbs : List String) : Route :=
  { r with verbs := verbs.foldl (fun vs v => if v ∈ vs then vs else vs ++ [v]) r.verbs }

end Route

/-- The routes of a project, one for each helper. -/
structure RouteTable where
  routes : List Route
  deriving DecidableEq, Repr, Inhabited

namespace RouteTable

/-- The table without routes. -/
def empty : RouteTable := ⟨[]⟩

/-- The route of a helper. -/
def get? (t : RouteTable) (helper : String) : Option Route := t.routes.find? (·.helper = helper)

/-- The place of a helper's route in the table. -/
def index? (t : RouteTable) (helper : String) : Option Nat :=
  t.routes.findIdx? (·.helper = helper)

/-- The number of routes. -/
def size (t : RouteTable) : Nat := t.routes.length

/-- Adds a route at the end, or its verbs to the route with the same helper. -/
def insert (t : RouteTable) (r : Route) : RouteTable :=
  match t.index? r.helper with
  | some i => ⟨t.routes.modify i (·.addVerbs r.verbs)⟩
  | none => ⟨t.routes ++ [r]⟩

end RouteTable

/-! ## Routes with an index -/

/-- Routes with an index of their places. -/
structure IndexedRoutes where
  routes : List Route
  index : List (String × Nat)
  /-- The index leads from a helper to the place of its route, and from anything else nowhere. -/
  placed : ∀ helper i, index.lookup helper = some i ↔ (routes.map (·.helper))[i]? = some helper

namespace IndexedRoutes

/-- Added verbs leave the helpers in their places. -/
theorem helpers_modify (routes : List Route) (i : Nat) (verbs : List String) :
    (routes.modify i (·.addVerbs verbs)).map (·.helper) = routes.map (·.helper) := by
  apply List.ext_getElem?
  intro j
  rw [List.getElem?_map, List.getElem?_map, List.getElem?_modify]
  cases routes[j]? with
  | none => rfl
  | some r =>
    show some (if i = j then r.addVerbs verbs else r).helper = some r.helper
    split <;> rfl

theorem getElem?_concat_eq_some_iff (l : List String) (a b : String) (i : Nat) :
    (l ++ [a])[i]? = some b ↔ l[i]? = some b ∨ i = l.length ∧ b = a := by
  rcases Nat.lt_trichotomy i l.length with hlt | heq | hgt
  · have hne : i ≠ l.length := Nat.ne_of_lt hlt
    simp [List.getElem?_append_left hlt, hne]
  · subst heq
    simp [eq_comm]
  · have hne : i ≠ l.length := Nat.ne_of_gt hgt
    have hout : (l ++ [a]).length ≤ i := by
      rw [List.length_append]
      exact hgt
    simp [List.getElem?_eq_none hout, List.getElem?_eq_none (Nat.le_of_lt hgt), hne]

/-- A new helper gets the place behind all others. -/
theorem placed_append {routes : List Route} {index : List (String × Nat)}
    (placed : ∀ helper i, index.lookup helper = some i ↔ (routes.map (·.helper))[i]? = some helper)
    {r : Route} (hnew : index.lookup r.helper = none) (helper : String) (i : Nat) :
    (setKey r.helper routes.length index).lookup helper = some i ↔
      ((routes ++ [r]).map (·.helper))[i]? = some helper := by
  rw [lookup_setKey, List.map_append, List.map_singleton, getElem?_concat_eq_some_iff,
    List.length_map, ← placed helper i]
  by_cases hhelper : helper = r.helper
  · subst hhelper
    simp [hnew, eq_comm]
  · simp [hhelper]

/-- No routes. -/
def empty : IndexedRoutes where
  routes := []
  index := []
  placed := by simp

/-- Adds verbs to the route at a place. -/
def amend (t : IndexedRoutes) (i : Nat) (verbs : List String) : IndexedRoutes where
  routes := t.routes.modify i (·.addVerbs verbs)
  index := t.index
  placed := by
    rw [helpers_modify]
    exact t.placed

/-- Adds a route with a new helper at the end. -/
def push (t : IndexedRoutes) (r : Route) (hnew : t.index.lookup r.helper = none) :
    IndexedRoutes where
  routes := t.routes ++ [r]
  index := setKey r.helper t.routes.length t.index
  placed := placed_append t.placed hnew

/-- Adds a route at the end, or its verbs to the route with the same helper. -/
def insert (t : IndexedRoutes) (r : Route) : IndexedRoutes :=
  match h : t.index.lookup r.helper with
  | some i => t.amend i r.verbs
  | none => t.push r h

/-- The route of a helper. -/
def get? (t : IndexedRoutes) (helper : String) : Option Route :=
  (t.index.lookup helper).bind fun i => t.routes[i]?

/-- The routes that are added one after the other. -/
def ofList (rs : List Route) : IndexedRoutes := rs.foldl insert empty

/-- The table of the routes. -/
def table (t : IndexedRoutes) : RouteTable := ⟨t.routes⟩

end IndexedRoutes

/-- The table of routes that are added one after the other. -/
def RouteTable.ofList (rs : List Route) : RouteTable := (IndexedRoutes.ofList rs).table

end HamlServer
