import HamlServer.Proofs.Rails.Separator
import HamlServer.Proofs.Rails.Table
import HamlServer.Rails.Listing
import Mathlib.Data.List.Induction

/-!
# What a table says about the routes that were inserted

Routes come in one after the other, with helpers that come up again anywhere.  A table keeps what
the first route of a helper says and gathers the verbs of all of them.

* `get?_insert`: what one insertion changes, seen through the index.
* `get?_ofList`, `helpers_ofList`: the same for all insertions.
* `represents_ofList`: the routes, their order and the index after any insertions.
* `gathers_ofList`: the verbs after any insertions.
-/

namespace HamlServer

theorem Route.addVerbs_addVerbs (r : Route) (vs ws : List String) :
    (r.addVerbs vs).addVerbs ws = r.addVerbs (vs ++ ws) := by
  rw [addVerbs, addVerbs, addVerbs, List.foldl_append]

namespace IndexedRoutes

variable {t : IndexedRoutes} {r e : Route} {helper : String}

/-! ## Looking up -/

/-- A helper leads to the route that has it. -/
theorem get?_eq_some_iff : t.get? helper = some e ↔ e ∈ t.routes ∧ e.helper = helper := by
  constructor
  · intro h
    obtain ⟨i, hi, he⟩ := Option.bind_eq_some_iff.1 h
    rw [lookup_index_eq_some_iff, helpers, List.getElem?_map, he, Option.map_some] at hi
    exact ⟨List.mem_of_getElem? he, Option.some.inj hi⟩
  · rintro ⟨he, rfl⟩
    obtain ⟨i, hi⟩ := List.getElem?_of_mem he
    have hplace : t.helpers[i]? = some e.helper := by
      rw [helpers, List.getElem?_map, hi, Option.map_some]
    rw [get?, t.lookup_index_eq_some_iff.2 hplace]
    exact hi

theorem get?_eq_none_iff : t.get? helper = none ↔ helper ∉ t.helpers := by
  rw [helpers, List.mem_map, Option.eq_none_iff_forall_ne_some]
  constructor
  · rintro h ⟨e, he, hhelper⟩
    exact h e (get?_eq_some_iff.2 ⟨he, hhelper⟩)
  · intro h e he
    exact h ⟨e, get?_eq_some_iff.1 he⟩

theorem exists_get?_of_lookup {i : Nat} (h : t.index.lookup helper = some i) :
    ∃ e, t.get? helper = some e := by
  have hplace := t.lookup_index_eq_some_iff.1 h
  rw [helpers, List.getElem?_map, Option.map_eq_some_iff] at hplace
  obtain ⟨e, he, -⟩ := hplace
  exact ⟨e, by rw [get?, h]; exact he⟩

/-- The index leads to the route that a search finds. -/
theorem get?_table (t : IndexedRoutes) (helper : String) : t.table.get? helper = t.get? helper := by
  apply Option.ext
  intro e
  rw [get?_eq_some_iff]
  exact RouteTable.get?_eq_some_iff (t := t.table) t.nodup_helpers

/-! ## One insertion -/

/-- A route with the helper of an inserted one, and what it becomes. -/
def joined (r : Route) : Option Route → Route
  | some e => e.addVerbs r.verbs
  | none => r

theorem helpers_insert (t : IndexedRoutes) (r : Route) :
    (t.insert r).helpers = if r.helper ∈ t.helpers then t.helpers else t.helpers ++ [r.helper] := by
  have h := RouteTable.helpers_insert (t := t.table) t.nodup_helpers r
  rw [← table_insert] at h
  exact h

/-- Verbs that are added to the route of a helper change what this helper leads to. -/
theorem get?_amend {name : String} {i : Nat} (hi : t.index.lookup name = some i)
    (verbs : List String) (helper : String) :
    (t.amend i verbs).get? helper =
      if name = helper then (t.get? helper).map (·.addVerbs verbs) else t.get? helper := by
  have hlookup : (t.amend i verbs).get? helper = (t.index.lookup helper).bind fun j =>
      (t.routes.modify i (·.addVerbs verbs))[j]? := rfl
  rw [hlookup, get?]
  simp only [List.getElem?_modify]
  by_cases hhelper : name = helper
  · subst hhelper
    rw [if_pos rfl, hi, Option.bind_some, Option.bind_some]
    simp
  · -- another helper stands at another place
    rw [if_neg hhelper]
    cases hj : t.index.lookup helper with
    | none => rfl
    | some j =>
      have hne : i ≠ j := by
        rintro rfl
        rw [lookup_index_eq_some_iff] at hi hj
        rw [hi] at hj
        exact hhelper (Option.some.inj hj)
      simp [hne]

/-- A helper that is new leads to its route, and the others lead where they led. -/
theorem get?_push (hnew : t.index.lookup r.helper = none) (helper : String) :
    (t.push r hnew).get? helper = if r.helper = helper then some r else t.get? helper := by
  have hlookup : (t.push r hnew).get? helper =
      ((setKey r.helper t.routes.length t.index).lookup helper).bind fun j =>
        (t.routes ++ [r])[j]? := rfl
  rw [hlookup, lookup_setKey]
  by_cases hhelper : r.helper = helper
  · rw [if_pos hhelper, if_pos hhelper.symm, Option.bind_some, List.getElem?_concat_length]
  · rw [if_neg hhelper, if_neg (Ne.symm hhelper), get?]
    cases hj : t.index.lookup helper with
    | none => rfl
    | some j =>
      obtain ⟨hlt, -⟩ := List.getElem?_eq_some_iff.1 (t.lookup_index_eq_some_iff.1 hj)
      rw [helpers, List.length_map] at hlt
      rw [Option.bind_some, Option.bind_some, List.getElem?_append_left hlt]

/-- An insertion changes what its helper leads to, and nothing else. -/
theorem get?_insert (t : IndexedRoutes) (r : Route) (helper : String) :
    (t.insert r).get? helper =
      if r.helper = helper then some (joined r (t.get? helper)) else t.get? helper := by
  rcases t.insert_cases r with ⟨i, hi, heq⟩ | ⟨hnew, heq⟩
  · rw [heq, get?_amend hi]
    split
    · next hhelper =>
      obtain ⟨e, he⟩ := exists_get?_of_lookup hi
      rw [← hhelper, he]
      rfl
    · rfl
  · rw [heq, get?_push hnew]
    split
    · next hhelper =>
      rw [← hhelper, get?, hnew]
      rfl
    · rfl

/-! ## All insertions -/

theorem ofList_concat (rs : List Route) (r : Route) : ofList (rs ++ [r]) = (ofList rs).insert r :=
  List.foldl_concat ..

/-- What becomes of routes with the same helper: the first with the verbs of the others added. -/
def merged : List Route → Option Route
  | [] => none
  | r :: more => some (r.addVerbs (more.flatMap (·.verbs)))

theorem merged_concat (rs : List Route) (r : Route) :
    merged (rs ++ [r]) = some (joined r (merged rs)) := by
  cases rs with
  | nil => rfl
  | cons first more =>
    show some (first.addVerbs ((more ++ [r]).flatMap (·.verbs))) =
      some ((first.addVerbs (more.flatMap (·.verbs))).addVerbs r.verbs)
    rw [Route.addVerbs_addVerbs, List.flatMap_append, List.flatMap_singleton]

/-- A helper leads to what has become of the routes that were inserted with it. -/
theorem get?_ofList (rs : List Route) (helper : String) :
    (ofList rs).get? helper = merged (rs.filter (·.helper = helper)) := by
  induction rs using List.reverseRecOn with
  | nil => rfl
  | append_singleton rs r ih =>
    rw [ofList_concat, get?_insert, ih, List.filter_append]
    by_cases hhelper : r.helper = helper
    · rw [if_pos hhelper, List.filter_cons_of_pos (by simpa using hhelper), List.filter_nil,
        merged_concat]
    · rw [if_neg hhelper, List.filter_cons_of_neg (by simpa using hhelper), List.filter_nil,
        List.append_nil]

/-- The helpers stand in the order in which they first came up. -/
theorem helpers_ofList (rs : List Route) :
    (ofList rs).helpers = (rs.map (·.helper)).eraseDups := by
  induction rs using List.reverseRecOn with
  | nil => rfl
  | append_singleton rs r ih =>
    have hmem : r.helper ∈ (ofList rs).helpers ↔ r.helper ∈ rs.map (·.helper) := by
      rw [ih, List.mem_eraseDups]
    rw [ofList_concat, helpers_insert, List.map_append, List.map_singleton,
      List.eraseDups_append, ← ih, List.removeAll]
    by_cases hold : r.helper ∈ rs.map (·.helper)
    · rw [if_pos (hmem.2 hold), List.filter_cons_of_neg (by simpa using hold), List.filter_nil,
        List.eraseDups_nil, List.append_nil]
    · rw [if_neg (mt hmem.1 hold), List.filter_cons_of_pos (by simpa using hold), List.filter_nil]
      rfl

/-! ## Routes, order and index -/

/-- What a table says about routes that were inserted. -/
structure Represents (t : IndexedRoutes) (rs : List Route) : Prop where
  /-- No two routes have the same helper. -/
  distinct : t.helpers.Nodup
  /-- They stand in the order in which their helpers first came up. -/
  ordered : t.helpers = (rs.map (·.helper)).eraseDups
  /-- The index has just the helpers that came up, each with its own place in this order. -/
  indexed : ∀ helper i,
    t.index.lookup helper = some i ↔ (rs.map (·.helper)).eraseDups[i]? = some helper
  /-- Something is found for just the helpers that came up. -/
  found : ∀ helper, (t.get? helper).isSome ↔ ∃ r ∈ rs, r.helper = helper
  /-- What is found is the one route with the helper. -/
  entry : ∀ helper e, t.get? helper = some e ↔ e ∈ t.routes ∧ e.helper = helper
  /-- It says what the first route with the helper says, but for the verbs. -/
  first : ∀ helper e, t.get? helper = some e →
    ∃ r, rs.find? (·.helper = helper) = some r ∧ e = { r with verbs := e.verbs }

/-- **A table after any insertions.**  The routes and the index agree, each helper has the place in
which it first came up, and its route is the first that was inserted with it, whatever came later;
the table that others look into finds the same. -/
theorem represents_ofList (rs : List Route) :
    (ofList rs).Represents rs ∧
    (RouteTable.ofList rs).routes = (ofList rs).routes ∧
    ∀ helper, (RouteTable.ofList rs).get? helper = (ofList rs).get? helper := by
  refine ⟨?_, rfl, get?_table (ofList rs)⟩
  constructor
  case distinct => exact nodup_helpers _
  case ordered => exact helpers_ofList rs
  case indexed =>
    intro helper i
    rw [lookup_index_eq_some_iff, helpers_ofList]
  case found =>
    intro helper
    rw [Option.isSome_iff_ne_none, Ne, get?_eq_none_iff, not_not, helpers_ofList,
      List.mem_eraseDups, List.mem_map]
  case entry => exact fun helper e => get?_eq_some_iff
  case first =>
    intro helper e he
    rw [get?_ofList] at he
    rw [← List.head?_filter]
    cases hrs : rs.filter (·.helper = helper) with
    | nil =>
      rw [hrs] at he
      cases he
    | cons r more =>
      rw [hrs] at he
      obtain rfl := Option.some.inj he
      exact ⟨r, rfl, rfl⟩

/-- Two helpers that take turns, and a later route that says something else. -/
example :
    let rs : List Route := [{ helper := "users", verbs := ["GET"], uri := "/users" },
      { helper := "root", uri := "/" }, { helper := "users", verbs := ["POST"], uri := "/all" }]
    (ofList rs).index = [("users", 0), ("root", 1)] ∧
      (ofList rs).get? "users" =
        some { helper := "users", verbs := ["GET", "POST"], uri := "/users" } := by
  decide

/-! ## Verbs -/

/-- The verbs of all routes with a helper in the order in which they first came up, each once. -/
def verbsUnder (rs : List Route) (helper : String) : List String :=
  ((rs.filter (·.helper = helper)).flatMap (·.verbs)).eraseDups

/-- How the verbs of a route come from those of the routes with its helper.  The verbs of the first
are taken as they are, and the others add what is not there yet; so the route has the verbs of all,
each once, just where the first route repeats none. -/
def Gathers (rs : List Route) (e : Route) : Prop :=
  ∃ r more, rs.filter (·.helper = e.helper) = r :: more ∧
    e.verbs = r.verbs ++ ((more.flatMap (·.verbs)).filter fun v => v ∉ r.verbs).eraseDups ∧
    (e.verbs = verbsUnder rs e.helper ↔ r.verbs.Nodup)

theorem eraseDups_append_eq (old new : List String) :
    (old ++ new).eraseDups = old.eraseDups ++ (new.filter fun v => v ∉ old).eraseDups := by
  rw [List.eraseDups_append, List.removeAll]
  simp

theorem gathers_of_mem {rs : List Route} {e : Route} (he : e ∈ (ofList rs).routes) :
    Gathers rs e := by
  have hget : (ofList rs).get? e.helper = some e := get?_eq_some_iff.2 ⟨he, rfl⟩
  rw [get?_ofList] at hget
  cases hrs : rs.filter (·.helper = e.helper) with
  | nil =>
    rw [hrs] at hget
    cases hget
  | cons r more =>
    rw [hrs] at hget
    have hverbs : e.verbs =
        r.verbs ++ ((more.flatMap (·.verbs)).filter fun v => v ∉ r.verbs).eraseDups := by
      rw [← foldl_addNew, ← Option.some.inj hget]
      rfl
    refine ⟨r, more, hrs, hverbs, ?_⟩
    rw [verbsUnder, hrs, List.flatMap_cons, eraseDups_append_eq, hverbs,
      List.append_left_inj, eq_comm]
    exact eraseDups_eq_self_iff

/-- **The verbs of a table's routes**, after any insertions and for any listing. -/
theorem gathers_ofList (rs : List Route) (root : Option Path) (output : String) :
    (∀ e ∈ (ofList rs).routes, Gathers rs e) ∧
    ∀ e ∈ (Rails.parseListing root output).routes,
      Gathers (Rails.blockRoutes root none (Rails.blocks output.toList)) e :=
  ⟨fun _ he => gathers_of_mem he, fun _ he => gathers_of_mem he⟩

/-- Routes with verbs that come again later. -/
def searchRoutes : List Route :=
  [{ helper := "search", verbs := ["GET", "HEAD"] }, { helper := "root", verbs := ["GET"] },
    { helper := "search", verbs := ["POST", "HEAD", "POST"] }]

/-- A block whose route has the same verb twice. -/
def repeatedVerbBlock : List Char :=
  "Prefix | search\nVerb | GET|GET\nURI | /search\nController#Action | search#index\n".toList

/-- The listing of this block. -/
def repeatedVerb : String := String.ofList ("--[ Route 1 ]--\n".toList ++ repeatedVerbBlock)

theorem blocks_repeatedVerb : Rails.blocks repeatedVerb.toList = [[], repeatedVerbBlock] := by
  have hseparator : Rails.separatorEnd? repeatedVerb.toList = some repeatedVerbBlock := by
    decide +kernel
  have hblock : Rails.blocks (repeatedVerbBlock ++ []) = [repeatedVerbBlock] := by
    rw [Rails.blocks_append (Rails.uncut_of_notMem (by decide) [])]
    simp [Rails.blocks, Rails.separatorEnd?]
  rw [Rails.blocks_of_separator hseparator, ← List.append_nil repeatedVerbBlock, hblock,
    List.append_nil]

theorem gathers_ofList_search :
    let merged : Route := { helper := "search", verbs := ["GET", "HEAD", "POST"] }
    let kept : Route := { helper := "search", verbs := ["GET", "GET"], uri := "/search",
                          controller := some "search", action := some "index" }
    merged ∈ (ofList searchRoutes).routes ∧
    kept ∈ (Rails.parseListing none repeatedVerb).routes ∧
    Gathers searchRoutes merged ∧
    Gathers (Rails.blockRoutes none none (Rails.blocks repeatedVerb.toList)) kept := by
  intro merged kept
  have hmerged : merged ∈ (ofList searchRoutes).routes := by decide
  have hkept : kept ∈ (Rails.parseListing none repeatedVerb).routes := by
    rw [Rails.parseListing, blocks_repeatedVerb]
    decide +kernel
  have h := gathers_ofList searchRoutes none repeatedVerb
  exact ⟨hmerged, hkept, h.1 merged hmerged, h.2 kept hkept⟩

/-- A verb that the first route of a helper repeats stays there twice. -/
theorem not_verbsUnder_repeatedVerb :
    ¬ ∀ (root : Option Path) (output : String), ∀ e ∈ (Rails.parseListing root output).routes,
      e.verbs = verbsUnder (Rails.blockRoutes root none (Rails.blocks output.toList)) e.helper := by
  intro h
  have hverbs := h none repeatedVerb
  rw [Rails.parseListing, blocks_repeatedVerb] at hverbs
  revert hverbs
  decide +kernel

end IndexedRoutes

end HamlServer
