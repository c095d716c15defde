import HamlServer.Rails.Route
import Mathlib.Data.List.Nodup

/-!
# Routes and their helpers

Insertion changes the first route that has the helper in question.  No two routes of a table have
the same helper, so it is the only one, and the others stay as they are.

* `get?_eq_some_iff`: the route that a helper leads to.
* `addVerbs_verbs`: the verbs that a route has after further ones are added.
* `routes_insert`: the routes after an insertion.
* `nodup_helpers_insert`, `nodup_helpers_ofList`: no helper comes up twice.
-/

namespace HamlServer

/-! ## Verbs -/

/-- What comes once is left alone. -/
theorem eraseDups_of_nodup {l : List String} (h : l.Nodup) : l.eraseDups = l := by
  induction l with
  | nil => rfl
  | cons a l ih =>
    obtain ⟨ha, hl⟩ := List.nodup_cons.1 h
    have hall : (l.filter fun b => !b == a) = l := by
      apply List.filter_eq_self.2
      intro b hb
      have hne : b ≠ a := fun he => ha (he ▸ hb)
      simpa using hne
    rw [List.eraseDups_cons, hall, ih hl]

/-- Adding what is not there yet, one after the other, adds all that was not there at the start,
each once. -/
theorem foldl_addNew (new old : List String) :
    new.foldl (fun vs v => if v ∈ vs then vs else vs ++ [v]) old =
      old ++ (new.filter fun v => v ∉ old).eraseDups := by
  induction new generalizing old with
  | nil => simp
  | cons v new ih =>
    rw [List.foldl_cons, ih]
    by_cases hold : v ∈ old
    · rw [if_pos hold, List.filter_cons_of_neg (by simpa using hold)]
    · -- what was added is not added again
      have hrest : (new.filter fun u => u ∉ old ++ [v]) =
          (new.filter fun u => u ∉ old).filter fun u => !u == v := by
        rw [List.filter_filter]
        apply List.filter_congr
        intro u _
        simp [and_comm, beq_eq_decide]
      rw [if_neg hold, hrest, List.filter_cons_of_pos (by simpa using hold), List.eraseDups_cons,
        List.append_assoc, List.singleton_append]

theorem nodup_foldl_addNew (new : List String) {old : List String} (h : old.Nodup) :
    (new.foldl (fun vs v => if v ∈ vs then vs else vs ++ [v]) old).Nodup := by
  induction new generalizing old with
  | nil => exact h
  | cons v new ih =>
    rw [List.foldl_cons]
    apply ih
    split
    · exact h
    · next hv =>
      apply List.Nodup.append h (List.nodup_singleton v)
      rw [List.disjoint_singleton]
      exact hv

/-- Only what comes once is left alone. -/
theorem eraseDups_eq_self_iff {l : List String} : l.eraseDups = l ↔ l.Nodup := by
  constructor
  · intro h
    have hnodup := nodup_foldl_addNew l List.nodup_nil
    rw [foldl_addNew, List.nil_append, List.filter_eq_self.2 (by simp), h] at hnodup
    exact hnodup
  · exact eraseDups_of_nodup

/-- The verbs of a route after further ones are added: those that it did not have come last. -/
theorem Route.addVerbs_verbs (r : Route) {verbs : List String} (h : verbs.Nodup) :
    r.addVerbs verbs = { r with verbs := r.verbs ++ verbs.filter fun v => v ∉ r.verbs } := by
  rw [Route.addVerbs, foldl_addNew, eraseDups_of_nodup (h.filter _)]

namespace RouteTable

variable {t : RouteTable} {r : Route}

/-- The helpers of a table, in the order of its routes. -/
def helpers (t : RouteTable) : List String := t.routes.map (·.helper)

/-! ## Insertion -/

/-- A change of the first route with a helper changes all routes with it, as there is only one. -/
theorem modify_findIdx? {routes : List Route} (hd : (routes.map (·.helper)).Nodup) {helper : String}
    {i : Nat} (hi : routes.findIdx? (·.helper = helper) = some i) (f : Route → Route) :
    routes.modify i f = routes.map fun e => if e.helper = helper then f e else e := by
  induction routes generalizing i with
  | nil => simp at hi
  | cons e routes ih =>
    rw [List.map_cons, List.nodup_cons] at hd
    rw [List.findIdx?_cons] at hi
    by_cases he : e.helper = helper
    · obtain rfl : 0 = i := by simpa [he] using hi
      have hother : routes.map (fun e => if e.helper = helper then f e else e) = routes := by
        conv_rhs => rw [← List.map_id routes]
        apply List.map_congr_left
        intro x hx
        have hne : x.helper ≠ helper := by
          intro hxe
          exact hd.1 (List.mem_map.2 ⟨x, hx, hxe.trans he.symm⟩)
        rw [if_neg hne, id]
      rw [List.modify_zero_cons, List.map_cons, if_pos he, hother]
    · simp only [he, decide_false, Bool.false_eq_true, if_false, Option.map_eq_some_iff] at hi
      obtain ⟨j, hj, rfl⟩ := hi
      rw [List.modify_succ_cons, List.map_cons, if_neg he, ih hd.2 hj]

theorem index?_eq_none_iff {helper : String} : t.index? helper = none ↔ helper ∉ t.helpers := by
  simp only [index?, helpers, List.findIdx?_eq_none_iff, List.mem_map, decide_eq_false_iff_not,
    not_exists, not_and]

/-- A helper leads to the route that has it. -/
theorem get?_eq_some_iff (hd : t.helpers.Nodup) {helper : String} :
    t.get? helper = some r ↔ r ∈ t.routes ∧ r.helper = helper := by
  constructor
  · intro h
    exact ⟨List.mem_of_find?_eq_some h, by simpa using List.find?_some h⟩
  · rintro ⟨hr, rfl⟩
    have hsome : (t.get? r.helper).isSome = true :=
      List.find?_isSome.2 ⟨r, hr, decide_eq_true rfl⟩
    obtain ⟨e, he⟩ := Option.isSome_iff_exists.1 hsome
    have hhelper : e.helper = r.helper := by simpa using List.find?_some he
    rw [he, List.inj_on_of_nodup_map hd (List.mem_of_find?_eq_some he) hr hhelper]

/-- The routes after an insertion: a known helper keeps its route but for the verbs, and a new one
comes last. -/
theorem routes_insert (hd : t.helpers.Nodup) (r : Route) :
    (t.insert r).routes =
      if r.helper ∈ t.helpers then
        t.routes.map fun e => if e.helper = r.helper then e.addVerbs r.verbs else e
      else t.routes ++ [r] := by
  cases hi : t.index? r.helper with
  | none =>
    rw [if_neg (index?_eq_none_iff.1 hi)]
    simp only [insert, hi]
  | some i =>
    have hmem : r.helper ∈ t.helpers := by
      by_contra hn
      rw [index?_eq_none_iff.2 hn] at hi
      cases hi
    rw [if_pos hmem]
    simp only [insert, hi]
    exact modify_findIdx? hd hi _

theorem helpers_insert (hd : t.helpers.Nodup) (r : Route) :
    (t.insert r).helpers = if r.helper ∈ t.helpers then t.helpers else t.helpers ++ [r.helper] := by
  rw [helpers, routes_insert hd]
  split
  · rw [List.map_map, helpers]
    apply List.map_congr_left
    intro e _
    show (if e.helper = r.helper then e.addVerbs r.verbs else e).helper = e.helper
    split <;> rfl
  · rw [List.map_append, List.map_singleton]
    rfl

/-- No helper comes up twice. -/
theorem nodup_helpers_insert (hd : t.helpers.Nodup) (r : Route) : (t.insert r).helpers.Nodup := by
  rw [helpers_insert hd]
  split
  · exact hd
  · next hn =>
    apply List.Nodup.append hd (List.nodup_singleton _)
    rw [List.disjoint_singleton]
    exact hn

/-- The place that a search finds for a helper is the one where it stands. -/
theorem index?_eq_some_iff (hd : t.helpers.Nodup) {helper : String} {i : Nat} :
    t.index? helper = some i ↔ t.helpers[i]? = some helper := by
  constructor
  · intro h
    obtain ⟨hi, hhelper, -⟩ := List.findIdx?_eq_some_iff_getElem.1 h
    rw [helpers, List.getElem?_map, List.getElem?_eq_getElem hi]
    simpa using hhelper
  · intro h
    obtain ⟨hi, rfl⟩ := List.getElem?_eq_some_iff.1 h
    cases hfound : t.index? t.helpers[i] with
    | none => exact absurd (List.getElem_mem hi) (index?_eq_none_iff.1 hfound)
    | some j =>
      obtain ⟨hj, hhelper, -⟩ := List.findIdx?_eq_some_iff_getElem.1 hfound
      have hplace : j < t.helpers.length := by simpa [helpers] using hj
      have hsame : t.helpers[j] = t.helpers[i] := by simpa [helpers] using hhelper
      rw [(List.Nodup.getElem_inj_iff hd).1 hsame]

end RouteTable

/-! ## The index -/

namespace IndexedRoutes

variable (t : IndexedRoutes)

/-- The helpers of the routes, in their order. -/
def helpers : List String := t.routes.map (·.helper)

theorem lookup_index_eq_some_iff {helper : String} {i : Nat} :
    t.index.lookup helper = some i ↔ t.helpers[i]? = some helper := t.placed helper i

/-- Two places of a helper are both the one that the index tells, so there is only one. -/
theorem nodup_helpers : t.helpers.Nodup := by
  rw [List.nodup_iff_getElem?_ne_getElem?]
  intro i j hij hj heq
  rw [List.getElem?_eq_getElem hj] at heq
  have hi := t.lookup_index_eq_some_iff.2 heq
  rw [t.lookup_index_eq_some_iff.2 (List.getElem?_eq_getElem hj)] at hi
  exact Nat.ne_of_gt hij (Option.some.inj hi)

/-- The index tells the place that a search finds. -/
theorem index?_table (helper : String) : t.table.index? helper = t.index.lookup helper := by
  apply Option.ext
  intro i
  rw [t.lookup_index_eq_some_iff]
  exact RouteTable.index?_eq_some_iff (t := t.table) t.nodup_helpers

/-- The two ways of an insertion: a known helper has its route amended, a new one is added. -/
theorem insert_cases (r : Route) :
    (∃ i, t.index.lookup r.helper = some i ∧ t.insert r = t.amend i r.verbs) ∨
      ∃ hnew : t.index.lookup r.helper = none, t.insert r = t.push r hnew := by
  rw [insert]
  split
  · next i hi => exact Or.inl ⟨i, hi, rfl⟩
  · next hnew => exact Or.inr ⟨hnew, rfl⟩

/-- Insertion by the index comes to the same as insertion by a search. -/
theorem table_insert (r : Route) : (t.insert r).table = t.table.insert r := by
  rw [RouteTable.insert, index?_table]
  rcases t.insert_cases r with ⟨i, hi, heq⟩ | ⟨hnew, heq⟩
  · rw [heq, hi]
    rfl
  · rw [heq, hnew]
    rfl

theorem table_foldl (rs : List Route) :
    (rs.foldl insert t).table = rs.foldl RouteTable.insert t.table := by
  induction rs generalizing t with
  | nil => rfl
  | cons r rs ih => rw [List.foldl_cons, ih, table_insert, List.foldl_cons]

end IndexedRoutes

namespace RouteTable

theorem ofList_eq_foldl (rs : List Route) : ofList rs = rs.foldl insert empty :=
  IndexedRoutes.table_foldl .empty rs

theorem nodup_helpers_ofList (rs : List Route) : (ofList rs).helpers.Nodup :=
  (IndexedRoutes.ofList rs).nodup_helpers

end RouteTable

end HamlServer
