import HamlServer.Proofs.Rails.Table
import HamlServer.Proofs.Text.Cut
import HamlServer.Proofs.Text.Lines
import HamlServer.Suggest.RouteHelper
import Mathlib.Data.List.TakeWhile

/-!
# The route that is selected beforehand

On a line that uses routes there is one candidate for each route of the table, and one of them is
selected: the first of those whose controllers share the most segments with the controller that the
document is taken to belong to.  That is the first directory under the views only, whatever the
depth of the document, so of the routes of a namespace the first one is selected.

* `firstGreatest_eq_some_iff`: the place of the first greatest number.
* `IsView.controllerOf_eq`: the controller of a document under the views.
* `routeItems_preselect`: which route is selected, and when it is the one whose controller shares
  the most with the whole directory.
-/

namespace HamlServer.Suggest

open Text Template

variable {ns : List Nat} {i : Nat} {document : Path} {line : List Char} {t : RouteTable}

/-! ## The first greatest number -/

/-- A place in a list where the first of the greatest numbers stands. -/
structure IsFirstGreatest (ns : List Nat) (i : Nat) : Prop where
  lt_length : i < ns.length
  le : ∀ n ∈ ns, n ≤ ns[i]
  lt : ∀ j (h : j < i), ns[j] < ns[i]

theorem firstGreatest_eq_some_iff : firstGreatest ns = some i ↔ IsFirstGreatest ns i := by
  cases ns with
  | nil => exact iff_of_false (by simp [firstGreatest]) fun h => absurd h.lt_length (by simp)
  | cons n rest =>
    obtain ⟨hmem, hmax⟩ : rest.foldl max n ∈ n :: rest ∧ ∀ m ∈ n :: rest, m ≤ rest.foldl max n :=
      List.max?_eq_some_iff.1 List.max?_cons'
    rw [firstGreatest, Option.some.injEq]
    constructor
    · rintro rfl
      have hlt : (n :: rest).findIdx (· == rest.foldl max n) < (n :: rest).length :=
        List.findIdx_lt_length_of_exists ⟨_, hmem, beq_self_eq_true _⟩
      have hfound : (n :: rest)[(n :: rest).findIdx (· == rest.foldl max n)] = rest.foldl max n :=
        eq_of_beq (List.findIdx_getElem (w := hlt))
      refine ⟨hlt, fun m hm => hfound.symm ▸ hmax m hm, fun j hj => ?_⟩
      rw [hfound]
      refine Nat.lt_of_le_of_ne (hmax _ (List.getElem_mem _)) fun heq => ?_
      exact absurd (List.not_of_lt_findIdx hj) (by simp [heq])
    · rintro ⟨hlt, hle, hfirst⟩
      have hgreatest : (n :: rest)[i] = rest.foldl max n :=
        Nat.le_antisymm (hmax _ (List.getElem_mem hlt)) (hle _ hmem)
      refine (List.findIdx_eq hlt).2 ⟨beq_iff_eq.2 hgreatest, fun j hj => ?_⟩
      exact beq_false_of_ne fun heq => Nat.lt_irrefl _ (heq ▸ hgreatest ▸ hfirst j hj)

theorem exists_firstGreatest (h : ns ≠ []) : ∃ i, firstGreatest ns = some i := by
  cases ns with
  | nil => exact absurd rfl h
  | cons n rest => exact ⟨_, rfl⟩

/-! ## Segments -/

/-- The first segment reaches up to the first slash. -/
theorem exists_segments_eq (s : List Char) :
    ∃ rest, segments s = s.takeWhile (· != '/') :: rest := by
  by_cases h : '/' ∈ s
  · obtain ⟨a, b, rfl, ha⟩ := List.eq_append_cons_of_mem h
    have hkept : ∀ c ∈ a, (c != '/') = true := fun c hc => bne_iff_ne.2 fun he => ha (he ▸ hc)
    refine ⟨segments b, ?_⟩
    rw [segments, List.splitOn_append_cons_self, List.splitOn_eq_singleton ha,
      List.takeWhile_append_of_pos hkept, List.takeWhile_cons_of_neg (by simp), List.append_nil]
    rfl
  · have hkept : ∀ c ∈ s, (c != '/') = true := fun c hc => bne_iff_ne.2 fun he => h (he ▸ hc)
    refine ⟨[], ?_⟩
    rw [segments, List.splitOn_eq_singleton h, List.takeWhile_eq_self_iff.2 hkept]

/-- A first segment alone shares itself or nothing. -/
theorem sharedSegments_takeWhile (dir s : List Char) :
    sharedSegments (dir.takeWhile (· != '/')) s = min 1 (sharedSegments dir s) := by
  have hnone : '/' ∉ dir.takeWhile (· != '/') := fun h => by simpa using List.mem_takeWhile_imp h
  obtain ⟨rest, hdir⟩ := exists_segments_eq dir
  obtain ⟨more, hs⟩ := exists_segments_eq s
  rw [sharedSegments, sharedSegments, segments, List.splitOn_eq_singleton hnone, hdir, hs]
  simp only [Path.commonLength]
  split <;> omega

/-! ## The controller of a document -/

theorem afterDirectory?_eq_none_iff {s : List Char} :
    afterDirectory? s = none ↔ ∀ d ∈ controllerDirectories, ¬ d.toList <:+: s := by
  induction s with
  | nil => exact iff_of_true rfl (by decide)
  | cons c s ih =>
    rw [afterDirectory?, Option.orElse_eq_or, Option.or_eq_none_iff, ih,
      List.findSome?_eq_none_iff]
    simp only [dropStart?_eq_none_iff, List.infix_cons_iff, not_or, forall_and]
    exact and_comm

/-- What stands behind a directory of views that no controller directory follows. -/
theorem afterDirectory?_views (front : List Char) {rest : List Char}
    (h : ∀ d ∈ controllerDirectories, ¬ d.toList <:+: '/' :: rest) :
    afterDirectory? (front ++ "/app/views/".toList ++ rest) = some rest := by
  induction front with
  | nil =>
    have hlater : afterDirectory? ("app/views/".toList ++ rest) = none := by
      simpa [afterDirectory?, controllerDirectories, dropStart?] using
        afterDirectory?_eq_none_iff.2 h
    have hhead : "/app/views/".toList = '/' :: "app/views/".toList := rfl
    rw [List.nil_append, hhead, List.cons_append, afterDirectory?, hlater]
    rfl
  | cons c front ih => rw [List.cons_append, List.cons_append, afterDirectory?, ih]; rfl

/-- A document in a directory under the views: how it displays, where the views end the last of
the controller directories, and the directory is not named like the source of a controller. -/
structure IsView (document : Path) (root dir file : List Char) : Prop where
  display : document.display.toList = root ++ "/app/views/".toList ++ (dir ++ '/' :: file)
  last : ∀ d ∈ controllerDirectories, ¬ d.toList <:+: '/' :: (dir ++ '/' :: file)
  oneLine : '\n' ∉ document.display.toList
  slashes : '\\' ∉ document.display.toList
  plain : ¬ "_controller.rb".toList <:+ dir.takeWhile (· != '/')

theorem dropDirectories_singleton {l r : List Char} (h : afterDirectory? l = some r) :
    dropDirectories [l] = [r] := by
  rw [dropDirectories, h]

/-- The controller of a document under the views is the first of its directories there. -/
theorem IsView.controllerOf_eq {root dir file : List Char} (h : IsView document root dir file) :
    controllerOf document = dir.takeWhile (· != '/') := by
  have hpath : (document.display.toList.map fun c => if c = '\\' then '/' else c) =
      document.display.toList := by
    conv_rhs => rw [← List.map_id document.display.toList]
    refine List.map_congr_left fun c hc => if_neg fun he : c = '\\' => ?_
    exact h.slashes (he ▸ hc)
  have hafter := afterDirectory?_views root h.last
  rw [← h.display] at hafter
  have hfirst : (dir ++ '/' :: file).takeWhile (· != '/') = dir.takeWhile (· != '/') := by
    rw [List.takeWhile_append]
    split
    · next hlen => simpa using ((List.takeWhile_prefix _).eq_of_length hlen).symm
    · rfl
  have hkept := dropEnd?_eq_none_iff.2 h.plain
  rw [controllerOf]
  simp only [hpath, List.splitOn_eq_singleton h.oneLine, dropDirectories_singleton hafter,
    joinLines_singleton, hfirst, hkept, Option.getD_none]

/-! ## The selected route -/

/-- How many segments in front a route's controller shares with a directory. -/
def sharedWith (dir : List Char) (r : Route) : Nat :=
  sharedSegments dir (r.controller.getD "").toList

variable {dir : List Char}

/-- Of the first segment alone a controller shares as much as of the directory, but no more than
one. -/
theorem sharedWith_takeWhile (dir : List Char) (r : Route) :
    sharedWith (dir.takeWhile (· != '/')) r = min 1 (sharedWith dir r) :=
  sharedSegments_takeWhile dir _

theorem IsFirstGreatest.of_forall_le {routes : List Route} {i : Nat}
    (h : IsFirstGreatest (routes.map (sharedWith (dir.takeWhile (· != '/')))) i)
    (hi : i < routes.length) (hle : ∀ r ∈ routes, sharedWith dir r ≤ sharedWith dir routes[i]) :
    IsFirstGreatest (routes.map (sharedWith dir)) i := by
  refine ⟨h.lt_length.trans_eq (by simp), ?_, fun j hj => ?_⟩
  · simpa using hle
  · have hlt := h.lt j hj
    simp only [List.getElem_map, sharedWith_takeWhile] at hlt ⊢
    -- an earlier route shares nothing and this one something
    omega

theorem getElem?_routeItems (hline : mentions line routeWords = true) (j : Nat) :
    (routeItems document line t)[j]? = t.routes[j]?.map fun r => routeItem r
      (some j == firstGreatest (t.routes.map (sharedWith (controllerOf document)))) := by
  rw [routeItems, if_pos hline]
  simp only [List.getElem?_map, List.getElem?_zipIdx, Option.map_map, Nat.zero_add]
  rfl

theorem label_routeItems (hline : mentions line routeWords = true) :
    (routeItems document line t).map (·.label) = t.helpers := by
  refine List.ext_getElem? fun j => ?_
  simp only [List.getElem?_map, getElem?_routeItems hline, RouteTable.helpers, Option.map_map]
  rfl

/-- On a line that uses routes there is a candidate for each route of the table, in its order and
under its helper, and exactly one is selected: the first of those that share the most of the
controller that the document is taken to belong to.  Under the views this is the first segment of
the directory, and the selected route is the first of those that share the most of the whole
directory just where no other shares more, as is so of a directory of one segment. -/
theorem routeItems_preselect (document : Path) {rs : List Route}
    (hroutes : (RouteTable.ofList rs).routes ≠ []) (hline : mentions line routeWords = true) :
    (routeItems document line (.ofList rs)).map (·.label) = (RouteTable.ofList rs).helpers ∧
    (RouteTable.ofList rs).helpers.Nodup ∧
    ∃ i, ∃ hi : i < (RouteTable.ofList rs).routes.length,
      (∀ j item, (routeItems document line (.ofList rs))[j]? = some item →
        (item.preselect = true ↔ j = i)) ∧
      IsFirstGreatest ((RouteTable.ofList rs).routes.map (sharedWith (controllerOf document))) i ∧
      ∀ root dir file, IsView document root dir file →
        controllerOf document = dir.takeWhile (· != '/') ∧
        (IsFirstGreatest ((RouteTable.ofList rs).routes.map (sharedWith dir)) i ↔
          ∀ r ∈ (RouteTable.ofList rs).routes,
            sharedWith dir r ≤ sharedWith dir (RouteTable.ofList rs).routes[i]) ∧
        ('/' ∉ dir → IsFirstGreatest ((RouteTable.ofList rs).routes.map (sharedWith dir)) i) := by
  generalize hT : RouteTable.ofList rs = t at hroutes ⊢
  obtain ⟨i, hbest⟩ :
      ∃ i, firstGreatest (t.routes.map (sharedWith (controllerOf document))) = some i :=
    exists_firstGreatest (mt List.map_eq_nil_iff.1 hroutes)
  have hfirst := firstGreatest_eq_some_iff.1 hbest
  have hi : i < t.routes.length := hfirst.lt_length.trans_eq (List.length_map _)
  refine ⟨label_routeItems hline, hT ▸ RouteTable.nodup_helpers_ofList rs, i, hi,
    fun j item hj => ?_, hfirst, fun root dir file hview => ?_⟩
  · rw [getElem?_routeItems hline, hbest] at hj
    obtain ⟨r, -, rfl⟩ := Option.map_eq_some_iff.1 hj
    simp [routeItem]
  · rw [hview.controllerOf_eq] at hfirst
    refine ⟨hview.controllerOf_eq, ⟨fun h r hr => ?_, hfirst.of_forall_le hi⟩, fun hdir => ?_⟩
    · simpa using h.le _ (List.mem_map_of_mem hr)
    · have hself : dir.takeWhile (· != '/') = dir :=
        List.takeWhile_eq_self_iff.2 fun c hc => bne_iff_ne.2 (ne_of_mem_of_not_mem hc hdir)
      rwa [hself] at hfirst

/-- Two routes of a namespace. -/
def adminRoutes : List Route :=
  [{ helper := "admin_posts", controller := some "admin/posts" },
    { helper := "admin_users", controller := some "admin/users" }]

/-- A view in a directory of two segments. -/
def adminView : Path := .ofString "/p/app/views/admin/users/index.html.haml"

theorem isView_adminView :
    IsView adminView "/p".toList "admin/users".toList "index.html.haml".toList where
  display := by decide
  last := afterDirectory?_eq_none_iff.1 (by decide)
  oneLine := by decide
  slashes := by decide
  plain := dropEnd?_eq_none_iff.1 (by decide)

theorem routeItems_preselect_namespace :
    (RouteTable.ofList adminRoutes).routes ≠ [] ∧
    mentions "= link_to 'x', ".toList routeWords = true ∧
    (routeItems adminView "= link_to 'x', ".toList (.ofList adminRoutes)).map (·.label) =
      (RouteTable.ofList adminRoutes).helpers ∧
    controllerOf adminView = "admin".toList ∧
    ∃ i : Nat, ∀ (j : Nat) (item : CompletionItem),
      (routeItems adminView "= link_to 'x', ".toList (.ofList adminRoutes))[j]? = some item →
        (item.preselect = true ↔ j = i) :=
  have hroutes : (RouteTable.ofList adminRoutes).routes ≠ [] := by decide
  have hline : mentions "= link_to 'x', ".toList routeWords = true := by decide
  have h := routeItems_preselect adminView hroutes hline
  have ⟨i, _, hselected, _, hview⟩ := h.2.2
  ⟨hroutes, hline, h.1, (hview _ _ _ isView_adminView).1, i, hselected⟩

/-- The first route of the namespace is selected, and the second shares more of the directory. -/
theorem routeItems_first_of_namespace :
    (routeItems adminView "= link_to 'x', ".toList (.ofList adminRoutes)).map (·.preselect) =
      [true, false] ∧
    (RouteTable.ofList adminRoutes).routes.map (sharedWith "admin/users".toList) = [1, 2] := by
  decide

end HamlServer.Suggest
