import HamlServer.Proofs.Session.Results
import Mathlib.Data.List.DropRight
import Mathlib.Data.List.Induction

/-!
# What is found out about a project, and when

A project remembers two things, and not for the same time.  Whether it is a Rails project is found
out once and never again.  Its routes are listed once and kept, also when the listing failed, until
they are forgotten.  Between two uses the files may change in any way, and the tool may list
anything or fail.

`Query` is what a project can be used for, and `trace` keeps a record of each use.  From the records
alone, `verdict` reads off the kind of the project, and `latestListing` the listing that its routes
come from.

* `load_cases`: what loading the routes comes to.
* `Remembers`: what a project knows after some records; `remembers_perform` is one use.
* `trace_records`: each record of any trace.
-/

namespace HamlServer

/-- The files of a Rails project at the root that has nothing but the markers. -/
def Rails.skeleton : Directory where
  tree := markers.foldl (fun t m => t.write ((Path.ofString m).octets.splitOn slash) []) .empty
  cwd := []

namespace Project

/-! ## Uses of a project -/

/-- What a project is used for. -/
inductive Query where
  | root
  | kind
  | routes
  | forget
  deriving DecidableEq

/-- A use of a project, with the files and the tool as they are at that moment. -/
structure Use where
  query : Query
  files : Directory
  listing : Path → Except ToolError String

/-- What a use of a project gives. -/
inductive Answer where
  | root (path : Option Path)
  | kind (rails : Bool)
  | routes (table : RouteTable)
  | nothing

/-- A use of a project, what it gave, and the project whose routes were listed for it. -/
structure Record where
  use : Use
  answer : Answer
  listed : Option Path

/-- Uses a project. -/
def perform (p : Project) (u : Use) : Project × Record :=
  match u.query with
  | .root => (p, ⟨u, .root p.root, none⟩)
  | .kind => (p.classify u.files, ⟨u, .kind (p.classify u.files).isRails, none⟩)
  | .routes =>
    let loaded := p.load u.files u.listing
    (loaded.1, ⟨u, .routes loaded.1.routes, loaded.2⟩)
  | .forget => (p.forget, ⟨u, .nothing, none⟩)

/-- Uses a project again and again. -/
def trace : Project → List Use → Project × List Record
  | p, [] => (p, [])
  | p, u :: us =>
    let performed := p.perform u
    let traced := trace performed.1 us
    (traced.1, performed.2 :: traced.2)

/-! ## What the records say -/

/-- Whether a use asks for the kind of the project. -/
def Record.examines (r : Record) : Bool := r.use.query == .kind || r.use.query == .routes

/-- The kind of the project as the first use found it that asked for it. -/
def verdict (root : Option Path) (rs : List Record) : Option Bool :=
  (rs.find? Record.examines).map fun r => root.any (Rails.isProject r.use.files)

/-- The records since the routes were last forgotten. -/
def sinceForgotten (rs : List Record) : List Record := rs.rtakeWhile fun r => r.use.query != .forget

/-- What the latest listing gave that was made since the routes were last forgotten. -/
def latestListing (rs : List Record) : Option (Except ToolError String) :=
  ((sinceForgotten rs).filterMap fun r => r.listed.map r.use.listing).getLast?

/-- The routes of a listing; there are none if it failed, or if none was made. -/
def tableOf (root : Option Path) : Option (Except ToolError String) → RouteTable
  | some (.ok output) => Rails.parseListing root output
  | _ => .empty

variable {p : Project} {root : Option Path} {rs : List Record} {r : Record}

theorem verdict_concat (root : Option Path) (rs : List Record) (r : Record) :
    verdict root (rs ++ [r]) = (verdict root rs).or
      (if r.examines then some (root.any (Rails.isProject r.use.files)) else none) := by
  rw [verdict, verdict, List.find?_append, Option.map_or]
  congr 1
  rw [List.find?_singleton]
  cases r.examines <;> rfl

theorem verdict_concat_of_not_examines (root : Option Path) (rs : List Record)
    (h : ¬ r.examines = true) : verdict root (rs ++ [r]) = verdict root rs := by
  rw [verdict_concat, if_neg h, Option.or_none]

theorem verdict_append_of_some {b : Bool} (h : verdict root rs = some b) (later : List Record) :
    verdict root (rs ++ later) = some b := by
  obtain ⟨first, hfirst, hb⟩ := Option.map_eq_some_iff.1 h
  rw [verdict, List.find?_append, hfirst]
  exact congrArg some hb

/-- Only a project with a root can be a Rails project. -/
theorem isSome_of_verdict (h : verdict root rs = some true) : root.isSome = true := by
  obtain ⟨_, _, hany⟩ := Option.map_eq_some_iff.1 h
  cases root with
  | none => cases hany
  | some path => rfl

theorem sinceForgotten_concat_of_ne (h : r.use.query ≠ .forget) :
    sinceForgotten (rs ++ [r]) = sinceForgotten rs ++ [r] :=
  List.rtakeWhile_concat_pos _ _ _ (bne_iff_ne.2 h)

theorem sinceForgotten_concat_of_eq (h : r.use.query = .forget) :
    sinceForgotten (rs ++ [r]) = [] :=
  List.rtakeWhile_concat_neg _ _ _ (by simp [h])

theorem latestListing_concat_of_ne (h : r.use.query ≠ .forget) :
    latestListing (rs ++ [r]) = (r.listed.map r.use.listing).or (latestListing rs) := by
  rw [latestListing, sinceForgotten_concat_of_ne h, List.filterMap_append]
  cases hl : r.listed with
  | none => simp only [List.filterMap_cons, hl, Option.map_none, List.filterMap_nil,
      List.append_nil, Option.none_or, latestListing]
  | some path => simp [hl]

theorem latestListing_concat_of_eq (h : r.use.query = .forget) :
    latestListing (rs ++ [r]) = none := by
  rw [latestListing, sinceForgotten_concat_of_eq h]
  rfl

/-! ## Loading -/

theorem classify_eq (p : Project) (files : Directory) : p.classify files =
    { p with rails := p.rails.or (some (p.root.any (Rails.isProject files))) } := by
  cases h : p.rails with
  | some b => rw [classify_of_rails h, Option.some_or, ← h]
  | none => rw [classify_of_rails_eq_none h, Option.none_or]

theorem isRails_eq_true_iff : p.isRails = true ↔ p.rails = some true := by
  rw [isRails]
  cases p.rails with
  | none => exact iff_of_false Bool.noConfusion (Option.some_ne_none true).symm
  | some b => exact ⟨congrArg some, Option.some.inj⟩

/-- What loading the routes comes to: they are loaded already, they are listed, or the project is
found not to be a Rails project. -/
theorem load_cases (p : Project) (files : Directory) (listing : Path → Except ToolError String) :
    (p.loaded = true ∧ p.load files listing = (p, none)) ∨
    (p.loaded = false ∧ ∃ path, p.root = some path ∧ (p.classify files).isRails = true ∧
      p.load files listing = ({ p.classify files with
        routes := routesOf path (listing path), loaded := true }, some path)) ∨
    (p.loaded = false ∧ ¬ (p.root.isSome = true ∧ (p.classify files).isRails = true) ∧
      p.load files listing = (p.classify files, none)) := by
  rw [load]
  cases hl : p.loaded with
  | true => exact Or.inl ⟨rfl, if_pos rfl⟩
  | false =>
    refine Or.inr ?_
    rw [if_neg Bool.false_ne_true]
    dsimp only
    split
    · next path hrails hroot =>
      exact Or.inl ⟨rfl, path, (extends_classify p files).root.symm.trans hroot, hrails, rfl⟩
    · next hnot =>
      refine Or.inr ⟨rfl, ?_, rfl⟩
      rintro ⟨hsome, hrails⟩
      obtain ⟨path, hpath⟩ := Option.isSome_iff_exists.1 hsome
      exact hnot path hrails ((extends_classify p files).root.trans hpath)

/-! ## One use -/

/-- The routes were asked for since they were last forgotten. -/
def Asked (rs : List Record) : Prop := ∃ r ∈ sinceForgotten rs, r.use.query = .routes

instance : Decidable (Asked rs) :=
  inferInstanceAs (Decidable (∃ r ∈ sinceForgotten rs, r.use.query = .routes))

theorem asked_concat : Asked (rs ++ [r]) ↔
    r.use.query ≠ .forget ∧ (Asked rs ∨ r.use.query = .routes) := by
  by_cases h : r.use.query = .forget
  · rw [Asked, sinceForgotten_concat_of_eq h]
    simp [h]
  · rw [Asked, sinceForgotten_concat_of_ne h]
    simp only [Asked, ne_eq, h, not_false_eq_true, true_and, List.mem_append, List.mem_singleton,
      or_and_right, exists_or, exists_eq_left]

/-- Who asked for the routes knows the kind of the project. -/
theorem exists_verdict_of_asked (h : Asked rs) (root : Option Path) :
    ∃ b, verdict root rs = some b := by
  obtain ⟨r, hr, hquery⟩ := h
  have hmem : r ∈ rs := (List.rtakeWhile_suffix _ _).mem hr
  have hexamines : r.examines = true := by simp [Record.examines, hquery]
  obtain ⟨first, hfirst⟩ :=
    Option.isSome_iff_exists.1 (List.find?_isSome.2 ⟨r, hmem, hexamines⟩)
  exact ⟨_, congrArg _ hfirst⟩

/-- The kind that is found now is the one that was known when the routes were asked for. -/
theorem verdict_of_asked {b : Bool} (h : Asked rs) (later : List Record)
    (hb : verdict root (rs ++ later) = some b) : verdict root rs = some b := by
  obtain ⟨b', hb'⟩ := exists_verdict_of_asked h root
  rw [verdict_append_of_some hb' later] at hb
  rw [hb', hb]

/-- What a project knows after some uses: its root, its kind as the first use found it that asked
for it, and the routes of the latest listing.  The routes of a Rails project are loaded if they were
asked for. -/
structure Remembers (root : Option Path) (rs : List Record) (p : Project) : Prop where
  rooted : p.root = root
  kind : p.rails = verdict root rs
  loaded : p.loaded = true ↔ verdict root rs = some true ∧ Asked rs
  routes : p.routes = tableOf root (latestListing rs)

/-- A record is as the records before it want it.  Root and kind are given as they are known.  A
listing is made for the first use that asks for the routes of a Rails project since they were
forgotten, and the routes given are those of the latest listing. -/
structure Record.Lawful (root : Option Path) (before : List Record) (r : Record) : Prop where
  rooted : r.use.query = .root → r.answer = .root root
  kind : r.use.query = .kind → ∃ b, verdict root (before ++ [r]) = some b ∧ r.answer = .kind b
  routes : r.use.query = .routes → r.answer = .routes (tableOf root (latestListing (before ++ [r])))
  listed : ∀ path, r.listed = some path ↔ r.use.query = .routes ∧ root = some path ∧
    verdict root (before ++ [r]) = some true ∧ ¬ Asked before

theorem remembers_start (root : Option Path) : Remembers root [] { root } where
  rooted := rfl
  kind := rfl
  loaded := by simp [verdict]
  routes := rfl

/-- A use that asks for the kind of the project finds it. -/
theorem Remembers.classify (h : Remembers root rs p) (hr : r.examines = true) :
    (p.classify r.use.files).rails = verdict root (rs ++ [r]) := by
  rw [classify_eq, verdict_concat, if_pos hr, h.kind, h.rooted]

/-- A use that asks for no routes and does not forget them leaves them. -/
theorem Remembers.loaded_concat (h : Remembers root rs p) (hroutes : r.use.query ≠ .routes)
    (hforget : r.use.query ≠ .forget) :
    p.loaded = true ↔ verdict root (rs ++ [r]) = some true ∧ Asked (rs ++ [r]) := by
  rw [h.loaded, asked_concat]
  constructor
  · rintro ⟨hverdict, hasked⟩
    exact ⟨verdict_append_of_some hverdict [r], hforget, Or.inl hasked⟩
  · rintro ⟨hverdict, _, hasked | hquery⟩
    · exact ⟨verdict_of_asked hasked [r] hverdict, hasked⟩
    · exact absurd hquery hroutes

theorem Remembers.routes_concat (h : Remembers root rs p) (hlisted : r.listed = none)
    (hforget : r.use.query ≠ .forget) : p.routes = tableOf root (latestListing (rs ++ [r])) := by
  rw [latestListing_concat_of_ne hforget, hlisted, h.routes]
  rfl

/-- A use that asks for the root changes nothing. -/
theorem remembers_perform_root (h : Remembers root rs p) (hr : r.use.query = .root)
    (hanswer : r.answer = .root p.root) (hlisted : r.listed = none) :
    Remembers root (rs ++ [r]) p ∧ r.Lawful root rs := by
  have hkind := verdict_concat_of_not_examines root rs (r := r) (by simp [Record.examines, hr])
  have hloaded := h.loaded_concat (r := r) (by simp [hr]) (by simp [hr])
  have hroutes := h.routes_concat hlisted (by simp [hr])
  refine ⟨⟨h.rooted, h.kind.trans hkind.symm, hloaded, hroutes⟩, ?_⟩
  refine ⟨fun _ => by rw [hanswer, h.rooted], by simp [hr], by simp [hr], fun path => ?_⟩
  exact iff_of_false (by simp [hlisted]) (by simp [hr])

/-- A use that asks for the kind finds it, unless it is known. -/
theorem remembers_perform_kind (h : Remembers root rs p) (hr : r.use.query = .kind)
    (hanswer : r.answer = .kind (p.classify r.use.files).isRails) (hlisted : r.listed = none) :
    Remembers root (rs ++ [r]) (p.classify r.use.files) ∧ r.Lawful root rs := by
  have hkind := h.classify (r := r) (by simp [Record.examines, hr])
  have hloaded := h.loaded_concat (r := r) (by simp [hr]) (by simp [hr])
  have hroutes := h.routes_concat hlisted (by simp [hr])
  refine ⟨⟨(extends_classify p r.use.files).root.trans h.rooted, hkind, ?_, ?_⟩, ?_⟩
  · rw [classify_eq]
    exact hloaded
  · rw [classify_eq]
    exact hroutes
  · refine ⟨by simp [hr], fun _ => ?_, by simp [hr], fun path => ?_⟩
    · obtain ⟨b, hb⟩ : ∃ b, (p.classify r.use.files).rails = some b := by
        rw [classify_eq]
        cases p.rails <;> exact ⟨_, rfl⟩
      refine ⟨b, hkind.symm.trans hb, ?_⟩
      rw [hanswer, isRails, hb]
      rfl
    · exact iff_of_false (by simp [hlisted]) (by simp [hr])

/-- The kind outlives the routes. -/
theorem remembers_perform_forget (h : Remembers root rs p) (hr : r.use.query = .forget)
    (hlisted : r.listed = none) : Remembers root (rs ++ [r]) p.forget ∧ r.Lawful root rs := by
  have hkind := verdict_concat_of_not_examines root rs (r := r) (by simp [Record.examines, hr])
  refine ⟨⟨h.rooted, h.kind.trans hkind.symm, ?_, ?_⟩, ?_⟩
  · exact iff_of_false Bool.false_ne_true fun hwant => (asked_concat.1 hwant.2).1 hr
  · rw [latestListing_concat_of_eq hr]
    rfl
  · refine ⟨by simp [hr], by simp [hr], by simp [hr], fun path => ?_⟩
    exact iff_of_false (by simp [hlisted]) (by simp [hr])

/-- The routes are loaded, so that they are given as they are. -/
theorem remembers_perform_routes_of_loaded (h : Remembers root rs p) (hr : r.use.query = .routes)
    (hl : p.loaded = true) (hanswer : r.answer = .routes p.routes) (hlisted : r.listed = none) :
    Remembers root (rs ++ [r]) p ∧ r.Lawful root rs := by
  obtain ⟨hverdict, hbefore⟩ := h.loaded.1 hl
  have hstill := verdict_append_of_some hverdict [r]
  have hasked : Asked (rs ++ [r]) := asked_concat.2 ⟨by simp [hr], Or.inr hr⟩
  have hroutes := h.routes_concat hlisted (by simp [hr])
  refine ⟨⟨h.rooted, by rw [hstill, h.kind, hverdict], ?_, hroutes⟩, ?_⟩
  · exact iff_of_true hl ⟨hstill, hasked⟩
  refine ⟨by simp [hr], by simp [hr], fun _ => by rw [hanswer, hroutes], fun path => ?_⟩
  exact iff_of_false (by simp [hlisted]) fun hwant => hwant.2.2.2 hbefore

/-- The routes of a Rails project are listed, and they are given whether or not that succeeds. -/
theorem remembers_perform_routes_of_listed {q : Project} {path : Path} (h : Remembers root rs p)
    (hr : r.use.query = .routes) (hl : p.loaded = false) (hpath : p.root = some path)
    (hrails : (p.classify r.use.files).isRails = true)
    (hq : q = { p.classify r.use.files with
      routes := routesOf path (r.use.listing path), loaded := true })
    (hanswer : r.answer = .routes q.routes) (hlisted : r.listed = some path) :
    Remembers root (rs ++ [r]) q ∧ r.Lawful root rs := by
  have hkind := h.classify (r := r) (by simp [Record.examines, hr])
  have hroot : root = some path := h.rooted.symm.trans hpath
  have hverdict : verdict root (rs ++ [r]) = some true :=
    hkind.symm.trans (isRails_eq_true_iff.1 hrails)
  -- had the routes been asked for before, they would be loaded
  have hnew : ¬ Asked rs := fun hbefore => by
    have hloaded := h.loaded.2 ⟨verdict_of_asked hbefore [r] hverdict, hbefore⟩
    rw [hl] at hloaded
    cases hloaded
  have hasked : Asked (rs ++ [r]) := asked_concat.2 ⟨by simp [hr], Or.inr hr⟩
  have hroutes : q.routes = tableOf root (latestListing (rs ++ [r])) := by
    rw [latestListing_concat_of_ne (by simp [hr]), hlisted, hroot, hq]
    dsimp only [Option.map_some, Option.some_or]
    cases r.use.listing path <;> rfl
  refine ⟨⟨?_, ?_, ?_, hroutes⟩, ?_⟩
  · rw [hq]
    exact (extends_classify p r.use.files).root.trans h.rooted
  · rw [hq]
    exact hkind
  · exact iff_of_true (by rw [hq]) ⟨hverdict, hasked⟩
  · refine ⟨by simp [hr], by simp [hr], fun _ => by rw [hanswer, hroutes], fun path' => ?_⟩
    rw [hlisted, hroot]
    simp [hr, ← hroot, hverdict, hnew]

/-- The routes of a project that is no Rails project are not listed. -/
theorem remembers_perform_routes_of_not_rails {q : Project} (h : Remembers root rs p)
    (hr : r.use.query = .routes) (hl : p.loaded = false)
    (hnot : ¬ (p.root.isSome = true ∧ (p.classify r.use.files).isRails = true))
    (hq : q = p.classify r.use.files) (hanswer : r.answer = .routes q.routes)
    (hlisted : r.listed = none) :
    Remembers root (rs ++ [r]) q ∧ r.Lawful root rs := by
  have hkind := h.classify (r := r) (by simp [Record.examines, hr])
  have hverdict : verdict root (rs ++ [r]) ≠ some true := fun hv =>
    hnot ⟨by rw [h.rooted]; exact isSome_of_verdict hv, isRails_eq_true_iff.2 (hkind.trans hv)⟩
  have hroutes : q.routes = tableOf root (latestListing (rs ++ [r])) := by
    rw [← h.routes_concat hlisted (by simp [hr]), hq, classify_eq]
  refine ⟨⟨?_, ?_, ?_, hroutes⟩, ?_⟩
  · rw [hq]
    exact (extends_classify p r.use.files).root.trans h.rooted
  · rw [hq]
    exact hkind
  · refine iff_of_false ?_ fun hwant => hverdict hwant.1
    rw [hq, classify_eq]
    simp [hl]
  · refine ⟨by simp [hr], by simp [hr], fun _ => by rw [hanswer, hroutes], fun path => ?_⟩
    exact iff_of_false (by simp [hlisted]) fun hwant => hverdict hwant.2.2.1

/-- A use of a project is recorded as it should be, and the project remembers it. -/
theorem remembers_perform (h : Remembers root rs p) (u : Use) :
    Remembers root (rs ++ [(p.perform u).2]) (p.perform u).1 ∧
      (p.perform u).2.Lawful root rs := by
  cases hu : u.query with
  | root =>
    simp only [perform, hu]
    exact remembers_perform_root h hu rfl rfl
  | kind =>
    simp only [perform, hu]
    exact remembers_perform_kind h hu rfl rfl
  | forget =>
    simp only [perform, hu]
    exact remembers_perform_forget h hu rfl
  | routes =>
    rcases load_cases p u.files u.listing with ⟨hl, hload⟩ | ⟨hl, path, hpath, hrails, hload⟩ |
      ⟨hl, hnot, hload⟩
    · simp only [perform, hu, hload]
      exact remembers_perform_routes_of_loaded h hu hl rfl rfl
    · simp only [perform, hu, hload]
      exact remembers_perform_routes_of_listed h hu hl hpath hrails rfl rfl rfl
    · simp only [perform, hu, hload]
      exact remembers_perform_routes_of_not_rails h hu hl hnot rfl rfl rfl

/-! ## All uses -/

theorem trace_concat (p : Project) (us : List Use) (u : Use) :
    p.trace (us ++ [u]) = (((p.trace us).1.perform u).1,
      (p.trace us).2 ++ [((p.trace us).1.perform u).2]) := by
  induction us generalizing p with
  | nil => rfl
  | cons v us ih =>
    simp only [List.cons_append, trace, ih]

theorem perform_use (p : Project) (u : Use) : (p.perform u).2.use = u := by
  rw [perform]
  split <;> rfl

/-- A record of a listing is one of a use that asked for the routes. -/
theorem asked_of_listed {before : List Record}
    (h : ∀ front x rest, before = front ++ x :: rest → x.Lawful root front)
    {x : Record} (hx : x ∈ sinceForgotten before) (hlisted : x.listed.isSome = true) :
    Asked before := by
  obtain ⟨front, rest, hsplit⟩ := List.append_of_mem ((List.rtakeWhile_suffix _ _).mem hx)
  obtain ⟨path, hpath⟩ := Option.isSome_iff_exists.1 hlisted
  exact ⟨x, hx, (((h front x rest hsplit).listed path).1 hpath).1⟩

/-- Uses of a project are recorded as they should be, and the project remembers them. -/
theorem remembers_trace (root : Option Path) (us : List Use) :
    Remembers root (trace { root } us).2 (trace { root } us).1 ∧
      (trace { root } us).2.map Record.use = us ∧
      ∀ before r after, (trace { root } us).2 = before ++ r :: after → r.Lawful root before := by
  induction us using List.reverseRecOn with
  | nil => exact ⟨remembers_start root, rfl, fun before r after h => by simp [trace] at h⟩
  | append_singleton us u ih =>
    obtain ⟨hremembers, huses, hlawful⟩ := ih
    obtain ⟨hnext, hrecord⟩ := remembers_perform hremembers u
    rw [trace_concat]
    refine ⟨hnext, by rw [List.map_append, huses, List.map_singleton, perform_use], ?_⟩
    intro before r after h
    rcases List.eq_nil_or_concat after with rfl | ⟨later, last, rfl⟩
    · obtain ⟨rfl, hr⟩ := List.append_inj' h rfl
      rw [← List.singleton_inj.1 hr]
      exact hrecord
    · rw [List.concat_eq_append, ← List.cons_append, ← List.append_assoc] at h
      exact hlawful before r later (List.append_inj' h rfl).1

/-- **What a project finds out, over all its uses.**  However a project is used, and whatever the
files and the tool are at each use, all records are lawful.  So the kind of the project is the one
that the first use found that asked for it, and it stays.  The routes are listed exactly for the
first use that asks for them, of a Rails project, since they were forgotten; until they are
forgotten again no listing follows, also when this one failed.  The routes given are those of the
latest listing since they were forgotten, and none if it failed or was not made.  Nothing is listed
for a project without a root, or of another kind. -/
theorem trace_records (root : Option Path) (us : List Use) :
    (trace { root } us).2.map Record.use = us ∧
    (trace { root } us).1.rails = verdict root (trace { root } us).2 ∧
    (∀ before r after, (trace { root } us).2 = before ++ r :: after → r.Lawful root before ∧
      ((∃ x ∈ sinceForgotten before, x.listed.isSome = true) → r.listed = none)) ∧
    (root = none ∨ (trace { root } us).1.rails = some false →
      ∀ r ∈ (trace { root } us).2, r.listed = none) := by
  obtain ⟨hremembers, huses, hlawful⟩ := remembers_trace root us
  refine ⟨huses, hremembers.kind, fun before r after h => ⟨hlawful before r after h, ?_⟩, ?_⟩
  · rintro ⟨x, hx, hlisted⟩
    have hbefore : ∀ front y rest, before = front ++ y :: rest → y.Lawful root front :=
      fun front y rest hsplit => hlawful front y (rest ++ r :: after) <| by
        rw [h, hsplit, List.append_assoc, List.cons_append]
    refine Option.eq_none_iff_forall_ne_some.2 fun path hpath => ?_
    exact (((hlawful before r after h).listed path).1 hpath).2.2.2
      (asked_of_listed hbefore hx hlisted)
  · intro hnever r hr
    obtain ⟨before, after, h⟩ := List.append_of_mem hr
    refine Option.eq_none_iff_forall_ne_some.2 fun path hpath => ?_
    obtain ⟨-, hroot, hverdict, -⟩ := ((hlawful before r after h).listed path).1 hpath
    have hwhole := verdict_append_of_some hverdict after
    rw [List.append_assoc, List.singleton_append, ← h, ← hremembers.kind] at hwhole
    rcases hnever with hnone | hother
    · rw [hroot] at hnone
      cases hnone
    · rw [hwhole] at hother
      cases hother

/-- Routes that are asked for again after a listing that failed, and again after they were
forgotten. -/
theorem trace_records_retry :
    let files := Rails.skeleton
    let root := Path.ofString "/"
    let fails : Path → Except ToolError String := fun _ => .error (.notFound "rails")
    let us : List Use := [⟨.routes, files, fails⟩, ⟨.routes, files, fails⟩, ⟨.forget, files, fails⟩,
      ⟨.routes, files, fails⟩]
    ∃ first second third fourth,
      (trace { root := some root } us).2 = [first, second, third, fourth] ∧
      first.listed = some root ∧ second.listed = none ∧ fourth.listed = some root := by
  intro files root fails us
  obtain ⟨-, -, hlawful, -⟩ := trace_records (some root) us
  refine ⟨_, _, _, _, rfl, ?_, ?_, ?_⟩
  · exact ((hlawful [] _ _ rfl).1.listed root).2 ⟨rfl, rfl, by decide +kernel, by decide⟩
  · exact (hlawful [_] _ _ rfl).2 (by decide +kernel)
  · exact ((hlawful [_, _, _] _ _ rfl).1.listed root).2
      ⟨rfl, rfl, by decide +kernel, by decide +kernel⟩

end Project

end HamlServer
