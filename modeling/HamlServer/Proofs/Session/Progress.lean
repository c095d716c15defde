import HamlServer.Proofs.Session.Loading

/-!
# The progress of loading the routes

When the editor says that it is ready and the project is a Rails project, the server asks for a
progress bar, loads the routes, and shows how many there are.  `progressBlock` is all that is
written then.

The bars are numbered by a counter of the session, and the routes are remembered by the project.  So
over a whole session the numbers run from one without a gap, all blocks tell the same number of
routes, and the routes are listed once at most, for whatever request they are needed first.

* `step_of_showsProgress` and `step_of_not_showsProgress`: one message.
* `progress_serve`: whole sessions.
-/

namespace HamlServer

namespace Outgoing

/-- A message asks for a progress bar. -/
def isCreate : Outgoing → Bool
  | .request _ method _ => method == "window/workDoneProgress/create"
  | _ => false

/-- A message is about a progress bar. -/
def isProgress : Outgoing → Bool
  | .notification method _ => method == "$/progress"
  | _ => false

/-- What is written about the `k`-th task: its bar is asked for, begins, is full, and ends, and the
number of routes is written to the log. -/
def progressBlock (k count : Nat) : List Outgoing :=
  let token := ("token", Json.string s!"routes-{k}")
  let progress (value : List (String × Json)) : Outgoing :=
    .notification "$/progress" (.ofMembers [token, ("value", .ofMembers value)])
  [.request (.number (Int64.ofNat k)) "window/workDoneProgress/create" (.ofMembers [token]),
    progress [("kind", .string "begin"), ("title", .string "Loading Rails routes"),
      ("cancellable", .bool false)],
    progress [("kind", .string "report"), ("message", .string s!"{count} routes loaded"),
      ("percentage", .nat 100)],
    progress [("kind", .string "end")],
    .notification "window/logMessage" (.ofMembers [("type", .nat 3),
      ("message", .string s!"[Haml LSP] Loaded {count} Rails routes")])]

/-- A block has one message that asks for a bar, its first one. -/
theorem eq_nil_of_progressBlock {k count : Nat} {front back : List Outgoing} {m : Outgoing}
    (h : progressBlock k count = front ++ m :: back) (hm : m.isCreate = true) : front = [] := by
  cases front with
  | nil => rfl
  | cons first front =>
    have hrest : m ∈ (progressBlock k count).tail := by
      rw [h]
      simp
    simp only [progressBlock, List.tail_cons, List.mem_cons, List.not_mem_nil, or_false] at hrest
    rcases hrest with rfl | rfl | rfl | rfl <;> cases hm

theorem countP_isCreate_progressBlock (k count : Nat) :
    (progressBlock k count).countP isCreate = 1 := rfl

/-- A message under another method is about no bar. -/
theorem not_progress_of_method? {m : Outgoing}
    (h : m.method? ≠ some "window/workDoneProgress/create" ∧ m.method? ≠ some "$/progress") :
    m.isCreate = false ∧ m.isProgress = false := by
  cases m with
  | response | error => exact ⟨rfl, rfl⟩
  | notification method params =>
    refine ⟨rfl, beq_false_of_ne fun heq => h.2 ?_⟩
    rw [method?, heq]
  | request id method params =>
    refine ⟨beq_false_of_ne fun heq => h.1 ?_, rfl⟩
    rw [method?, heq]

end Outgoing

namespace Project

variable {p q : Project} {files : Directory} {listing : Path → Except ToolError String}
  {listed : List Path}

/-- A project that is known to be a Rails project has a root. -/
def Rooted (p : Project) : Prop := p.rails = some true → p.root.isSome = true

theorem rooted_classify (h : p.Rooted) (files : Directory) : (p.classify files).Rooted := by
  intro hrails
  rw [classify_eq] at hrails ⊢
  cases hb : p.rails with
  | some b =>
    rw [hb] at hrails
    exact h (hb.trans hrails)
  | none =>
    rw [hb] at hrails
    have hany := Option.some.inj hrails
    cases hroot : p.root with
    | none =>
      rw [hroot] at hany
      cases hany
    | some path => rfl

theorem Finds.rooted (h : p.Finds files listing q listed) (hp : p.Rooted) : q.Rooted := by
  have hc := rooted_classify hp files
  cases h with
  | nothing => exact hp
  | kind => exact hc
  | routes =>
    rcases load_cases (p.classify files) files listing with
      ⟨_, hload⟩ | ⟨_, path, hroot, _, hload⟩ | ⟨_, _, hload⟩
    · rw [hload]
      exact hc
    · rw [hload]
      intro _
      exact Option.isSome_iff_exists.2
        ⟨path, (extends_classify (p.classify files) files).root.trans hroot⟩
    · rw [hload]
      exact rooted_classify hc files

/-- The number of listings that a project stands for. -/
def listingCount (p : Project) : Nat := if p.loaded then 1 else 0

theorem listingCount_classify (p : Project) (files : Directory) :
    (p.classify files).listingCount = p.listingCount := by
  rw [classify_eq]
  rfl

/-- Routes are listed only if they are not loaded, and then they are. -/
theorem Finds.listingCount (h : p.Finds files listing q listed) :
    q.listingCount = p.listingCount + listed.length := by
  cases h with
  | nothing => rfl
  | kind => exact listingCount_classify p files
  | routes =>
    rw [← listingCount_classify p files]
    rcases load_cases (p.classify files) files listing with
      ⟨_, hload⟩ | ⟨hl, path, _, _, hload⟩ | ⟨_, _, hload⟩
    · rw [hload]
      rfl
    · rw [hload]
      simp [Project.listingCount, hl]
    · rw [hload]
      exact listingCount_classify _ files

/-- Loading the routes of a Rails project leaves them loaded. -/
theorem loaded_load (hp : p.Rooted) (hrails : p.isRails = true) (files : Directory)
    (listing : Path → Except ToolError String) : (p.load files listing).1.loaded = true := by
  have hkind := isRails_eq_true_iff.1 hrails
  rcases load_cases p files listing with ⟨hl, hload⟩ | ⟨_, path, _, _, hload⟩ | ⟨_, hnot, hload⟩
  · rw [hload]
    exact hl
  · rw [hload]
  · exact absurd ⟨hp hkind, by rw [classify_of_rails hkind]; exact hrails⟩ hnot

end Project

namespace Session

variable {o : Options} {w : World} {s : Session} {p : Opened} {m : Incoming}

/-- The number of routes that the project is known to have. -/
def routeCount (s : Session) : Nat := (s.opened.map fun p => p.project.routes.size).getD 0

/-- The editor says that it is ready, and the project that is open is a Rails project. -/
def showsProgress (s : Session) (w : World) (m : Incoming) : Bool :=
  m.method == some "initialized" && s.opened.any fun p => (p.project.classify w.files).isRails

/-- If a project is open that is known to be a Rails project, it has a root. -/
def Rooted (s : Session) : Prop := ∀ p, s.opened = some p → p.project.Rooted

/-! ## One message -/

theorem step_ready (hs : s.opened = some p) (hm : m.method = some "initialized") :
    s.step o w m = ((s.ready w p.project).session, (s.ready w p.project).effects) := by
  have hg : s.gate .ready = .pass := by simp [gate, hs]
  have hresult : (s.ready w p.project).result = none := by
    rw [ready]
    split <;> rfl
  have hdispatch : s.step o w m = s.dispatch o w m.id .ready m.params := by
    rw [step, hm]
    simp only [show Method.ofName "initialized" = .ready from rfl, hg]
  rw [hdispatch]
  simp only [dispatch, Request.read?, handle, hs, handleOpened, hresult]
  cases m.id <;> simp [answer]

/-- The editor is ready for a Rails project: a block is written, with the number of routes that
stays known from then on. -/
theorem step_of_showsProgress (hs : s.Rooted) (h : s.showsProgress w m = true) (o : Options) :
    (s.step o w m).1.tasks = s.tasks + 1 ∧
      ∃ q, (s.step o w m).1.opened = some q ∧ q.project.loaded = true ∧
        written (s.step o w m).2 = Outgoing.progressBlock (s.tasks + 1) q.project.routes.size := by
  obtain ⟨hm, p, hp, hrails⟩ : m.method = some "initialized" ∧
      ∃ p, s.opened = some p ∧ (p.project.classify w.files).isRails = true := by
    simpa [showsProgress, Option.any_eq_true] using h
  have hkind := withProject_opened s hp (p.project.classify w.files)
  rw [step_ready hp hm]
  simp only [ready, hrails, if_true]
  refine ⟨rfl, _, loadRoutes_opened _ w hkind _, ?_, ?_⟩
  · exact Project.loaded_load (Project.rooted_classify (hs p hp) w.files) hrails _ _
  · simp only [written_append, written_loadRoutes, tell, written_write, written_nil]
    rfl

/-- Only the handler of `ready` counts tasks. -/
theorem handleOpened_tasks {r : Request} (hr : r ≠ .ready) :
    (s.handleOpened o w p r).session.tasks = s.tasks := by
  have synced (t : Session) (uri : String) (text : Option String) :
      (t.sync o w p.corrector uri text).session.tasks = t.tasks := by
    cases text with
    | none => rfl
    | some content =>
      simp only [sync]
      split <;> rfl
  cases r with
  | ready => exact absurd rfl hr
  | opened uri text => exact synced (s.tidy w) uri text
  | changed uri text => exact synced s uri text
  | saved uri text => cases text <;> exact synced _ uri _
  | format uri =>
    simp only [handleOpened, format, document]
    split <;> rfl
  | resolve action =>
    simp only [handleOpened, resolve, document]
    split
    · rfl
    · split <;> rfl
  | complete uri position =>
    simp only [handleOpened, complete, document]
    split <;> rfl
  | define uri position =>
    simp only [handleOpened, define, document]
    split <;> rfl
  | closed | actions | setup | shutdown | exit | unknown => rfl

/-- Without a Rails project to be ready for, a request is handled without a bar. -/
theorem handle_of_not_showsProgress {r : Request}
    (h : r = .ready → (s.opened.any fun p => (p.project.classify w.files).isRails) = false) :
    (s.handle o w r).session.tasks = s.tasks ∧
      ∀ x ∈ written (s.handle o w r).effects, x.isCreate = false ∧ x.isProgress = false := by
  cases r with
  | setup | shutdown => exact ⟨rfl, fun x hx => by cases hx⟩
  | ready =>
    cases hs : s.opened with
    | none =>
      simp only [handle, hs]
      exact ⟨trivial, fun x hx => by cases hx⟩
    | some p =>
      have hrails : (p.project.classify w.files).isRails = false := by simpa [hs] using h rfl
      simp only [handle, hs, handleOpened, ready, hrails]
      exact ⟨rfl, fun x hx => by cases hx⟩
  | _ =>
    cases hs : s.opened with
    | none =>
      simp only [handle, hs]
      exact ⟨trivial, fun x hx => by cases hx⟩
    | some p =>
      simp only [handle, hs]
      refine ⟨handleOpened_tasks (by simp), fun x hx => Outgoing.not_progress_of_method? ?_⟩
      rcases handleOpened_methods s o w p (by simp) x hx with hx | hx <;> rw [hx] <;> decide

/-- Any other message is handled without a bar. -/
theorem step_of_not_showsProgress (h : s.showsProgress w m = false) :
    (s.step o w m).1.tasks = s.tasks ∧
      ∀ x ∈ written (s.step o w m).2, x.isCreate = false ∧ x.isProgress = false := by
  rcases step_cases s o w m with ⟨_, he⟩ | ⟨_, _, _, _, _, he⟩ | ⟨_, _, _, _, he⟩ |
    ⟨name, r, hname, _, hq, he⟩
  · rw [he]
    exact ⟨rfl, fun x hx => by cases hx⟩
  · rw [he]
    refine ⟨rfl, fun x hx => ?_⟩
    cases hid : m.id with
    | none =>
      rw [hid] at hx
      cases hx
    | some id =>
      rw [hid] at hx
      obtain rfl := List.mem_singleton.1 hx
      exact ⟨rfl, rfl⟩
  · rw [he]
    refine ⟨rfl, fun x hx => ?_⟩
    obtain rfl := List.mem_singleton.1 hx
    exact ⟨rfl, rfl⟩
  · have hready : r = .ready → m.method = some "initialized" := by
      rintro rfl
      rw [request?, hname, Option.bind_some] at hq
      exact method_eq_name hname (Method.eq_of_known? (Request.method?_of_read? hq).symm)
    obtain ⟨htasks, hwritten⟩ := handle_of_not_showsProgress (o := o) (r := r) (s := s) (w := w)
      fun hr => by simpa [showsProgress, hready hr] using h
    rw [he]
    refine ⟨htasks, fun x hx => ?_⟩
    rw [written_append] at hx
    rcases List.mem_append.1 hx with hx | hx
    · exact hwritten x hx
    · cases hid : m.id <;> cases hresult : (s.handle o w r).result <;>
        simp_all [answer, Outgoing.isCreate, Outgoing.isProgress]

/-! ## What is found out about the project -/

/-- The number of listings that a session stands for. -/
def listingCount (s : Session) : Nat := (s.opened.map fun p => p.project.listingCount).getD 0

theorem listingCount_le_one (s : Session) : s.listingCount ≤ 1 := by
  rw [listingCount]
  cases s.opened with
  | none => exact Nat.zero_le 1
  | some p =>
    simp only [Option.map_some, Option.getD_some, Project.listingCount]
    split <;> decide

/-- While no project is open, nothing is listed; a project that is opened is one of which nothing
but its root is known. -/
theorem step_of_not_opened (hs : s.opened = none) (m : Incoming) :
    listings (s.step o w m).2 = [] ∧
      ∀ p, (s.step o w m).1.opened = some p → ∃ root, p.project = { root } := by
  have unchanged (p : Opened) (hp : s.opened = some p) : ∃ root, p.project = { root } := by
    rw [hs] at hp
    cases hp
  rcases step_cases s o w m with ⟨_, he⟩ | ⟨_, _, _, _, _, he⟩ | ⟨_, _, _, _, he⟩ |
    ⟨name, r, _, _, _, he⟩
  · rw [he]
    exact ⟨rfl, unchanged⟩
  · rw [he]
    refine ⟨?_, unchanged⟩
    cases m.id <;> rfl
  · rw [he]
    exact ⟨rfl, unchanged⟩
  · rw [he, listings_append, listings_answer, List.append_nil]
    cases r with
    | setup rootUri rootPath =>
      refine ⟨rfl, fun p hp => ⟨rootOf o rootUri rootPath, ?_⟩⟩
      rw [← Option.some.inj hp]
    | shutdown => exact ⟨rfl, unchanged⟩
    | _ =>
      rw [handle_eq_of_not_opened s o w hs (by simp [Request.method?]) (by simp [Request.method?])]
      exact ⟨rfl, unchanged⟩

theorem rooted_step (hs : s.Rooted) (o : Options) (w : World) (m : Incoming) :
    (s.step o w m).1.Rooted := by
  intro q hq
  cases ho : s.opened with
  | none =>
    obtain ⟨root, hroot⟩ := (step_of_not_opened ho m).2 q hq
    rw [hroot]
    exact fun hrails => by cases hrails
  | some p =>
    obtain ⟨q', hq', hfinds⟩ := step_finds s o w ho m
    obtain rfl := Option.some.inj (hq.symm.trans hq')
    exact hfinds.rooted (hs p ho)

theorem listingCount_step (s : Session) (o : Options) (w : World) (m : Incoming) :
    (s.step o w m).1.listingCount = s.listingCount + (listings (s.step o w m).2).length := by
  cases ho : s.opened with
  | none =>
    obtain ⟨hlistings, hfresh⟩ := step_of_not_opened (o := o) (w := w) ho m
    rw [hlistings, listingCount, listingCount, ho]
    cases hq : (s.step o w m).1.opened with
    | none => rfl
    | some q =>
      obtain ⟨root, hroot⟩ := hfresh q hq
      rw [Option.map_some, hroot]
      rfl
  | some p =>
    obtain ⟨q, hq, hfinds⟩ := step_finds s o w ho m
    rw [listingCount, listingCount, hq, ho]
    exact hfinds.listingCount

/-- A task is counted with the message that asks for its bar. -/
theorem tasks_step (hs : s.Rooted) (o : Options) (w : World) (m : Incoming) :
    (s.step o w m).1.tasks = s.tasks + (written (s.step o w m).2).countP Outgoing.isCreate := by
  cases h : s.showsProgress w m with
  | true =>
    obtain ⟨htasks, q, _, _, hblock⟩ := step_of_showsProgress hs h o
    rw [htasks, hblock, Outgoing.countP_isCreate_progressBlock]
  | false =>
    obtain ⟨htasks, hnone⟩ := step_of_not_showsProgress (o := o) h
    rw [htasks, List.countP_eq_zero.2 fun x hx => by rw [(hnone x hx).1]; exact Bool.false_ne_true]
    rfl

/-! ## Runs -/

theorem rooted_run (hs : s.Rooted) (o : Options) (as : List Arrival) : (run o s as).1.Rooted := by
  induction as generalizing s with
  | nil => exact hs
  | cons a as ih => exact ih (rooted_step hs o a.1 a.2)

theorem listingCount_run (s : Session) (o : Options) (as : List Arrival) :
    (run o s as).1.listingCount = s.listingCount + (listings (run o s as).2).length := by
  induction as generalizing s with
  | nil => rfl
  | cons a as ih =>
    rw [run_cons, ih, listingCount_step, listings_append, List.length_append, Nat.add_assoc]

theorem tasks_run (hs : s.Rooted) (o : Options) (as : List Arrival) :
    (run o s as).1.tasks = s.tasks + (written (run o s as).2).countP Outgoing.isCreate := by
  induction as generalizing s with
  | nil => rfl
  | cons a as ih =>
    rw [run_cons, ih (rooted_step hs o a.1 a.2), tasks_step hs, written_append, List.countP_append,
      Nat.add_assoc]

/-- The number of routes in a block is the one that is known at the end of any run. -/
theorem written_step_of_showsProgress (hs : s.Rooted) (h : s.showsProgress w m = true)
    (o : Options) (as : List Arrival) :
    written (s.step o w m).2 =
      Outgoing.progressBlock (s.tasks + 1) (run o (s.step o w m).1 as).1.routeCount := by
  obtain ⟨_, q, hq, hloaded, hblock⟩ := step_of_showsProgress hs h o
  obtain ⟨q', hq', hextends⟩ := opened_run_of_opened _ o hq as
  rw [hblock, routeCount, hq', Option.map_some, Option.getD_some, (hextends.routes hloaded).2]

/-- A message that asks for a bar is the first one of a block. -/
theorem block_run (hs : s.Rooted) (o : Options) (as : List Arrival)
    {front back : List Outgoing} {m : Outgoing} (h : written (run o s as).2 = front ++ m :: back)
    (hm : m.isCreate = true) :
    Outgoing.progressBlock (s.tasks + front.countP Outgoing.isCreate + 1)
      (run o s as).1.routeCount <+: m :: back := by
  induction as generalizing s front with
  | nil => simp at h
  | cons a as ih =>
    rw [run_cons, written_append] at h
    -- the message is one of a later step, or one of the step for `a`
    obtain ⟨later, hfront, hlater⟩ | ⟨here, hhere, hback⟩ :
        (∃ later, front = written (s.step o a.1 a.2).2 ++ later ∧
          written (run o (s.step o a.1 a.2).1 as).2 = later ++ m :: back) ∨
        ∃ here, written (s.step o a.1 a.2).2 = front ++ m :: here ∧
          back = here ++ written (run o (s.step o a.1 a.2).1 as).2 := by
      rcases List.append_eq_append_iff.1 h with hlater | ⟨_ | ⟨_, here⟩, hfront, hback⟩
      · exact Or.inl hlater
      · exact Or.inl ⟨[], by rw [List.append_nil] at hfront ⊢; exact hfront.symm, hback.symm⟩
      · obtain ⟨rfl, rfl⟩ := List.cons.inj hback
        exact Or.inr ⟨here, hfront, rfl⟩
    · have hrest := ih (rooted_step hs o a.1 a.2) hlater
      rw [tasks_step hs] at hrest
      rw [hfront, List.countP_append, ← Nat.add_assoc]
      exact hrest
    · cases hshows : s.showsProgress a.1 a.2 with
      | false =>
        have hmem : m ∈ written (s.step o a.1 a.2).2 := by
          rw [hhere]
          simp
        have hnone := ((step_of_not_showsProgress (o := o) hshows).2 m hmem).1
        rw [hm] at hnone
        cases hnone
      | true =>
        have hblock := written_step_of_showsProgress hs hshows o as
        rw [hblock] at hhere
        obtain rfl := Outgoing.eq_nil_of_progressBlock hhere hm
        rw [List.nil_append] at hhere
        rw [hback, ← List.cons_append, ← hhere]
        exact List.prefix_append _ _

/-! ## Whole sessions -/

theorem rooted_start (o : Options) : (start o).Rooted := fun p hp => by cases hp

/-- **The progress of loading the routes, over a whole session.**  Whenever the editor says that it
is ready while a Rails project is open, a block is written and nothing else, and no other message
has anything written about a progress bar.  The block has the number that follows on those of the
blocks before it.  All blocks tell the same number of routes, which is the number known at the end.
So among all that is written, each message that asks for a bar is the first one of a whole block,
with nothing in between.  The routes are listed once at most. -/
theorem progress_serve (o : Options) (arrivals : List Arrival) :
    let es := (serve o arrivals).2
    let count := (serve o arrivals).1.routeCount
    (∀ before a after, handled arrivals = before ++ a :: after →
      let s := (run o (.start o) before).1
      let k := (written (run o (.start o) before).2).countP Outgoing.isCreate + 1
      (s.showsProgress a.1 a.2 = true →
        written (s.step o a.1 a.2).2 = Outgoing.progressBlock k count) ∧
      (s.showsProgress a.1 a.2 = false →
        ∀ m ∈ written (s.step o a.1 a.2).2, m.isCreate = false ∧ m.isProgress = false)) ∧
    (∀ front m back, written es = front ++ m :: back → m.isCreate = true →
      Outgoing.progressBlock (front.countP Outgoing.isCreate + 1) count <+: m :: back) ∧
    (listings es).length ≤ 1 := by
  intro es count
  refine ⟨fun before a after hsplit => ⟨fun h => ?_, fun h => ?_⟩, fun front m back h hm => ?_, ?_⟩
  · have htasks := tasks_run (rooted_start o) o before
    have hblock := written_step_of_showsProgress (rooted_run (rooted_start o) o before) h o after
    have hend : (serve o arrivals).1 =
        (run o ((run o (.start o) before).1.step o a.1 a.2).1 after).1 := by
      rw [serve, hsplit, run_append, run_cons]
    rw [hblock, htasks, ← hend]
    rw [show (start o).tasks = 0 from rfl, Nat.zero_add]
  · exact (step_of_not_showsProgress h).2
  · have hblock := block_run (rooted_start o) o (handled arrivals) h hm
    rwa [show (start o).tasks = 0 from rfl, Nat.zero_add] at hblock
  · have hcount := listingCount_run (.start o) o (handled arrivals)
    have hle := listingCount_le_one (run o (.start o) (handled arrivals)).1
    rw [hcount] at hle
    exact Nat.le_trans (Nat.le_add_left _ _) hle

/-- An editor that says twice that it is ready for a Rails project with one route. -/
theorem progress_serve_twice :
    let o : Options := { cwd := .ofString "/", root := some (.ofString "/") }
    let w : World := { World.still [] with
      files := Rails.skeleton
      tools := { (World.still []).tools with
        listing := fun _ => .ok "--[ Route 1 ]--\nPrefix | posts\nVerb | GET" } }
    let ready : Incoming := ⟨none, some "initialized", .object []⟩
    let opened := run o (.start o) [(w, .setup)]
    let once := run o (.start o) [(w, .setup), (w, ready)]
    let arrivals : List Arrival := [(w, .setup), (w, ready), (w, ready)]
    opened.1.showsProgress w ready = true ∧ once.1.showsProgress w ready = true ∧
      written (opened.1.step o w ready).2 = Outgoing.progressBlock 1 1 ∧
      written (once.1.step o w ready).2 = Outgoing.progressBlock 2 1 ∧
      (listings (serve o arrivals).2).length ≤ 1 := by
  intro o w ready opened once arrivals
  obtain ⟨hsteps, -, hlistings⟩ := progress_serve o arrivals
  have hopened : opened.1.showsProgress w ready = true := by decide +kernel
  have honce : once.1.showsProgress w ready = true := by decide +kernel
  have hcount : (serve o arrivals).1.routeCount = 1 := by decide +kernel
  have hfirst := (hsteps [(w, .setup)] (w, ready) [(w, ready)] rfl).1 hopened
  have hsecond := (hsteps [(w, .setup), (w, ready)] (w, ready) [] rfl).1 honce
  rw [hcount] at hfirst hsecond
  exact ⟨hopened, honce, hfirst, hsecond, hlistings⟩

end Session

end HamlServer
