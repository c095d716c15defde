import HamlServer.Proofs.Session.Answers
import HamlServer.Proofs.Session.Upkeep

/-!
# A session before and after its project is open

A session opens one project, with the first request for it whose parameters can be read.

* Before, nothing is kept and nothing is asked of a tool.  `EarlyReply` lists what the editor is
  told: `early_step` says so of one message.
* Afterwards the project stays, with its root and its corrector.  `Project.Learns` lists what a
  message may add to what is known of the project, and `Project.Finds` the listing that this takes:
  `step_finds`.  `Project.Extends` says that nothing of it is lost again: `opened_run_of_opened`.
* `opening_serve`: both of a whole session.
-/

namespace HamlServer

/-! ## Listings -/

/-- The project whose routes an effect lists. -/
def Effect.listing? : Effect → Option Path
  | .call (.listing root) => some root
  | _ => none

/-- The projects whose routes are listed, in their order. -/
def listings (es : List Effect) : List Path := es.filterMap Effect.listing?

@[simp] theorem listings_nil : listings [] = [] := rfl

@[simp] theorem listings_append (xs ys : List Effect) :
    listings (xs ++ ys) = listings xs ++ listings ys :=
  List.filterMap_append

@[simp] theorem listings_write (m : Outgoing) (es : List Effect) :
    listings (.write m :: es) = listings es := rfl

/-! ## What is known of a project -/

namespace Project

variable {p q r : Project} {files : Directory} {listing : Path → Except ToolError String}

/-- What may be found out about a project on the way of a message: nothing, its kind, or its kind
and its routes. -/
inductive Learns (files : Directory) (listing : Path → Except ToolError String) (p : Project) :
    Project → Prop where
  | nothing : Learns files listing p p
  | kind : Learns files listing p (p.classify files)
  | routes : Learns files listing p ((p.classify files).load files listing).1

/-- What is found out about a project on the way of a message, with the projects whose routes are
listed for it. -/
inductive Finds (files : Directory) (listing : Path → Except ToolError String) (p : Project) :
    Project → List Path → Prop where
  | nothing : Finds files listing p p []
  | kind : Finds files listing p (p.classify files) []
  | routes : Finds files listing p ((p.classify files).load files listing).1
      ((p.classify files).load files listing).2.toList

theorem Finds.learns {listed : List Path} (h : p.Finds files listing q listed) :
    p.Learns files listing q := by
  cases h with
  | nothing => exact .nothing
  | kind => exact .kind
  | routes => exact .routes

/-- A project of which at least as much is known: it has the same root, the kind that it was found
to have, and the routes that were loaded. -/
structure Extends (p q : Project) : Prop where
  root : q.root = p.root
  rails : ∀ b, p.rails = some b → q.rails = some b
  routes : p.loaded = true → q.loaded = true ∧ q.routes = p.routes

theorem Extends.refl (p : Project) : p.Extends p := ⟨rfl, fun _ h => h, fun h => ⟨h, rfl⟩⟩

theorem Extends.trans (hpq : p.Extends q) (hqr : q.Extends r) : p.Extends r where
  root := hqr.root.trans hpq.root
  rails b h := hqr.rails b (hpq.rails b h)
  routes h := by
    obtain ⟨hq, hroutes⟩ := hpq.routes h
    obtain ⟨hr, hroutes'⟩ := hqr.routes hq
    exact ⟨hr, hroutes'.trans hroutes⟩

theorem classify_of_rails {b : Bool} (h : p.rails = some b) : p.classify files = p := by
  rw [classify, h]

theorem classify_of_rails_eq_none (h : p.rails = none) :
    p.classify files = { p with rails := some (p.root.any (Rails.isProject files)) } := by
  rw [classify, h]

theorem extends_classify (p : Project) (files : Directory) : p.Extends (p.classify files) := by
  cases h : p.rails with
  | some b =>
    rw [classify_of_rails h]
    exact .refl p
  | none =>
    rw [classify_of_rails_eq_none h]
    refine ⟨rfl, fun b hb => ?_, fun hl => ⟨hl, rfl⟩⟩
    rw [h] at hb
    cases hb

theorem extends_load (p : Project) (files : Directory)
    (listing : Path → Except ToolError String) : p.Extends (p.load files listing).1 := by
  rw [load]
  split
  · exact .refl p
  · next hl =>
    have hc := extends_classify p files
    dsimp only
    split
    · exact ⟨hc.root, hc.rails, fun h => absurd h hl⟩
    · exact hc

theorem Learns.extends (h : p.Learns files listing q) : p.Extends q := by
  cases h with
  | nothing => exact .refl p
  | kind => exact extends_classify p files
  | routes => exact (extends_classify p files).trans (extends_load _ files listing)

end Project

/-! ## Before the project is open -/

/-- What the editor is told while no project is open: a request that needs one is refused, the
announcement of the end is answered, and a request to open one whose parameters cannot be read is
reported. -/
inductive EarlyReply (m : Incoming) : Outgoing → Prop where
  | refused {name : String} {id : RequestId} (method : m.method = some name)
      (needs : (Method.ofName name).needsProject = true) (request : m.id = some id) :
      EarlyReply m (.error id (-32002) "Server not initialized")
  | shutdown {id : RequestId} (method : m.method = some "shutdown") (request : m.id = some id) :
      EarlyReply m (.response id .null)
  | unreadable (method : m.method = some "initialize")
      (params : Request.read? .setup m.params = none) :
      EarlyReply m (Notice.alert .error "HAML LSP error: invalid params for initialize")

namespace Session

variable (s : Session) (o : Options) (w : World)

theorem method_eq_name {m : Incoming} {name : String} {method : Method}
    (hm : m.method = some name) (h : Method.ofName name = method) :
    m.method = some method.name := by
  rw [hm, ← h, Method.name_ofName]

/-- While no project is open, requests other than the one that opens one and the announcement of
the end come to nothing. -/
theorem handle_eq_of_not_opened (hs : s.opened = none) {r : Request}
    (hsetup : r.method? ≠ some .setup) (hshut : r.method? ≠ some .shutdown) :
    s.handle o w r = { session := s } := by
  cases r with
  | setup => exact absurd rfl hsetup
  | shutdown => exact absurd rfl hshut
  | _ => simp only [handle, hs]

/-- A refusal while no project is open. -/
theorem early_refusal (hs : s.opened = none) {m : Incoming} {name : String} {code : Int}
    {reason : String} (hname : m.method = some name)
    (hg : s.gate (Method.ofName name) = .refuse code reason) {id : RequestId}
    (hid : m.id = some id) : EarlyReply m (.error id code reason) := by
  have hdue := due_of_refuse s hg m.params id
  rw [hs, Option.isSome_none] at hdue
  generalize hmethod : Method.ofName name = method at hdue
  cases hdue with
  | tooEarly needs => exact .refused hname (hmethod ▸ needs) hid

/-- A report of parameters that cannot be read, while no project is open. -/
theorem early_report (hs : s.opened = none) {m : Incoming} {name : String}
    (hname : m.method = some name) (hg : s.gate (Method.ofName name) = .pass)
    (hq : request? m = none) :
    EarlyReply m (Notice.alert .error s!"HAML LSP error: invalid params for {name}") := by
  rw [request?, hname, Option.bind_some] at hq
  cases hmethod : Method.ofName name with
  | setup =>
    have hsetup : m.method = some "initialize" := method_eq_name hname hmethod
    obtain rfl : name = "initialize" := Option.some.inj (hname.symm.trans hsetup)
    exact .unreadable hsetup (hmethod ▸ hq)
  | ready | shutdown | exit | other => simp [hmethod, Request.read?] at hq
  | _ => simp [hmethod, gate, hs] at hg

/-- While no project is open, a message that opens none changes nothing but that it may announce
the end, and it gets at most one reply. -/
theorem early_step (hs : s.opened = none) {m : Incoming} (hm : m.opens = false) :
    (∃ ended, (s.step o w m).1 = { s with ended }) ∧
      ((s.step o w m).2 = [] ∨ ∃ a, (s.step o w m).2 = [.write a] ∧ EarlyReply m a) := by
  rcases step_cases s o w m with ⟨_, he⟩ | ⟨name, code, reason, hname, hg, he⟩ |
    ⟨name, hname, hg, hq, he⟩ | ⟨name, r, hname, hg, hq, he⟩
  · rw [he]
    exact ⟨⟨s.ended, rfl⟩, Or.inl rfl⟩
  · rw [he]
    refine ⟨⟨s.ended, rfl⟩, ?_⟩
    cases hid : m.id with
    | none => exact Or.inl rfl
    | some id => exact Or.inr ⟨_, rfl, early_refusal s hs hname hg hid⟩
  · rw [he]
    exact ⟨⟨s.ended, rfl⟩, Or.inr ⟨_, rfl, early_report s hs hname hg hq⟩⟩
  · have hsetup : r.method? ≠ some .setup := by
      intro hr
      simp [Incoming.opens, hq, hr] at hm
    rw [he]
    by_cases hshut : r.method? = some .shutdown
    · have hname' : m.method = some "shutdown" := by
        rw [request?, hname, Option.bind_some] at hq
        have hknown := (Request.method?_of_read? hq).symm.trans hshut
        exact method_eq_name hname (Method.eq_of_known? hknown)
      obtain rfl : r = .shutdown := by cases r <;> simp_all [Request.method?]
      refine ⟨⟨true, rfl⟩, ?_⟩
      cases hid : m.id with
      | none => exact Or.inl rfl
      | some id => exact Or.inr ⟨_, rfl, .shutdown hname' hid⟩
    · rw [handle_eq_of_not_opened s o w hs hsetup hshut]
      refine ⟨⟨s.ended, rfl⟩, Or.inl ?_⟩
      cases m.id <;> rfl

/-- Messages that open no project leave everything as it is but that the end may be announced, and
the editor is told nothing but the replies to some of them, in their order. -/
theorem early_run (hs : s.opened = none) (as : List Arrival) (has : ∀ a ∈ as, a.2.opens = false) :
    (∃ ended, (run o s as).1 = { s with ended }) ∧
      List.SublistForall₂ (fun e m => ∃ a, e = Effect.write a ∧ EarlyReply m a)
        (run o s as).2 (as.map Prod.snd) := by
  induction as generalizing s with
  | nil => exact ⟨⟨s.ended, rfl⟩, .nil⟩
  | cons a as ih =>
    obtain ⟨⟨ended, hstep⟩, hreply⟩ := early_step s o a.1 hs (has a (by simp))
    obtain ⟨⟨ended', hrun⟩, hrest⟩ := ih (s.step o a.1 a.2).1 (by rw [hstep]; exact hs)
      fun b hb => has b (by simp [hb])
    rw [run_cons, List.map_cons]
    refine ⟨⟨ended', by rw [hrun, hstep]⟩, ?_⟩
    rcases hreply with hnone | ⟨reply, hone, hearly⟩
    · rw [hnone, List.nil_append]
      exact .cons_right hrest
    · rw [hone]
      exact .cons ⟨reply, rfl, hearly⟩ hrest

/-! ## Once the project is open -/

variable {p : Opened}

theorem withProject_opened (hs : s.opened = some p) (q : Project) :
    (s.withProject q).opened = some ⟨q, p.corrector⟩ := by
  rw [withProject, hs, Option.map_some]

theorem loadRoutes_opened (hs : s.opened = some p) (q : Project) :
    (s.loadRoutes w q).1.opened = some ⟨(q.load w.files w.tools.listing).1, p.corrector⟩ :=
  withProject_opened s hs _

theorem look_opened (hs : s.opened = some p) (q : Project) :
    (s.look w q).1.opened =
      some ⟨((q.classify w.files).load w.files w.tools.listing).1, p.corrector⟩ :=
  loadRoutes_opened s w hs (q.classify w.files)

theorem listings_loadRoutes (q : Project) :
    listings (s.loadRoutes w q).2.2 = (q.load w.files w.tools.listing).2.toList := by
  simp only [loadRoutes]
  cases (q.load w.files w.tools.listing).2 <;> rfl

theorem listings_look (q : Project) : listings (s.look w q).2.2 =
    ((q.classify w.files).load w.files w.tools.listing).2.toList :=
  listings_loadRoutes s w (q.classify w.files)

theorem listings_sync (k : Corrector) (uri : String) (text : Option String) :
    listings (s.sync o w k uri text).effects = [] := by
  cases text with
  | none => rfl
  | some content =>
    simp only [sync, findings]
    split
    · split <;> rfl
    · rfl

theorem listings_close (uri : String) : listings (s.close o uri).effects = [] := by
  simp only [close]
  split <;> rfl

theorem listings_format (k : Corrector) (uri : String) :
    listings (s.format w k uri).effects = [] := by
  simp only [format, document]
  split <;> rfl

theorem listings_resolve (k : Corrector) (a : CodeAction) :
    listings (s.resolve w k a).effects = [] := by
  simp only [resolve, document, converted]
  split
  · rfl
  · split
    · rfl
    · split <;> rfl
    · rfl

theorem listings_answer (id : Option RequestId) (result : Option Json) :
    listings (answer id result) = [] := by
  cases id <;> cases result <;> rfl

/-- What a request of an open project finds out about it. -/
theorem handleOpened_finds (hs : s.opened = some p) (r : Request) :
    ∃ q, (s.handleOpened o w p r).session.opened = some ⟨q, p.corrector⟩ ∧
      p.project.Finds w.files w.tools.listing q (listings (s.handleOpened o w p r).effects) := by
  have same : s.opened = some ⟨p.project, p.corrector⟩ := hs
  have synced (t : Session) (ht : t.opened = some ⟨p.project, p.corrector⟩) (uri : String)
      (text : Option String) :
      ∃ q, (t.sync o w p.corrector uri text).session.opened = some ⟨q, p.corrector⟩ ∧
        p.project.Finds w.files w.tools.listing q
          (listings (t.sync o w p.corrector uri text).effects) := by
    rw [sync_opened, listings_sync]
    exact ⟨_, ht, .nothing⟩
  cases r with
  | ready =>
    simp only [handleOpened, ready]
    have hkind := withProject_opened s hs (p.project.classify w.files)
    split
    · refine ⟨_, loadRoutes_opened _ w hkind _, ?_⟩
      simp only [tell, listings_append, listings_write, listings_nil, listings_loadRoutes,
        List.nil_append, List.append_nil]
      exact .routes
    · exact ⟨_, hkind, .kind⟩
  | opened uri text => exact synced (s.tidy w) same uri text
  | changed uri text => exact synced s same uri text
  | saved uri text =>
    cases text with
    | some content => exact synced s same uri (some content)
    | none => exact synced (s.document w uri).1 same uri _
  | closed uri =>
    rw [handleOpened, listings_close]
    exact ⟨_, same, .nothing⟩
  | format uri =>
    rw [handleOpened, format_opened, listings_format]
    exact ⟨_, same, .nothing⟩
  | resolve action =>
    rw [handleOpened, resolve_opened, listings_resolve]
    exact ⟨_, same, .nothing⟩
  | complete uri position =>
    simp only [handleOpened, complete, document]
    split
    · exact ⟨_, same, .nothing⟩
    · refine ⟨_, look_opened _ w same _, ?_⟩
      rw [listings_look]
      exact .routes
  | define uri position =>
    simp only [handleOpened, define, document]
    split
    · exact ⟨_, same, .nothing⟩
    · refine ⟨_, look_opened _ w same _, ?_⟩
      rw [listings_look]
      exact .routes
  | actions | setup | shutdown | exit | unknown => exact ⟨_, same, .nothing⟩

/-- What a request of an open project may find out about it. -/
theorem handleOpened_opened (hs : s.opened = some p) (r : Request) :
    ∃ q, (s.handleOpened o w p r).session.opened = some ⟨q, p.corrector⟩ ∧
      p.project.Learns w.files w.tools.listing q := by
  obtain ⟨q, hq, hfinds⟩ := handleOpened_finds s o w hs r
  exact ⟨q, hq, hfinds.learns⟩

/-- An open project stays, and a message may find out more about it. -/
theorem step_finds (hs : s.opened = some p) (m : Incoming) :
    ∃ q, (s.step o w m).1.opened = some ⟨q, p.corrector⟩ ∧
      p.project.Finds w.files w.tools.listing q (listings (s.step o w m).2) := by
  have same : s.opened = some ⟨p.project, p.corrector⟩ := hs
  rcases step_cases s o w m with ⟨_, he⟩ | ⟨_, _, _, _, _, he⟩ | ⟨_, _, _, _, he⟩ |
    ⟨name, r, hname, hg, hq, he⟩
  · rw [he]
    exact ⟨_, same, .nothing⟩
  · rw [he]
    cases m.id <;> exact ⟨_, same, .nothing⟩
  · rw [he]
    exact ⟨_, same, .nothing⟩
  · have hsetup := method?_ne_setup_of_pass s (by rw [hs]; rfl) hname hg hq
    rw [he, listings_append, listings_answer, List.append_nil]
    by_cases hshut : r.method? = some .shutdown
    · obtain rfl : r = .shutdown := by cases r <;> simp_all [Request.method?]
      exact ⟨_, same, .nothing⟩
    · rw [handle_of_opened s o w hs hsetup hshut]
      exact handleOpened_finds s o w hs r

/-- An open project stays, and a message may only add to what is known of it. -/
theorem opened_step_of_opened (hs : s.opened = some p) (m : Incoming) :
    ∃ q, (s.step o w m).1.opened = some ⟨q, p.corrector⟩ ∧
      p.project.Learns w.files w.tools.listing q := by
  obtain ⟨q, hq, hfinds⟩ := step_finds s o w hs m
  exact ⟨q, hq, hfinds.learns⟩

theorem opened_run_of_opened (hs : s.opened = some p) (as : List Arrival) :
    ∃ q, (run o s as).1.opened = some ⟨q, p.corrector⟩ ∧ p.project.Extends q := by
  induction as generalizing s p with
  | nil => exact ⟨_, hs, .refl _⟩
  | cons a as ih =>
    obtain ⟨q, hq, hlearns⟩ := opened_step_of_opened s o a.1 hs a.2
    obtain ⟨q', hq', hextends⟩ := ih (s.step o a.1 a.2).1 hq
    exact ⟨q', hq', hlearns.extends.trans hextends⟩

/-! ## Whole sessions -/

theorem handled_append (as later : List Arrival) :
    ∃ rest, handled (as ++ later) = handled as ++ rest := by
  induction as with
  | nil => exact ⟨handled later, rfl⟩
  | cons a as ih =>
    obtain ⟨rest, hrest⟩ := ih
    rw [List.cons_append, handled, handled]
    split
    · exact ⟨[], rfl⟩
    · exact ⟨rest, by rw [hrest, List.cons_append]⟩

/-- **A session before and after its project is open.**  As long as no message opens a project, no
document is kept and no tool is asked; the editor is told nothing but the early replies to some of
its messages, in their order.  Once a project is open it stays open whatever comes later, with its
root, its corrector and all that was found out about it. -/
theorem opening_serve (o : Options) (arrivals : List Arrival) :
    let s := (serve o arrivals).1
    let es := (serve o arrivals).2
    ((∀ a ∈ arrivals, a.2.opens = false) →
      s.documents.entries = [] ∧ s.opened = none ∧
        List.SublistForall₂ (fun e m => ∃ a, e = Effect.write a ∧ EarlyReply m a) es
          (arrivals.map Prod.snd)) ∧
    ∀ p later, s.opened = some p → ∃ q, (serve o (arrivals ++ later)).1.opened = some q ∧
      q.corrector = p.corrector ∧ p.project.Extends q.project := by
  intro s es
  refine ⟨fun hnone => ?_, fun p later hp => ?_⟩
  · obtain ⟨⟨ended, hs⟩, hes⟩ := early_run (.start o) o rfl (handled arrivals) fun a ha =>
      hnone a ((handled_sublist arrivals).mem ha)
    have hsession : s = { Session.start o with ended } := hs
    refine ⟨by rw [hsession]; rfl, by rw [hsession]; rfl, ?_⟩
    obtain ⟨chosen, hc, hsub⟩ := List.sublistForall₂_iff.1 hes
    exact List.sublistForall₂_iff.2
      ⟨chosen, hc, hsub.trans ((handled_sublist arrivals).map Prod.snd)⟩
  · obtain ⟨rest, hrest⟩ := handled_append arrivals later
    obtain ⟨q, hq, hextends⟩ := opened_run_of_opened s o hp rest
    refine ⟨⟨q, p.corrector⟩, ?_, rfl, hextends⟩
    rw [serve, hrest, run_append]
    exact hq

/-- Three messages that open no project, and two that would; the second of these is refused. -/
theorem opening_serve_twice :
    let o : Options := { cwd := .ofString "/" }
    let w : World := .still []
    let early : List Arrival := [
      (w, ⟨some (.number 1), some "textDocument/formatting", .object []⟩),
      (w, ⟨some (.number 2), some "shutdown", .object []⟩),
      (w, ⟨none, some "initialize", .object [("rootUri", .bool true)]⟩)]
    let arrivals := early ++ [(w, .setup)]
    (∀ a ∈ early, a.2.opens = false) ∧ (serve o early).1.documents.entries = [] ∧
      (serve o early).1.opened = none ∧
      ∃ p, (serve o arrivals).1.opened = some p ∧
        ∃ q, (serve o (arrivals ++ [(w, .setup)])).1.opened = some q ∧
          q.corrector = p.corrector := by
  intro o w early arrivals
  have hearly : ∀ a ∈ early, a.2.opens = false := by decide
  obtain ⟨hentries, hnone, _⟩ := (opening_serve o early).1 hearly
  obtain ⟨p, hp⟩ : ∃ p, (serve o arrivals).1.opened = some p := ⟨_, rfl⟩
  obtain ⟨q, hq, hcorrector, _⟩ := (opening_serve o arrivals).2 p [(w, .setup)] hp
  exact ⟨hearly, hentries, hnone, p, hp, q, hq, hcorrector⟩

end Session

end HamlServer
