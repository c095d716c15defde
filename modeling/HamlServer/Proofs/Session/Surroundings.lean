import HamlServer.Proofs.Documents.Stamp
import HamlServer.Proofs.Session.Results
import HamlServer.Proofs.Session.Texts

/-!
# What a run relies on

There is room for all documents, the project stays what it is, and no document is idle for too long:
`Surroundings` says what is meant, `Fitting` and `Calm` say it of a message when it comes, and
`Throughout` says such a thing of a whole run.

* `sound_step`: messages that fit keep a session sound, that is, its documents have room and what is
  known of its project is right.
* `throughout_calm`: what is promised of a whole session is what its run relies on.
-/

namespace HamlServer

namespace Session

open Documents (Roomy Tended)

variable {o : Options} {s : Session} {as : List Arrival} {w : World} {m : Incoming}

/-! ## Along a run -/

/-- What holds along a run whenever a message comes. -/
def Throughout (o : Options) (P : Session → Arrival → Prop) (s : Session) (as : List Arrival) :
    Prop :=
  ∀ before a after, as = before ++ a :: after → P (run o s before).1 a

theorem throughout_nil (P : Session → Arrival → Prop) (s : Session) : Throughout o P s [] := by
  intro before a after h
  simp at h

/-- What holds along a run holds for its first message and along the rest. -/
theorem throughout_cons_iff {P : Session → Arrival → Prop} {a : Arrival} :
    Throughout o P s (a :: as) ↔ P s a ∧ Throughout o P (s.step o a.1 a.2).1 as := by
  constructor
  · intro h
    refine ⟨h [] a as rfl, ?_⟩
    rintro before b after rfl
    exact h (a :: before) b after rfl
  · rintro ⟨hhead, htail⟩ before b after h
    cases before with
    | nil =>
      obtain ⟨rfl, -⟩ := List.cons_eq_cons.1 h
      exact hhead
    | cons a' before =>
      obtain ⟨rfl, hrest⟩ := List.cons_eq_cons.1 h
      exact htail before b after hrest

/-- No document is idle for too long when a message comes. -/
def Awake (s : Session) (a : Arrival) : Prop :=
  ∀ e ∈ s.documents.entries, s.documents.isStale (s.now a.1) e = false

theorem neverIdle_iff : NeverIdle o as ↔ Throughout o Awake (.start o) as :=
  ⟨fun h before a after => h before a.1 a.2 after,
    fun h before w m after => h before (w, m) after⟩

/-! ## Surroundings -/

/-- What a run relies on: the documents for which there is room, how long they may be idle, the kind
of the project, and the listing of its routes. -/
structure Surroundings where
  uris : List String
  ttl : Nat
  rails : Bool
  listing : Path → Except ToolError String

/-- A message that fits what a run relies on: texts come for documents for which there is room, and
the project is what it was. -/
structure Fitting (g : Surroundings) (s : Session) (a : Arrival) : Prop where
  brought : ∀ v text, s.opened.isSome = true → a.2.text? = some (v, text) → v ∈ g.uris
  listing : a.1.tools.listing = g.listing
  kind : ∀ p, s.opened = some p → p.project.root.any (Rails.isProject a.1.files) = g.rails

/-- A message that fits comes while no document is idle for too long. -/
structure Calm (g : Surroundings) (s : Session) (a : Arrival) : Prop extends Fitting g s a where
  awake : Awake s a

variable {g : Surroundings}

/-- There is room for the document whose text a request brings. -/
theorem Fitting.mem_of_text? (hf : Fitting g s (w, m)) {p : Opened} (ho : s.opened = some p)
    {r : Request} (hr : request? m = some r) :
    ∀ v text, r.text? = some (v, text) → v ∈ g.uris := by
  intro v text hv
  exact hf.brought v text (by rw [ho]; rfl) ((Incoming.text?_of_request? hr).trans hv)

/-! ## Sound states -/

/-- The documents of a session have room, and what is known of its project is right. -/
structure Sound (g : Surroundings) (s : Session) : Prop where
  roomy : Roomy g.uris g.ttl s.documents
  settled : ∀ p, s.opened = some p → p.project.Settled g.rails g.listing

theorem roomy_of_tended {uris : List String} {ttl : Nat} {d e : Documents} {now : Int}
    (h : Tended d now e) (hd : Roomy uris ttl d) : Roomy uris ttl e := by
  cases h with
  | same => exact hd
  | used => exact hd.modify (fun e => { e with lastUse := now }) fun _ => rfl
  | tidied => exact hd.filter _

theorem roomy_of_upkeep {uris : List String} {ttl : Nat} {k : Corrector} {d e : Documents}
    {now : Int} {r : Request} {tells : List Outgoing} (h : Upkeep o w k d now r e tells)
    (hd : Roomy uris ttl d) (htext : ∀ v text, r.text? = some (v, text) → v ∈ uris) :
    Roomy uris ttl e := by
  cases h with
  | kept tended => exact roomy_of_tended tended hd
  | @synced e tended later v text source =>
    have he : Roomy uris ttl e := roomy_of_tended tended hd
    have hv : v ∈ uris := by
      rcases source with hr | ⟨_, hkept⟩
      · exact htext v text hr
      · exact he.mem_of_content? (by rw [hkept]; rfl)
    dsimp only
    split
    · exact (he.set hv).modify _ fun _ => rfl
    · exact he.set hv
  | closed => exact hd.filter _

/-- A session without a project opens one of which nothing is known yet. -/
theorem project_step_of_not_opened (hs : s.opened = none) (w : World) (m : Incoming) {p : Opened}
    (hp : (s.step o w m).1.opened = some p) : ∃ root, p.project = { root } := by
  rcases step_cases s o w m with ⟨_, he⟩ | ⟨_, _, _, _, _, he⟩ | ⟨_, _, _, _, he⟩ |
    ⟨name, r, hname, hg, hq, he⟩
  · rw [he, hs] at hp; cases hp
  · rw [he, hs] at hp; cases hp
  · rw [he, hs] at hp; cases hp
  · rw [he] at hp
    cases r with
    | setup rootUri rootPath =>
      obtain rfl := Option.some.inj hp
      exact ⟨_, rfl⟩
    | _ => simp [handle, hs] at hp

theorem sound_start (o : Options) (h : g.uris.length ≤ max 1 o.maxDocuments) (hl : g.ttl = o.ttl) :
    Sound g (.start o) where
  roomy := {
    distinct := List.nodup_nil
    known := fun e he => by cases he
    room := h
    limit := hl.symm }
  settled p hp := by cases hp

theorem sound_step (h : Sound g s) (hf : Fitting g s (w, m)) : Sound g (s.step o w m).1 := by
  constructor
  · rcases upkeep_step s o w m with ⟨_, hd, _⟩ | ⟨p, r, hp, hr, hu⟩
    · rw [hd]
      exact h.roomy
    · exact roomy_of_upkeep hu h.roomy (hf.mem_of_text? hp hr)
  · intro q hq
    cases ho : s.opened with
    | none =>
      obtain ⟨root, hroot⟩ := project_step_of_not_opened ho w m hq
      rw [hroot]
      exact Project.settled_of_root root
    | some p =>
      obtain ⟨project, hproject, hlearns⟩ := opened_step_of_opened s o w ho m
      rw [hproject] at hq
      obtain rfl := Option.some.inj hq
      rw [hf.listing] at hlearns
      exact (h.settled p ho).learns hlearns (hf.kind p ho)

/-! ## Whole sessions -/

/-- A text that comes to an open project is one of those that are brought. -/
theorem mem_broughtUris_of_opened (o : Options) {before after : List Arrival} {a : Arrival}
    {v text : String} (ho : (run o (.start o) before).1.opened.isSome = true)
    (ht : a.2.text? = some (v, text)) :
    v ∈ broughtUris ((before ++ a :: after).map Prod.snd) := by
  have hopens : (before.map Prod.snd).any Incoming.opens = true := by
    rw [← (coherent_run o before).opened, ho]
  have hcarried : Carried (before.map Prod.snd ++ [a.2]) v text :=
    latest_concat.2 (Or.inl ⟨hopens, ht⟩)
  have hmem := hcarried.mem_broughtUris (after.map Prod.snd)
  rwa [List.append_assoc, List.singleton_append, ← List.map_cons, ← List.map_append] at hmem

/-- The surroundings of a session: its documents are those for which texts are brought. -/
def surroundings (o : Options) (arrivals : List Arrival) (rails : Bool)
    (listing : Path → Except ToolError String) : Surroundings :=
  ⟨broughtUris ((handled arrivals).map Prod.snd), o.ttl, rails, listing⟩

/-- A session is calm throughout if no document is ever idle for too long, the listing of routes
gives the same whenever it is asked, and the root of the project always or never counts as a Rails
project. -/
theorem throughout_calm (o : Options) (arrivals : List Arrival)
    {listing : Path → Except ToolError String} {rails : Bool}
    (hidle : NeverIdle o (handled arrivals))
    (hlisting : ∀ a ∈ arrivals, a.1.tools.listing = listing)
    (hrails : ∀ p, (serve o arrivals).1.opened = some p →
      ∀ a ∈ arrivals, p.project.root.any (Rails.isProject a.1.files) = rails) :
    Throughout o (Calm (surroundings o arrivals rails listing)) (.start o) (handled arrivals) := by
  intro before a after h
  have ha : a ∈ arrivals := (handled_sublist arrivals).mem (by rw [h]; simp)
  refine ⟨⟨?_, hlisting a ha, ?_⟩, hidle before a.1 a.2 after h⟩
  · intro v text ho ht
    rw [surroundings, h]
    exact mem_broughtUris_of_opened o ho ht
  · intro p hp
    -- the root is still there at the end, where the kind is known
    obtain ⟨q, hq, hextends⟩ := opened_run_of_opened _ o hp (a :: after)
    have hend : (serve o arrivals).1.opened = some ⟨q, p.corrector⟩ := by
      rw [serve, h, run_append]
      exact hq
    rw [← hextends.root]
    exact hrails _ hend a ha

end Session

end HamlServer
