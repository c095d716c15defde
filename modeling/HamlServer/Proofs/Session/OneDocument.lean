import HamlServer.Proofs.Documents.Stamp
import HamlServer.Proofs.Session.Findings
import HamlServer.Proofs.Session.Results

/-!
# What a request does to one document

A request names at most one document: it maintains it or looks it up.  Here the stamp of any
document after a request is said in terms of its stamp before (`stamp?_handleOpened`), and so are
the findings that the editor is told of it (`told_handleOpened_filter`).  Nothing else of the state
plays a part, as long as the documents have room and the document is not idle for too long.
-/

namespace HamlServer

/-! ## The document of a request -/

namespace Request

/-- The document that a request maintains: it is opened, changed, saved or closed. -/
def maintains? : Request → Option String
  | .opened uri _ | .changed uri _ | .saved uri _ | .closed uri => some uri
  | _ => none

/-- The document that a request only looks up. -/
def looksUp? : Request → Option String
  | .format uri | .complete uri _ | .define uri _ | .actions uri _ _ => some uri
  | .resolve action => action.target.map (·.uri)
  | _ => none

/-- The text that a document is given: the one that the request brings, or where the document is
saved without one, the text that is kept. -/
def taken? (uri : String) (kept : Option String) : Request → Option String
  | .opened v text | .changed v text => if uri = v then text else none
  | .saved v text => if uri = v then text.or kept else none
  | _ => none

/-- How often the clock is read before the text of a request is taken. -/
def delay : Request → Nat
  | .opened _ _ | .saved _ none => 1
  | _ => 0

/-- The stamp of a document after a request, from the one before it and the times at which the clock
is read. -/
def stampAfter (uri : String) (times : Nat → Int) (old : Option (String × Int)) (r : Request) :
    Option (String × Int) :=
  ((r.taken? uri (old.map Prod.fst)).map fun text => (text, times r.delay)).or
    (if r.closes? = some uri then none
      else if r.looksUp? = some uri then old.map fun x => (x.1, times 0)
      else old)

variable {r : Request} {uri : String}

theorem taken?_eq_none (h : r.maintains? ≠ some uri) (kept : Option String) :
    r.taken? uri kept = none := by
  cases r with
  | opened | changed | saved => exact if_neg fun hu => h (by rw [hu]; rfl)
  | _ => rfl

theorem closes?_ne (h : r.maintains? ≠ some uri) : r.closes? ≠ some uri := by
  cases r with
  | closed => exact h
  | _ => simp [closes?]

theorem looksUp?_of_maintains? {v : String} (h : r.maintains? = some v) : r.looksUp? = none := by
  cases r with
  | opened | changed | saved | closed => rfl
  | _ => cases h

/-- A request that does not maintain a document can only be a use of it. -/
theorem stampAfter_eq (h : r.maintains? ≠ some uri) (times : Nat → Int)
    (old : Option (String × Int)) :
    r.stampAfter uri times old =
      if r.looksUp? = some uri then old.map fun x => (x.1, times 0) else old := by
  rw [stampAfter, taken?_eq_none h, Option.map_none, Option.none_or, if_neg (closes?_ne h)]

/-- A request that maintains another document leaves the stamp of a document. -/
theorem stampAfter_of_maintains? {v : String} (h : r.maintains? = some v) (hv : v ≠ uri)
    (times : Nat → Int) (old : Option (String × Int)) : r.stampAfter uri times old = old := by
  rw [stampAfter_eq (by rw [h]; simpa using hv), looksUp?_of_maintains? h, if_neg (by simp)]

end Request

namespace Session

open Documents (Roomy)

variable {s : Session} {o : Options} {w : World} {k : Corrector} {uris : List String}
  {ttl : Nat} {uri v : String}

/-! ## Stamps -/

theorem stamp?_sync (h : Roomy uris ttl s.documents) (text : Option String)
    (hv : text.isSome = true → v ∈ uris) :
    (s.sync o w k v text).session.documents.stamp? uri =
      ((if uri = v then text else none).map fun content => (content, s.now w)).or
        (s.documents.stamp? uri) := by
  cases text with
  | none => rw [ite_self]; rfl
  | some content =>
    have hset : (s.documents.set (s.now w) v content).stamp? uri = _ :=
      Documents.stamp?_set h (hv rfl)
    have hsync : (s.sync o w k v (some content)).session.documents.stamp? uri =
        (s.documents.set (s.now w) v content).stamp? uri := by
      rw [sync_documents]
      dsimp only
      split
      · rw [Documents.stamp?_setDiagnostics]
      · rfl
    rw [hsync, hset]
    split <;> rfl

/-- Looking a document up is a use of it and nothing more. -/
theorem documents_of_looksUp? (p : Opened) {r : Request} (h : r.looksUp? = some v) :
    (s.handleOpened o w p r).session.documents = s.documents.touch (s.now w) v := by
  cases r with
  | format => obtain rfl := Option.some.inj h; exact format_documents s w p.corrector _
  | complete => obtain rfl := Option.some.inj h; exact complete_documents s w p.project _ _
  | define => obtain rfl := Option.some.inj h; exact define_documents s w p.project _ _
  | actions => obtain rfl := Option.some.inj h; rfl
  | resolve a =>
    obtain ⟨target, ht, rfl⟩ := Option.map_eq_some_iff.1 h
    simp only [handleOpened, resolve, ht, document]
    split <;> rfl
  | _ => cases h

/-- A request that names no document leaves the documents. -/
theorem documents_of_nameless (p : Opened) {r : Request} (hm : r.maintains? = none)
    (hl : r.looksUp? = none) : (s.handleOpened o w p r).session.documents = s.documents := by
  cases r with
  | ready => exact ready_documents s w p.project
  | resolve a =>
    have ht : a.target = none := Option.map_eq_none_iff.1 hl
    simp only [handleOpened, resolve, ht]
  | setup | shutdown | exit | unknown => rfl
  | opened | changed | saved | closed => cases hm
  | format | complete | define | actions => cases hl

/-- A document that is saved without a text is given the one that is kept. -/
theorem handleOpened_saved_none (p : Opened) (u : String) :
    s.handleOpened o w p (.saved u none) =
      (s.document w u).1.sync o w p.corrector u (s.documents.content? u) := by
  rw [← document_content s w u]
  rfl

/-- A document that is saved without a text has its text and the time when it is taken. -/
theorem stamp?_saved_none (p : Opened) (u : String) (h : Roomy uris ttl s.documents) :
    (s.handleOpened o w p (.saved u none)).session.documents.stamp? uri =
      (Request.saved u none).stampAfter uri (fun n => w.clock (s.uses + n))
        (s.documents.stamp? uri) := by
  have hroomy : Roomy uris ttl (s.document w u).1.documents :=
    h.modify (fun e => { e with lastUse := s.now w }) fun _ => rfl
  have htouch : (s.document w u).1.documents.stamp? uri = _ := Documents.stamp?_touch
  rw [handleOpened_saved_none, stamp?_sync hroomy _ h.mem_of_content?, htouch,
    Documents.content?_eq_stamp?]
  by_cases hu : uri = u
  · subst hu
    cases s.documents.stamp? uri with
    | none => simp [Request.stampAfter, Request.taken?, Request.closes?, Request.looksUp?]
    | some x => simp [Request.stampAfter, Request.taken?]; rfl
  · rw [Request.stampAfter_of_maintains? rfl (Ne.symm hu), if_neg hu, if_neg hu, Option.map_none,
      Option.none_or]

/-- The stamp of a document after a request of an open project. -/
theorem stamp?_handleOpened (p : Opened) (r : Request) (h : Roomy uris ttl s.documents)
    (hfresh : ∀ x, s.documents.stamp? uri = some x → s.now w - x.2 ≤ ttl)
    (htext : ∀ v text, r.text? = some (v, text) → v ∈ uris) :
    (s.handleOpened o w p r).session.documents.stamp? uri =
      r.stampAfter uri (fun n => w.clock (s.uses + n)) (s.documents.stamp? uri) := by
  have brought {u : String} {text : Option String} (hr : r.text? = text.map fun t => (u, t)) :
      text.isSome = true → u ∈ uris := by
    intro ht
    obtain ⟨content, rfl⟩ := Option.isSome_iff_exists.1 ht
    exact htext u content hr
  cases hm : r.maintains? with
  | none =>
    rw [Request.stampAfter_eq (by simp [hm])]
    cases hl : r.looksUp? with
    | none => rw [documents_of_nameless p hm hl, if_neg (by simp)]
    | some v =>
      rw [documents_of_looksUp? p hl, Documents.stamp?_touch]
      by_cases hv : uri = v
      · rw [if_pos hv, if_pos (by rw [hv])]
        rfl
      · rw [if_neg hv, if_neg (by simpa using Ne.symm hv)]
  | some v =>
    cases r with
    | opened u text =>
      have hstays : (s.tidy w).documents.stamp? uri = s.documents.stamp? uri :=
        Documents.stamp?_dropStale h hfresh
      rw [handleOpened, stamp?_sync (h.filter _) text (brought rfl), hstays]
      rfl
    | changed u text =>
      rw [handleOpened, stamp?_sync h text (brought rfl)]
      rfl
    | saved u text =>
      cases text with
      | some content =>
        rw [handleOpened, stamp?_sync h (some content) (brought rfl)]
        rfl
      | none => exact stamp?_saved_none p u h
    | closed u =>
      rw [handleOpened, close, Documents.stamp?_delete, Request.stampAfter]
      simp [Request.closes?, Request.taken?, Request.looksUp?, eq_comm]
    | _ => cases hm

/-! ## Findings -/

theorem told_sync_filter (text : Option String) :
    (told (s.sync o w k v text).effects).filter (·.isAbout uri) =
      if o.lintEnabled then
        ((if uri = v then text else none).map fun content =>
          Notice.diagnostics uri (findings w k uri content).1).toList
      else [] := by
  cases text with
  | none => rw [ite_self, sync_none]; split <;> rfl
  | some content =>
    rw [told_sync]
    split
    · by_cases hv : uri = v
      · subst hv
        simp [Outgoing.isAbout_diagnostics]
      · simp [Outgoing.isAbout_diagnostics, hv, Ne.symm hv]
    · rfl

/-- No findings are told at a request that maintains no document. -/
theorem told_handleOpened_of_maintains? (p : Opened) {r : Request} (h : r.maintains? = none) :
    told (s.handleOpened o w p r).effects = [] := by
  cases r with
  | ready => exact told_eq_nil (ready_remarks s w p.project)
  | format uri => exact told_eq_nil (format_remarks s w p.corrector uri)
  | complete uri position => exact told_eq_nil (complete_remarks s w p.project uri position)
  | define uri position => exact told_eq_nil (define_remarks s w p.project uri position)
  | resolve a => exact told_eq_nil (resolve_remarks s w p.corrector a)
  | actions | setup | shutdown | exit | unknown => rfl
  | opened | changed | saved | closed => cases h

/-- The findings of a document that are told at a request: those of the text that it is given, and
none when it is closed. -/
theorem told_handleOpened_filter (p : Opened) (r : Request) :
    (told (s.handleOpened o w p r).effects).filter (·.isAbout uri) =
      if o.lintEnabled then
        if r.closes? = some uri then [Notice.diagnostics uri []]
        else ((r.taken? uri (s.documents.content? uri)).map fun content =>
          Notice.diagnostics uri (findings w p.corrector uri content).1).toList
      else [] := by
  cases hm : r.maintains? with
  | none =>
    have hother : r.maintains? ≠ some uri := by simp [hm]
    rw [told_handleOpened_of_maintains? p hm, if_neg (Request.closes?_ne hother),
      Request.taken?_eq_none hother, List.filter_nil]
    split <;> rfl
  | some v =>
    cases r with
    | opened u text => rw [handleOpened, told_sync_filter]; rfl
    | changed u text => rw [handleOpened, told_sync_filter]; rfl
    | saved u text =>
      cases text with
      | some content => rw [handleOpened, told_sync_filter]; rfl
      | none =>
        rw [handleOpened_saved_none, told_sync_filter]
        by_cases hu : uri = u
        · rw [hu]
          rfl
        · rw [Request.taken?, if_neg hu, if_neg hu]
          rfl
    | closed u =>
      rw [handleOpened, told_close]
      by_cases hu : uri = u
      · subst hu
        simp [Request.closes?, Outgoing.isAbout_diagnostics]
      · simp [Request.closes?, Request.taken?, Outgoing.isAbout_diagnostics, Ne.symm hu]
    | _ => cases hm

end Session

end HamlServer
