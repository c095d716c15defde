import HamlServer.Proofs.Session.OneDocument
import HamlServer.Proofs.Session.Surroundings

/-!
# Documents do not disturb each other

Of two sessions, one handles all messages of the other but some that maintain other documents than
the one that is looked at.  What the editor hears about that document is the same in both.

* `Thinned`: one list of messages is another one without such messages.  What is left is handled at
  the same times.
* `Agree`: two states are the same as far as a document goes.  `agree_step` says that a message that
  both handle keeps this, and `agree_step_of_maintains?` that a message that only the first one
  handles does.
* `heard_serve`: the editor hears the same, if the kind of the project stays what it is.
* `not_heard_serve_of_kind`: without that the editor need not hear the same.
-/

namespace HamlServer

/-! ## What is heard about a document -/

/-- Whether a request asks about a document.  Resolving an action without a target asks about all
of them. -/
def Request.asks (uri : String) : Request → Bool
  | .format v | .complete v _ | .define v _ | .actions v _ _ => v == uri
  | .resolve action => action.target.all (·.uri == uri)
  | _ => false

/-- Whether a message is a request that asks about a document. -/
def Incoming.asks (uri : String) (m : Incoming) : Bool :=
  (Session.request? m).any (Request.asks uri)

/-- The document that a message maintains, if its parameters can be read. -/
def Incoming.maintains? (m : Incoming) : Option String :=
  (Session.request? m).bind Request.maintains?

/-- What the editor hears about a document when a message has the effects: the findings that it is
told, and the answer, if the message asks about the document. -/
def heardOf (uri : String) (m : Incoming) (es : List Effect) : List Outgoing :=
  (written es).filter fun a => a.isAbout uri || (m.asks uri && a.toJson.isAnswer)

/-- What stays of an open project: its corrector and its root. -/
def Opened.fixed (p : Opened) : Corrector × Option Path := (p.corrector, p.project.root)

namespace Session

variable (o : Options) (uri : String)

/-- What the editor hears about a document in a run. -/
def heard : Session → List Arrival → List Outgoing
  | _, [] => []
  | s, (w, m) :: rest => heardOf uri m (s.step o w m).2 ++ heard (s.step o w m).1 rest

/-- The second list has the messages of the first one but some that maintain other documents.  The
lists are handled from the two states, and what is left is handled in the same worlds: the clock is
read at the same times, though the number of its readings before may differ. -/
inductive Thinned : Session → List Arrival → Session → List Arrival → Prop where
  | nil (s t : Session) : Thinned s [] t []
  | keep {s t : Session} {w : World} {m : Incoming} {as bs : List Arrival} (clock : Nat → Int)
      (times : ∀ n, clock (t.uses + n) = w.clock (s.uses + n))
      (rest : Thinned (s.step o w m).1 as (t.step o { w with clock } m).1 bs) :
      Thinned s ((w, m) :: as) t (({ w with clock }, m) :: bs)
  | delete {s t : Session} {w : World} {m : Incoming} {as bs : List Arrival} {v : String}
      (maintains : m.maintains? = some v) (other : v ≠ uri)
      (rest : Thinned (s.step o w m).1 as t bs) : Thinned s ((w, m) :: as) t bs

variable {o uri} {s t : Session} {as bs : List Arrival}

/-- A message that maintains a document does not end the session. -/
theorem not_isExit_of_maintains? {m : Incoming} {v : String} (h : m.maintains? = some v) :
    isExit m = false := by
  obtain ⟨r, hr, hv⟩ := Option.bind_eq_some_iff.1 h
  obtain ⟨name, hname, hq⟩ := Option.bind_eq_some_iff.1 hr
  cases hx : isExit m with
  | false => rfl
  | true =>
    have hexit : Method.ofName name = .exit := by simpa [isExit, hname] using hx
    rw [hexit] at hq
    obtain rfl := Option.some.inj hq
    cases hv

/-- Messages that end the session are not left out, so thinned messages are handled up to the same
one. -/
theorem Thinned.handled (h : Thinned o uri s as t bs) :
    Thinned o uri s (handled as) t (handled bs) := by
  induction h with
  | nil => exact .nil _ _
  | @keep s t w m as bs clock times rest ih =>
    rw [Session.handled, Session.handled]
    dsimp only
    split
    · exact .keep clock times (.nil _ _)
    · exact .keep clock times ih
  | delete maintains other rest ih =>
    rw [Session.handled, if_neg (by simp [not_isExit_of_maintains? maintains])]
    exact .delete maintains other ih

/-! ## Two states -/

open Documents (Roomy)

variable {g : Surroundings} {w : World} {m : Incoming}

/-- Two states are the same as far as a document goes: it has the same stamp, and both have opened
the same project or none. -/
structure Agree (uri : String) (s t : Session) : Prop where
  stamp : s.documents.stamp? uri = t.documents.stamp? uri
  fixed : s.opened.map Opened.fixed = t.opened.map Opened.fixed

theorem Agree.content? (h : Agree uri s t) :
    s.documents.content? uri = t.documents.content? uri := by
  rw [Documents.content?_eq_stamp?, h.stamp, Documents.content?_eq_stamp?]

theorem Agree.isSome (h : Agree uri s t) : s.opened.isSome = t.opened.isSome := by
  have := congrArg Option.isSome h.fixed
  rwa [Option.isSome_map, Option.isSome_map] at this

/-- The two projects have the same corrector and the same root. -/
theorem Agree.opened (h : Agree uri s t) {p q : Opened} (ho : s.opened = some p)
    (hq : t.opened = some q) : p.corrector = q.corrector ∧ p.project.root = q.project.root := by
  simpa [ho, hq, Opened.fixed] using h.fixed

theorem Agree.fitting (h : Agree uri s t) (hf : Fitting g s (w, m)) (clock : Nat → Int) :
    Fitting g t ({ w with clock }, m) where
  brought v text ho hv := hf.brought v text (h.isSome.trans ho) hv
  listing := hf.listing
  kind q hq := by
    obtain ⟨p, hp⟩ := Option.isSome_iff_exists.1 (h.isSome.trans (by rw [hq]; rfl))
    rw [← (h.opened hp hq).2]
    exact hf.kind p hp

/-- An answer about a document is made from its text and from the project. -/
theorem handleOpened_result_of_asks {p q : Opened} {clock : Nat → Int} (hs : Sound g s)
    (ht : Sound g t) (ho : s.opened = some p) (hq : t.opened = some q) (ha : Agree uri s t)
    (hl : w.tools.listing = g.listing)
    (hk : p.project.root.any (Rails.isProject w.files) = g.rails) {r : Request}
    (hr : r.asks uri = true) :
    (t.handleOpened o { w with clock } q r).result = (s.handleOpened o w p r).result := by
  obtain ⟨hcorrector, hroot⟩ := ha.opened ho hq
  have hp := hs.settled p ho
  have hq' := ht.settled q hq
  rw [← hl] at hp hq'
  cases r with
  | format v =>
    obtain rfl : v = uri := by simpa [Request.asks] using hr
    rw [handleOpened, handleOpened, format_result, format_result, ha.content?, hcorrector]
    rfl
  | actions v range ds =>
    obtain rfl : v = uri := by simpa [Request.asks] using hr
    rw [handleOpened, handleOpened, offer_result, offer_result, ha.content?]
  | complete v position =>
    obtain rfl : v = uri := by simpa [Request.asks] using hr
    rw [handleOpened, handleOpened, complete_result, complete_result, ha.content?,
      look_workspace _ w hp hk, look_workspace _ { w with clock } hq' (hroot ▸ hk), hroot]
  | define v position =>
    obtain rfl : v = uri := by simpa [Request.asks] using hr
    rw [handleOpened, handleOpened, define_result, define_result, ha.content?,
      look_workspace _ w hp hk, look_workspace _ { w with clock } hq' (hroot ▸ hk), hroot]
  | resolve a =>
    rw [handleOpened, handleOpened, resolve_result, resolve_result, hcorrector]
    cases htarget : a.target with
    | none => rfl
    | some target =>
      obtain rfl : target.uri = uri := by simpa [Request.asks, htarget] using hr
      rw [Option.bind_some, Option.bind_some, ha.content?]
      rfl
  | _ => cases hr

theorem fixed_handleOpened {p : Opened} (hs : s.opened = some p) (r : Request) :
    (s.handleOpened o w p r).session.opened.map Opened.fixed = s.opened.map Opened.fixed := by
  obtain ⟨q, hq, hlearns⟩ := handleOpened_opened s o w hs r
  rw [hq, hs, Option.map_some, Option.map_some, Opened.fixed, hlearns.extends.root, Opened.fixed]

theorem Calm.fresh {a : Arrival} (hc : Calm g s a) (h : Sound g s) (uri : String) :
    ∀ x, s.documents.stamp? uri = some x → s.now a.1 - x.2 ≤ g.ttl := by
  intro x hx
  obtain ⟨e, he, rfl⟩ := Option.map_eq_some_iff.1 hx
  have hidle := hc.awake e ((Documents.find?_eq_some_iff h.roomy.distinct).1 he).1
  rw [Documents.isStale, decide_eq_false_iff_not, h.roomy.limit] at hidle
  exact Int.not_lt.1 hidle

/-- A request that both states handle at the same times keeps them the same as far as a document
goes, and the editor is told the same findings of it. -/
theorem agree_handleOpened {p q : Opened} {clock : Nat → Int} (hs : Sound g s) (ht : Sound g t)
    (ho : s.opened = some p) (hq : t.opened = some q) (ha : Agree uri s t)
    (hc : Calm g s (w, m)) (times : ∀ n, clock (t.uses + n) = w.clock (s.uses + n)) {r : Request}
    (htext : ∀ v text, r.text? = some (v, text) → v ∈ g.uris) :
    Agree uri (s.handleOpened o w p r).session (t.handleOpened o { w with clock } q r).session ∧
      (told (t.handleOpened o { w with clock } q r).effects).filter (·.isAbout uri) =
        (told (s.handleOpened o w p r).effects).filter (·.isAbout uri) := by
  obtain ⟨hcorrector, _⟩ := ha.opened ho hq
  have hfresh : ∀ x, t.documents.stamp? uri = some x → t.now { w with clock } - x.2 ≤ g.ttl := by
    intro x hx
    have hnow : t.now { w with clock } = s.now w := times 0
    rw [hnow]
    exact hc.fresh hs uri x (ha.stamp.trans hx)
  refine ⟨⟨?_, ?_⟩, ?_⟩
  · rw [stamp?_handleOpened p r hs.roomy (hc.fresh hs uri) htext,
      stamp?_handleOpened q r ht.roomy hfresh htext, ha.stamp]
    simp only [times]
  · rw [fixed_handleOpened ho, fixed_handleOpened hq, ha.fixed]
  · rw [told_handleOpened_filter, told_handleOpened_filter, ha.content?, hcorrector]
    rfl

/-- A request that maintains another document keeps two states the same as far as a document goes,
also where only one of them handles it, and the editor is told no findings of the document. -/
theorem agree_handleOpened_of_maintains? {p : Opened} (hs : Sound g s) (ho : s.opened = some p)
    (ha : Agree uri s t) (hc : Calm g s (w, m)) {r : Request} {v : String}
    (hr : r.maintains? = some v) (hv : v ≠ uri)
    (htext : ∀ v text, r.text? = some (v, text) → v ∈ g.uris) :
    Agree uri (s.handleOpened o w p r).session t ∧
      (told (s.handleOpened o w p r).effects).filter (·.isAbout uri) = [] := by
  refine ⟨⟨?_, ?_⟩, ?_⟩
  · rw [stamp?_handleOpened p r hs.roomy (hc.fresh hs uri) htext,
      Request.stampAfter_of_maintains? hr hv, ha.stamp]
  · rw [fixed_handleOpened ho, ha.fixed]
  · have hother : r.maintains? ≠ some uri := by rw [hr]; simpa using hv
    rw [told_handleOpened_filter, if_neg (Request.closes?_ne hother),
      Request.taken?_eq_none hother]
    split <;> rfl

/-! ## Steps -/

theorem heardOf_append (xs ys : List Effect) :
    heardOf uri m (xs ++ ys) = heardOf uri m xs ++ heardOf uri m ys := by
  rw [heardOf, written_append, List.filter_append]
  rfl

/-- Among messages that answer nothing, the editor hears the findings. -/
theorem heardOf_of_answers? {es : List Effect} (h : ∀ a ∈ written es, a.answers? = none) :
    heardOf uri m es = (told es).filter (·.isAbout uri) := by
  rw [← filter_isAbout_written, heardOf]
  refine List.filter_congr fun a ha => ?_
  rw [Outgoing.isAnswer_toJson, h a ha]
  simp

theorem heardOf_answer (id : Option RequestId) (result : Option Json) :
    heardOf uri m (answer id result) = if m.asks uri then written (answer id result) else [] := by
  have hanswer (id : RequestId) (v : Json) : (Outgoing.response id v).toJson.isAnswer = true := by
    rw [Outgoing.isAnswer_toJson]
    rfl
  cases id <;> cases result <;> cases hm : m.asks uri <;>
    simp [heardOf, answer, hm, hanswer, Outgoing.isAbout]

theorem heardOf_handle {r : Request} (hq : request? m = some r) :
    heardOf uri m ((s.handle o w r).effects ++ answer m.id (s.handle o w r).result) =
      (told (s.handle o w r).effects).filter (·.isAbout uri) ++
        if r.asks uri then written (answer m.id (s.handle o w r).result) else [] := by
  have hm : m.asks uri = r.asks uri := by rw [Incoming.asks, hq, Option.any_some]
  rw [heardOf_append, heardOf_of_answers? (handle_answers? s o w r), heardOf_answer, hm]

theorem gate_congr (h : s.opened.isSome = t.opened.isSome) (method : Method) :
    s.gate method = t.gate method := by
  cases method <;> simp only [gate, h]

/-- What both states make of a request that passes the gate. -/
theorem agree_handle {clock : Nat → Int} (hs : Sound g s) (ht : Sound g t) (ha : Agree uri s t)
    (hc : Calm g s (w, m)) (times : ∀ n, clock (t.uses + n) = w.clock (s.uses + n)) {r : Request}
    (hr : request? m = some r) :
    Agree uri (s.handle o w r).session (t.handle o { w with clock } r).session ∧
      heardOf uri m ((t.handle o { w with clock } r).effects ++
          answer m.id (t.handle o { w with clock } r).result) =
        heardOf uri m ((s.handle o w r).effects ++ answer m.id (s.handle o w r).result) := by
  rw [heardOf_handle hr, heardOf_handle hr]
  by_cases hsetup : r.method? = some .setup
  · cases r with
    | setup => exact ⟨⟨ha.stamp, rfl⟩, rfl⟩
    | _ => simp [Request.method?] at hsetup
  by_cases hshut : r.method? = some .shutdown
  · cases r with
    | shutdown => exact ⟨⟨ha.stamp, ha.fixed⟩, rfl⟩
    | _ => simp [Request.method?] at hshut
  have hsome := ha.isSome
  cases ho : s.opened with
  | none =>
    rw [ho, Option.isSome_none, eq_comm, Option.isSome_eq_false_iff, Option.isNone_iff_eq_none]
      at hsome
    rw [handle_eq_of_not_opened s o w ho hsetup hshut,
      handle_eq_of_not_opened t o _ hsome hsetup hshut]
    exact ⟨ha, rfl⟩
  | some p =>
    obtain ⟨q, hq⟩ := Option.isSome_iff_exists.1 (hsome.symm.trans (by rw [ho]; rfl))
    have htext := hc.toFitting.mem_of_text? ho hr
    rw [handle_of_opened s o w ho hsetup hshut, handle_of_opened t o _ hq hsetup hshut]
    obtain ⟨hagree, htold⟩ := agree_handleOpened hs ht ho hq ha hc times htext
    refine ⟨hagree, ?_⟩
    rw [htold]
    by_cases hasks : r.asks uri = true
    · rw [handleOpened_result_of_asks hs ht ho hq ha hc.listing (hc.kind p ho) hasks]
    · rw [if_neg hasks, if_neg hasks]

/-- A message that both states handle keeps them the same as far as a document goes, and the editor
hears the same about the document. -/
theorem agree_step {clock : Nat → Int} (hs : Sound g s) (ht : Sound g t) (ha : Agree uri s t)
    (hc : Calm g s (w, m)) (times : ∀ n, clock (t.uses + n) = w.clock (s.uses + n)) :
    Agree uri (s.step o w m).1 (t.step o { w with clock } m).1 ∧
      heardOf uri m (t.step o { w with clock } m).2 = heardOf uri m (s.step o w m).2 := by
  cases hm : m.method with
  | none =>
    simp only [step, hm]
    exact ⟨ha, trivial⟩
  | some name =>
    have hgate := gate_congr ha.isSome (Method.ofName name)
    cases hg : t.gate (Method.ofName name) with
    | refuse code reason =>
      simp only [step, hm, hgate, hg]
      exact ⟨ha, trivial⟩
    | pass =>
      have hq : request? m = Request.read? (Method.ofName name) m.params := by
        rw [request?, hm, Option.bind_some]
      cases hr : Request.read? (Method.ofName name) m.params with
      | none =>
        simp only [step, hm, hgate, hg, dispatch, hr]
        exact ⟨ha, trivial⟩
      | some r =>
        simp only [step, hm, hgate, hg, dispatch, hr]
        exact agree_handle hs ht ha hc times (hq.trans hr)

/-- A message that maintains another document keeps the states the same where only the first one
handles it, and the editor hears nothing about the document. -/
theorem agree_step_of_maintains? (hs : Sound g s) (ha : Agree uri s t) (hc : Calm g s (w, m))
    {v : String} (hm : m.maintains? = some v) (hv : v ≠ uri) :
    Agree uri (s.step o w m).1 t ∧ heardOf uri m (s.step o w m).2 = [] := by
  obtain ⟨r, hr, hrv⟩ := Option.bind_eq_some_iff.1 hm
  have hasks : r.asks uri = false := by
    cases r with
    | opened | changed | saved | closed => rfl
    | _ => cases hrv
  have hsetup : r.method? ≠ some .setup := by
    cases r <;> simp_all [Request.method?, Request.maintains?]
  have hshut : r.method? ≠ some .shutdown := by
    cases r <;> simp_all [Request.method?, Request.maintains?]
  rcases step_cases s o w m with ⟨_, he⟩ | ⟨_, code, reason, _, _, he⟩ | ⟨_, _, _, hq, _⟩ |
    ⟨name, r', hname, hg, hq, he⟩
  · rw [he]
    exact ⟨ha, rfl⟩
  · rw [he]
    refine ⟨ha, ?_⟩
    cases m.id with
    | none => rfl
    | some id => simp [heardOf, Incoming.asks, hr, hasks, Outgoing.isAbout]
  · rw [hr] at hq
    cases hq
  · obtain rfl : r = r' := Option.some.inj (hr.symm.trans hq)
    rw [he, heardOf_handle hr, hasks, if_neg (by simp), List.append_nil]
    cases ho : s.opened with
    | none =>
      rw [handle_eq_of_not_opened s o w ho hsetup hshut]
      exact ⟨ha, rfl⟩
    | some p =>
      rw [handle_of_opened s o w ho hsetup hshut]
      exact agree_handleOpened_of_maintains? hs ho ha hc hrv hv (hc.toFitting.mem_of_text? ho hr)

/-! ## Runs -/

theorem heard_cons (s : Session) (a : Arrival) (as : List Arrival) :
    heard o uri s (a :: as) =
      heardOf uri a.2 (s.step o a.1 a.2).2 ++ heard o uri (s.step o a.1 a.2).1 as := rfl

/-- Two states that are the same as far as a document goes let the editor hear the same about it. -/
theorem heard_thinned (h : Thinned o uri s as t bs) (hs : Sound g s) (ht : Sound g t)
    (ha : Agree uri s t) (hc : Throughout o (Calm g) s as) :
    heard o uri t bs = heard o uri s as := by
  induction h with
  | nil => rfl
  | @keep s t w m as bs clock times rest ih =>
    obtain ⟨hcalm, htail⟩ := throughout_cons_iff.1 hc
    obtain ⟨hagree, hheard⟩ := agree_step hs ht ha hcalm times
    have hfit : Fitting g s (w, m) := hcalm.toFitting
    have ht' : Sound g (t.step o { w with clock } m).1 := sound_step ht (ha.fitting hfit clock)
    rw [heard_cons, heard_cons, hheard, ih (sound_step hs hfit) ht' hagree htail]
  | delete maintains other rest ih =>
    obtain ⟨hcalm, htail⟩ := throughout_cons_iff.1 hc
    obtain ⟨hagree, hheard⟩ := agree_step_of_maintains? hs ha hcalm maintains other
    rw [heard_cons, hheard, List.nil_append]
    exact ih (sound_step hs hcalm.toFitting) ht hagree htail

/-- **Documents do not disturb each other.**  Suppose that there is room for all documents for which
texts are brought, that none is idle for too long, that the listing of routes gives the same
whenever it is asked, and that the root of the project counts as a Rails project always or never.
Then the editor hears the same about a document when some messages that maintain other documents are
left out. -/
theorem heard_serve (o : Options) (uri : String) (arrivals kept : List Arrival)
    (listing : Path → Except ToolError String) (rails : Bool)
    (hthinned : Thinned o uri (.start o) arrivals (.start o) kept)
    (hroom : (broughtUris ((handled arrivals).map Prod.snd)).length ≤ max 1 o.maxDocuments)
    (hidle : NeverIdle o (handled arrivals))
    (hlisting : ∀ a ∈ arrivals, a.1.tools.listing = listing)
    (hrails : ∀ p, (serve o arrivals).1.opened = some p →
      ∀ a ∈ arrivals, p.project.root.any (Rails.isProject a.1.files) = rails) :
    heard o uri (.start o) (handled kept) = heard o uri (.start o) (handled arrivals) := by
  have hcalm := throughout_calm o arrivals hidle hlisting hrails
  have hstart : Sound (surroundings o arrivals rails listing) (.start o) := sound_start o hroom rfl
  exact heard_thinned hthinned.handled hstart hstart ⟨rfl, rfl⟩ hcalm

/-- Two documents are opened, and the one that is looked at is formatted.  Without the other one the
clock is read less often. -/
theorem heard_serve_two :
    let o : Options := { lintEnabled := true, maxDocuments := 2, cwd := .ofString "/" }
    let w : World := { World.still [] with clock := fun n => n }
    let later : World := { w with clock := fun n => n + 2 }
    let format : Incoming := ⟨some (.number 2), some "textDocument/formatting",
      .object [("textDocument", .object [("uri", .string "b.haml")])]⟩
    let arrivals : List Arrival :=
      [(w, .setup), (w, .didOpen "a.haml" "%p"), (w, .didOpen "b.haml" "%p"), (w, format)]
    let kept : List Arrival := [(w, .setup), (later, .didOpen "b.haml" "%p"), (later, format)]
    Thinned o "b.haml" (.start o) arrivals (.start o) kept ∧
      (broughtUris ((handled arrivals).map Prod.snd)).length ≤ max 1 o.maxDocuments ∧
      NeverIdle o (handled arrivals) ∧
      heard o "b.haml" (.start o) (handled kept) = heard o "b.haml" (.start o) (handled arrivals) ∧
      (heard o "b.haml" (.start o) (handled kept)).length = 2 := by
  intro o w later format arrivals kept
  have hthinned : Thinned o "b.haml" (.start o) arrivals (.start o) kept := by
    refine .keep w.clock (fun _ => rfl) (.delete (v := "a.haml") rfl (by decide) ?_)
    refine .keep later.clock (fun n => ?_) (.keep later.clock (fun n => ?_) (.nil _ _))
    · show ((0 + n : Nat) : Int) + 2 = ((2 + n : Nat) : Int)
      omega
    · show ((2 + n : Nat) : Int) + 2 = ((4 + n : Nat) : Int)
      omega
  have hroom : (broughtUris ((handled arrivals).map Prod.snd)).length ≤ max 1 o.maxDocuments := by
    decide
  have hidle : NeverIdle o (handled arrivals) := by
    have he : handled arrivals = arrivals := rfl
    rw [neverIdle_iff, he]
    simp only [arrivals, throughout_cons_iff, throughout_nil, and_true, Awake]
    decide +kernel
  have hw : ∀ a ∈ arrivals, a.1 = w := by simp [arrivals]
  have hroot : ∀ p, (serve o arrivals).1.opened = some p → p.project.root = none := by
    intro p hp
    have hopened : (serve o arrivals).1.opened.all (·.project.root.isNone) = true := by
      decide +kernel
    rw [hp] at hopened
    exact Option.isNone_iff_eq_none.1 hopened
  refine ⟨hthinned, hroom, hidle, ?_, by decide +kernel⟩
  refine heard_serve o "b.haml" arrivals kept w.tools.listing false hthinned hroom hidle ?_ ?_
  · intro a ha
    rw [hw a ha]
  · intro p hp a _
    rw [hroot p hp]
    rfl

/-- The number of things that an answer lists. -/
def listed : Outgoing → Nat
  | .response _ (.array vs) => vs.length
  | _ => 0

/-- Where the kind of the project changes, a document that is left out may disturb another one: the
kind is found out once, at the first request that needs it, and a request for candidates needs it
only if its document is open. -/
theorem not_heard_serve_of_kind :
    ¬ ∀ (o : Options) (uri : String) (arrivals kept : List Arrival) (tools : Tools),
      Thinned o uri (.start o) arrivals (.start o) kept →
      (broughtUris ((handled arrivals).map Prod.snd)).length ≤ max 1 o.maxDocuments →
      NeverIdle o (handled arrivals) → (∀ a ∈ arrivals, a.1.tools = tools) →
      heard o uri (.start o) (handled kept) = heard o uri (.start o) (handled arrivals) := by
  intro h
  let o : Options := { root := some (.ofString "/p"), cwd := .ofString "/" }
  let tools : Tools := { (World.still []).tools with
    listing := fun _ => .ok "--[ Route 1 ]--\nPrefix | posts\nVerb | GET" }
  let bare : World := { World.still [] with tools }
  let place (names : List String) : Place := names.map Utf8.encode
  let tree := ((FileTree.empty.write (place ["p", "Gemfile"]) []).write
    (place ["p", "config", "application.rb"]) []).write (place ["p", "config", "routes.rb"]) []
  let rails : World := { bare with files := ⟨tree, []⟩ }
  let ask (uri : String) : Incoming := ⟨some (.number 2), some "textDocument/completion",
    .object [("position", .object [("character", .number (.int 3)), ("line", .number (.int 0))]),
      ("textDocument", .object [("uri", .string uri)])]⟩
  -- the root becomes a Rails project between the two requests
  let kept : List Arrival :=
    [(bare, .setup), (bare, .didOpen "b.haml" "url"), (bare, ask "a.haml"), (rails, ask "b.haml")]
  let arrivals : List Arrival := (bare, .setup) :: (bare, .didOpen "a.haml" "") :: kept.tail
  have hthinned : Thinned o "b.haml" (.start o) arrivals (.start o) kept := by
    have times (i j : Nat) : bare.clock i = bare.clock j := rfl
    refine .keep bare.clock (fun _ => times _ _) (.delete (v := "a.haml") rfl (by decide) ?_)
    refine .keep bare.clock (fun _ => times _ _) (.keep bare.clock (fun _ => times _ _) ?_)
    exact .keep rails.clock (fun _ => rfl) (.nil _ _)
  have hidle : NeverIdle o (handled arrivals) := by
    have he : handled arrivals = arrivals := rfl
    rw [neverIdle_iff, he]
    simp only [arrivals, kept, List.tail_cons, throughout_cons_iff, throughout_nil, and_true, Awake]
    decide +kernel
  have hsame := h o "b.haml" arrivals kept tools hthinned (by decide) hidle
    (by simp [arrivals, kept, rails, bare])
  have hkept : (heard o "b.haml" (.start o) (handled kept)).map listed = [1] := by decide +kernel
  have harrivals : (heard o "b.haml" (.start o) (handled arrivals)).map listed = [0] := by
    decide +kernel
  rw [hsame, harrivals] at hkept
  cases hkept

end Session

end HamlServer
