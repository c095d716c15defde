import HamlServer.Proofs.Documents.Lookup
import HamlServer.Proofs.Session.Handlers

/-!
# What a step does to the open documents

Requests bring the text of a document or close one; all others only look documents up.  `Upkeep`
lists what may become of the open documents, together with the findings that are told, and
`upkeep_step` says that a step does nothing else.

What a run owes to its messages is said by `Latest`: one message stands for a document until another
one renews it, and only messages after the project is open count.
-/

namespace HamlServer

/-! ## Messages about documents -/

/-- The document that a request is about and the text that it brings. -/
def Request.text? : Request → Option (String × String)
  | .opened uri text | .changed uri text | .saved uri text => text.map fun t => (uri, t)
  | _ => none

/-- The document that a request closes. -/
def Request.closes? : Request → Option String
  | .closed uri => some uri
  | _ => none

/-- The document that a message is about and the text that it brings, if its parameters can be
read. -/
def Incoming.text? (m : Incoming) : Option (String × String) :=
  (Session.request? m).bind Request.text?

/-- The document that a message closes, if its parameters can be read. -/
def Incoming.closes? (m : Incoming) : Option String := (Session.request? m).bind Request.closes?

namespace Incoming

/-- The message with which an editor opens a project, without a root. -/
def setup : Incoming := ⟨some (.number 1), some "initialize", .object []⟩

/-- The message with which an editor opens a document. -/
def didOpen (uri text : String) : Incoming :=
  ⟨none, some "textDocument/didOpen",
    .object [("textDocument", .object [("text", .string text), ("uri", .string uri)])]⟩

/-- The message with which an editor closes a document. -/
def didClose (uri : String) : Incoming :=
  ⟨none, some "textDocument/didClose", .object [("textDocument", .object [("uri", .string uri)])]⟩

theorem text?_of_request? {m : Incoming} {r : Request} (h : Session.request? m = some r) :
    m.text? = r.text? := by
  rw [text?, h, Option.bind_some]

theorem closes?_of_request? {m : Incoming} {r : Request} (h : Session.request? m = some r) :
    m.closes? = r.closes? := by
  rw [closes?, h, Option.bind_some]

end Incoming

/-- A message that has `p` comes after the project was opened, and none after it has `q`. -/
def Latest (p q : Incoming → Prop) (ms : List Incoming) : Prop :=
  ∃ before m after, ms = before ++ m :: after ∧ before.any Incoming.opens = true ∧ p m ∧
    ∀ m' ∈ after, ¬ q m'

theorem not_latest_of_not_opened {p q : Incoming → Prop} {ms : List Incoming}
    (h : ms.any Incoming.opens = false) : ¬ Latest p q ms := by
  rintro ⟨before, m, after, rfl, ho, _⟩
  rw [List.any_append, ho, Bool.true_or] at h
  exact Bool.noConfusion h

/-- One more message stands itself for what has `p`, or leaves what stood before it. -/
theorem latest_concat {p q : Incoming → Prop} {ms : List Incoming} {m : Incoming} :
    Latest p q (ms ++ [m]) ↔
      (ms.any Incoming.opens = true ∧ p m) ∨ (¬ q m ∧ Latest p q ms) := by
  constructor
  · rintro ⟨before, m', after, he, ho, hp, hq⟩
    rcases List.eq_nil_or_concat after with rfl | ⟨after, last, rfl⟩
    · obtain ⟨rfl, hm⟩ := List.append_inj' he rfl
      obtain rfl : m = m' := List.head_eq_of_cons_eq hm
      exact Or.inl ⟨ho, hp⟩
    · rw [List.concat_eq_append] at he hq
      rw [← List.cons_append, ← List.append_assoc] at he
      obtain ⟨rfl, hm⟩ := List.append_inj' he rfl
      obtain rfl : m = last := List.head_eq_of_cons_eq hm
      refine Or.inr ⟨hq m (by simp), before, m', after, rfl, ho, hp, fun x hx => hq x ?_⟩
      exact List.mem_append_left _ hx
  · rintro (⟨ho, hp⟩ | ⟨hq, before, m', after, rfl, ho, hp, hafter⟩)
    · exact ⟨ms, m, [], rfl, ho, hp, by simp⟩
    · refine ⟨before, m', after ++ [m], by simp, ho, hp, fun x hx => ?_⟩
      rcases List.mem_append.1 hx with hx | hx
      · exact hafter x hx
      · rw [List.mem_singleton.1 hx]
        exact hq

namespace Documents

/-- What looking documents up and closing idle ones makes of the open documents. -/
inductive Tended (s : Documents) (now : Int) : Documents → Prop where
  | same : Tended s now s
  | used (uri : String) : Tended s now (s.touch now uri)
  | tidied : Tended s now (s.dropStale now).1

variable {s d : Documents} {now : Int} {v : String}

theorem Tended.distinct (h : Tended s now d) (hs : s.Distinct) : d.Distinct := by
  cases h with
  | same => exact hs
  | used => exact distinct_touch hs
  | tidied => exact distinct_filter _ hs

theorem Tended.capacity (h : Tended s now d) : d.capacity = s.capacity := by
  cases h <;> rfl

theorem Tended.page?_of (h : Tended s now d) (hs : s.Distinct) {page : String × List Diagnostic}
    (hp : d.page? v = some page) : s.page? v = some page := by
  cases h with
  | same => exact hp
  | used => rwa [page?_touch] at hp
  | tidied => exact page?_of_filter _ hs hp

end Documents

/-! ## The findings that are told -/

/-- The messages that tell findings, in their order. -/
def told (es : List Effect) : List Outgoing :=
  (written es).filter fun m => m.method? == some Outgoing.findingsMethod

@[simp] theorem told_nil : told [] = [] := rfl

theorem told_append (xs ys : List Effect) : told (xs ++ ys) = told xs ++ told ys := by
  rw [told, written_append, List.filter_append]
  rfl

theorem told_eq_nil {es : List Effect} (h : ∀ m ∈ written es, m.IsRemark) : told es = [] := by
  rw [told, List.filter_eq_nil_iff]
  intro m hm
  simpa using (h m hm).2

namespace Session

open Documents (Tended)

theorem told_answer (id : Option RequestId) (result : Option Json) :
    told (answer id result) = [] := by
  cases id <;> cases result <;> rfl

/-! ## All that a step does to the open documents -/

/-- What becomes of the open documents `s` when a request of an open project is handled, and what is
told of findings. -/
inductive Upkeep (o : Options) (w : World) (k : Corrector) (s : Documents) (now : Int)
    (r : Request) : Documents → List Outgoing → Prop where
  | kept {d : Documents} (tended : Tended s now d) (text : r.text? = none)
      (closes : r.closes? = none) : Upkeep o w k s now r d []
  | synced {d : Documents} (tended : Tended s now d) (later : Int) (uri text : String)
      (source : r.text? = some (uri, text) ∨ r.text? = none ∧ d.content? uri = some text)
      (closes : r.closes? = none) :
      Upkeep o w k s now r
        (let e := d.set later uri text
          if o.lintEnabled then (e.setDiagnostics uri (findings w k uri text).1).1 else e)
        (if o.lintEnabled then [Notice.diagnostics uri (findings w k uri text).1] else [])
  | closed (uri : String) (text : r.text? = none) (closes : r.closes? = some uri) :
      Upkeep o w k s now r (s.delete uri)
        (if o.lintEnabled then [Notice.diagnostics uri []] else [])

variable (s : Session) (o : Options) (w : World)

theorem told_sync (k : Corrector) (uri content : String) :
    told (s.sync o w k uri (some content)).effects =
      if o.lintEnabled then [Notice.diagnostics uri (findings w k uri content).1] else [] := by
  rw [told, written_sync]
  split <;> rfl

theorem told_close (uri : String) :
    told (s.close o uri).effects = if o.lintEnabled then [Notice.diagnostics uri []] else [] := by
  rw [told, written_close]
  split <;> rfl

/-- A text that is taken on top of the documents as they were tended. -/
theorem upkeep_sync {t : Session} {k : Corrector} {r : Request} {uri : String}
    (ht : Tended s.documents (s.now w) t.documents) (text : Option String)
    (source : ∀ content, text = some content → r.text? = some (uri, content) ∨
      r.text? = none ∧ t.documents.content? uri = some content)
    (hn : text = none → r.text? = none) (hc : r.closes? = none) :
    Upkeep o w k s.documents (s.now w) r (t.sync o w k uri text).session.documents
      (told (t.sync o w k uri text).effects) := by
  cases text with
  | none => exact .kept ht (hn rfl) hc
  | some content =>
    rw [sync_documents, told_sync]
    exact .synced ht (t.now w) uri content (source content rfl) hc

theorem upkeep_handleOpened (p : Opened) (r : Request) :
    Upkeep o w p.corrector s.documents (s.now w) r (s.handleOpened o w p r).session.documents
      (told (s.handleOpened o w p r).effects) := by
  have used (uri : String) : Tended s.documents (s.now w) (s.document w uri).1.documents :=
    .used uri
  cases r with
  | opened uri text =>
    refine upkeep_sync s o w .tidied text ?_ ?_ rfl
    · rintro content rfl
      exact Or.inl rfl
    · rintro rfl
      rfl
  | changed uri text =>
    refine upkeep_sync s o w .same text ?_ ?_ rfl
    · rintro content rfl
      exact Or.inl rfl
    · rintro rfl
      rfl
  | saved uri text =>
    cases text with
    | some content =>
      refine upkeep_sync s o w .same (some content) ?_ (fun h => by cases h) rfl
      intro _ hc
      obtain rfl := Option.some.inj hc
      exact Or.inl rfl
    | none =>
      -- the text is the one that is already kept
      refine upkeep_sync s o w (used uri) _ ?_ (fun _ => rfl) rfl
      intro content hc
      exact Or.inr ⟨rfl, Documents.content?_eq_find?.trans hc⟩
  | closed uri =>
    rw [handleOpened, told_close]
    exact .closed uri rfl rfl
  | ready =>
    rw [handleOpened, ready_documents, told_eq_nil (ready_remarks s w p.project)]
    exact .kept .same rfl rfl
  | format uri =>
    rw [handleOpened, format_documents, told_eq_nil (format_remarks s w p.corrector uri)]
    exact .kept (.used uri) rfl rfl
  | complete uri position =>
    rw [handleOpened, complete_documents,
      told_eq_nil (complete_remarks s w p.project uri position)]
    exact .kept (.used uri) rfl rfl
  | define uri position =>
    rw [handleOpened, define_documents, told_eq_nil (define_remarks s w p.project uri position)]
    exact .kept (.used uri) rfl rfl
  | actions uri range ds => exact .kept (.used uri) rfl rfl
  | resolve action =>
    rw [handleOpened, told_eq_nil (resolve_remarks s w p.corrector action)]
    rcases resolve_documents s w p.corrector action with h | ⟨uri, h⟩
    · rw [h]
      exact .kept .same rfl rfl
    · rw [h]
      exact .kept (.used uri) rfl rfl
  | setup | shutdown | exit | unknown => exact .kept .same rfl rfl

/-- A request that opens no project and comes while none is open leaves the documents, and tells no
findings. -/
theorem handle_of_not_opened (h : s.opened = none) (r : Request) :
    (s.handle o w r).session.documents = s.documents ∧ told (s.handle o w r).effects = [] := by
  cases r <;> simp [handle, setup, h]

/-- A step tends the open documents as its request asks, or it does nothing to them; that happens
only without an open project and to messages that neither bring a text nor close a document. -/
theorem upkeep_step (m : Incoming) :
    ((s.opened = none ∨ m.text? = none ∧ m.closes? = none) ∧
      (s.step o w m).1.documents = s.documents ∧ told (s.step o w m).2 = []) ∨
    ∃ p r, s.opened = some p ∧ request? m = some r ∧
      Upkeep o w p.corrector s.documents (s.now w) r (s.step o w m).1.documents
        (told (s.step o w m).2) := by
  rcases step_cases s o w m with ⟨hm, he⟩ | ⟨name, code, reason, hm, hg, he⟩ |
    ⟨name, hm, hg, hq, he⟩ | ⟨name, r, hm, hg, hq, he⟩
  · refine Or.inl ⟨Or.inr ?_, by rw [he], by rw [he]; rfl⟩
    simp [Incoming.text?, Incoming.closes?, request?, hm]
  · refine Or.inl ⟨?_, by rw [he], by rw [he]; cases m.id <;> rfl⟩
    cases ho : s.opened with
    | none => exact Or.inl rfl
    | some p =>
      -- an open project refuses only the request that opens one
      have hs : Method.ofName name = .setup := by
        cases hn : Method.ofName name <;> simp_all [gate]
      refine Or.inr ?_
      cases hr : request? m with
      | none => simp [Incoming.text?, Incoming.closes?, hr]
      | some r =>
        rw [request?, hm, Option.bind_some, hs] at hr
        have hr := Request.method?_of_read? hr
        cases r <;> simp_all [Incoming.text?, Incoming.closes?, request?, Request.method?,
          Method.known?, Request.text?, Request.closes?]
  · refine Or.inl ⟨Or.inr ?_, by rw [he], by rw [he]; rfl⟩
    simp [Incoming.text?, Incoming.closes?, hq]
  · rw [he, told_append, told_answer, List.append_nil]
    cases ho : s.opened with
    | none =>
      obtain ⟨hd, ht⟩ := handle_of_not_opened s o w ho r
      exact Or.inl ⟨Or.inl rfl, hd, ht⟩
    | some p =>
      have hs := method?_ne_setup_of_pass s (by rw [ho]; rfl) hm hg hq
      by_cases hd : r.method? = some .shutdown
      · refine Or.inl ⟨Or.inr ?_, ?_⟩
        · rw [Incoming.text?_of_request? hq, Incoming.closes?_of_request? hq]
          cases r <;> simp_all [Request.method?, Request.text?, Request.closes?]
        · cases r <;> simp_all [Request.method?, handle]
      · refine Or.inr ⟨p, r, rfl, hq, ?_⟩
        rw [handle_of_opened s o w ho hs hd]
        exact upkeep_handleOpened s o w p r

end Session

end HamlServer
