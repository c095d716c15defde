import HamlServer.Proofs.Session.Run

/-!
# What each handler does

For each handler, three things are read off: the open documents afterwards, whether the project and
its corrector stay, and what is written.  Later modules use these lemmas and do not open a handler.

Apart from answers, a handler writes remarks (progress, and lines for the log) and findings.  Only
`sync` and `close` write findings, and no handler writes an answer.
-/

namespace HamlServer

/-! ## Kinds of messages -/

namespace Outgoing

/-- The method of a message, if it has one. -/
def method? : Outgoing → Option String
  | .notification method _ => some method
  | .request _ method _ => some method
  | _ => none

/-- A message with a method is no answer. -/
theorem answers?_of_method? {m : Outgoing} (h : m.method?.isSome = true) : m.answers? = none := by
  cases m with
  | response | error => cases h
  | notification | request => rfl

/-- The method under which findings are told. -/
def findingsMethod : String := "textDocument/publishDiagnostics"

/-- The method under which a line is written to the log. -/
def logMethod : String := "window/logMessage"

/-- A remark neither answers a request nor tells findings. -/
def IsRemark (m : Outgoing) : Prop := m.answers? = none ∧ m.method? ≠ some findingsMethod

theorem isRemark_log (level : Notice.Level) (text : String) : (Notice.log level text).IsRemark :=
  ⟨rfl, by simp [Notice.log, Notice.message, method?, findingsMethod]⟩

theorem isRemark_createProgress (n : Nat) : (Notice.createProgress n).IsRemark :=
  ⟨rfl, by simp [Notice.createProgress, method?, findingsMethod]⟩

theorem isRemark_progress (n : Nat) (value : List (String × Json)) :
    (Notice.progress n value).IsRemark :=
  ⟨rfl, by simp [Notice.progress, method?, findingsMethod]⟩

end Outgoing

/-! ## Requests and their methods -/

/-- The method that a request comes from, if it is a known one. -/
def Request.method? : Request → Option Method
  | .setup _ _ => some .setup
  | .ready => some .ready
  | .opened _ _ => some .didOpen
  | .changed _ _ => some .didChange
  | .saved _ _ => some .didSave
  | .closed _ => some .didClose
  | .format _ => some .formatting
  | .complete _ _ => some .completion
  | .define _ _ => some .definition
  | .actions _ _ _ => some .codeAction
  | .resolve _ => some .resolve
  | .shutdown => some .shutdown
  | .exit => some .exit
  | .unknown => none

/-- A method, if it is a known one. -/
def Method.known? : Method → Option Method
  | .other _ => none
  | method => some method

/-- The methods whose requests get a result from an open project. -/
def Method.isServed : Method → Bool
  | .formatting | .completion | .definition | .codeAction | .resolve => true
  | _ => false

/-- A request that was read for a method comes from that method. -/
theorem Request.method?_of_read? {method : Method} {params : Json} {r : Request}
    (h : Request.read? method params = some r) : r.method? = method.known? := by
  cases method <;>
    simp only [Request.read?, Option.bind_eq_bind, Option.bind_eq_some_iff, Option.pure_def,
      Option.some.injEq, Option.map_eq_some_iff] at h <;>
    grind [Request.method?, Method.known?]

theorem Method.eq_of_known? {method k : Method} (h : method.known? = some k) : method = k := by
  cases method <;> simp_all [known?]

/-- Whether a message is a request that opens a project. -/
def Incoming.opens (m : Incoming) : Bool :=
  (Session.request? m).any fun r => r.method? == some .setup

namespace Session

variable (s : Session) (o : Options) (w : World) (k : Corrector) (p : Project)

/-! ## The routes of the project -/

theorem loadRoutes_corrector :
    (s.loadRoutes w p).1.opened.map (·.corrector) = s.opened.map (·.corrector) := by
  simp only [loadRoutes, withProject, Option.map_map]
  rfl

theorem written_loadRoutes : written (s.loadRoutes w p).2.2 = [] := by
  simp only [loadRoutes]
  cases (p.load w.files w.tools.listing).2 <;> rfl

theorem look_corrector :
    (s.look w p).1.opened.map (·.corrector) = s.opened.map (·.corrector) :=
  loadRoutes_corrector s w (p.classify w.files)

theorem written_look : written (s.look w p).2.2 = [] := written_loadRoutes s w (p.classify w.files)

theorem ready_documents : (s.ready w p).session.documents = s.documents := by
  simp only [ready]
  split <;> rfl

theorem ready_corrector :
    (s.ready w p).session.opened.map (·.corrector) = s.opened.map (·.corrector) := by
  simp only [ready]
  split
  · rw [loadRoutes_corrector]
    simp [withProject, Function.comp_def]
  · simp [withProject, Function.comp_def]

theorem ready_remarks : ∀ m ∈ written (s.ready w p).effects, m.IsRemark := by
  intro m hm
  simp only [ready] at hm
  split at hm
  · simp only [tell, Notice.progressBegin, Notice.progressReport, Notice.progressEnd,
      written_append, written_write, written_loadRoutes, written_nil, List.cons_append,
      List.nil_append, List.mem_cons, List.not_mem_nil, or_false] at hm
    rcases hm with rfl | rfl | rfl | rfl | rfl
    · exact Outgoing.isRemark_createProgress _
    · exact Outgoing.isRemark_progress _ _
    · exact Outgoing.isRemark_progress _ _
    · exact Outgoing.isRemark_progress _ _
    · exact Outgoing.isRemark_log _ _
  · simp at hm

/-! ## Documents -/

theorem written_findings (uri content : String) : written (findings w k uri content).2 = [] := by
  simp only [findings]
  split <;> rfl

theorem sync_none (uri : String) : s.sync o w k uri none = { session := s } := rfl

theorem sync_documents (uri content : String) :
    (s.sync o w k uri (some content)).session.documents =
      let d := s.documents.set (s.now w) uri content
      if o.lintEnabled then (d.setDiagnostics uri (findings w k uri content).1).1 else d := by
  simp only [sync]
  split <;> rfl

theorem sync_opened (uri : String) (text : Option String) :
    (s.sync o w k uri text).session.opened = s.opened := by
  cases text with
  | none => rfl
  | some content =>
    simp only [sync]
    split <;> rfl

theorem written_sync (uri content : String) :
    written (s.sync o w k uri (some content)).effects =
      if o.lintEnabled then [Notice.diagnostics uri (findings w k uri content).1] else [] := by
  simp only [sync]
  split
  · simp only [written_append, written_findings, tell, written_write, written_nil, List.nil_append]
  · rfl

theorem written_close (uri : String) :
    written (s.close o uri).effects =
      if o.lintEnabled then [Notice.diagnostics uri []] else [] := by
  simp only [close]
  split <;> rfl

/-! ## Editing -/

theorem format_documents (uri : String) :
    (s.format w k uri).session.documents = s.documents.touch (s.now w) uri := by
  simp only [format, document]
  split <;> rfl

theorem format_opened (uri : String) : (s.format w k uri).session.opened = s.opened := by
  simp only [format, document]
  split <;> rfl

theorem format_remarks (uri : String) : ∀ m ∈ written (s.format w k uri).effects, m.IsRemark := by
  simp only [format, document]
  split <;> simp [corrected]

theorem written_converted (content : String) (range : Range) :
    written (converted w content range).2 = [] := by
  simp only [converted]
  split <;> rfl

theorem resolve_documents (a : CodeAction) :
    (s.resolve w k a).session.documents = s.documents ∨
      ∃ uri, (s.resolve w k a).session.documents = s.documents.touch (s.now w) uri := by
  simp only [resolve, document]
  split
  · exact Or.inl rfl
  · next target _ =>
    refine Or.inr ⟨target.uri, ?_⟩
    split <;> rfl

theorem resolve_opened (a : CodeAction) : (s.resolve w k a).session.opened = s.opened := by
  simp only [resolve, document]
  split
  · rfl
  · split <;> rfl

theorem resolve_remarks (a : CodeAction) : ∀ m ∈ written (s.resolve w k a).effects, m.IsRemark := by
  simp only [resolve, document]
  split
  · simp
  · split
    · simp [corrected, tell, Outgoing.isRemark_log]
    · simp [written_converted]
    · simp

/-! ## Completion and navigation -/

theorem complete_documents (uri : String) (position : Position) :
    (s.complete w p uri position).session.documents = s.documents.touch (s.now w) uri := by
  simp only [complete, document]
  split <;> rfl

theorem complete_corrector (uri : String) (position : Position) :
    (s.complete w p uri position).session.opened.map (·.corrector) =
      s.opened.map (·.corrector) := by
  simp only [complete, document]
  split
  · rfl
  · rw [look_corrector]

theorem complete_remarks (uri : String) (position : Position) :
    ∀ m ∈ written (s.complete w p uri position).effects, m.IsRemark := by
  simp only [complete, document]
  split
  · simp
  · simp [written_look]

theorem define_documents (uri : String) (position : Position) :
    (s.define w p uri position).session.documents = s.documents.touch (s.now w) uri := by
  simp only [define, document]
  split <;> rfl

theorem define_corrector (uri : String) (position : Position) :
    (s.define w p uri position).session.opened.map (·.corrector) =
      s.opened.map (·.corrector) := by
  simp only [define, document]
  split
  · rfl
  · rw [look_corrector]

theorem define_remarks (uri : String) (position : Position) :
    ∀ m ∈ written (s.define w p uri position).effects, m.IsRemark := by
  simp only [define, document]
  split
  · simp
  · simp [written_look]

/-! ## All handlers -/

/-- An open project handles all requests but the one that opens it and the announcement of the
end. -/
theorem handle_of_opened {opened : Opened} (h : s.opened = some opened) {r : Request}
    (hs : r.method? ≠ some .setup) (hd : r.method? ≠ some .shutdown) :
    s.handle o w r = s.handleOpened o w opened r := by
  cases r with
  | setup => exact absurd rfl hs
  | shutdown => exact absurd rfl hd
  | _ => simp only [handle, h]

/-- An open project stays open, with the same corrector. -/
theorem handleOpened_corrector (opened : Opened) (r : Request) :
    (s.handleOpened o w opened r).session.opened.map (·.corrector) =
      s.opened.map (·.corrector) := by
  cases r with
  | ready => exact ready_corrector s w opened.project
  | opened uri text => rw [handleOpened, sync_opened]; rfl
  | changed uri text => rw [handleOpened, sync_opened]
  | saved uri text =>
    cases text with
    | none =>
      rw [handleOpened, sync_opened]
      rfl
    | some text => rw [handleOpened, sync_opened]
  | format uri => rw [handleOpened, format_opened]
  | complete uri position => exact complete_corrector s w opened.project uri position
  | define uri position => exact define_corrector s w opened.project uri position
  | resolve action => rw [handleOpened, resolve_opened]
  | closed | actions | setup | shutdown | exit | unknown => rfl

/-- An open project gives a result exactly for the requests of the methods that it serves. -/
theorem handleOpened_result (opened : Opened) (r : Request) :
    (s.handleOpened o w opened r).result.isSome = r.method?.any Method.isServed := by
  have synced (s : Session) (uri : String) (text : Option String) :
      (s.sync o w opened.corrector uri text).result = none := by
    cases text with
    | none => rfl
    | some content => simp only [sync]; split <;> rfl
  cases r with
  | ready => simp only [handleOpened, ready]; split <;> rfl
  | opened uri text => simp only [handleOpened, synced]; rfl
  | changed uri text => simp only [handleOpened, synced]; rfl
  | saved uri text => cases text <;> simp only [handleOpened, synced] <;> rfl
  | format uri => simp only [handleOpened, format]; split <;> rfl
  | complete uri position => simp only [handleOpened, complete]; split <;> rfl
  | define uri position => simp only [handleOpened, define]; split <;> rfl
  | resolve action =>
    simp only [handleOpened, resolve]
    split
    · rfl
    · split <;> rfl
  | closed | actions | setup | shutdown | exit | unknown => rfl

/-- A handler of an open project tells findings and writes to the log, and only that of `ready`
shows progress. -/
theorem handleOpened_methods (opened : Opened) {r : Request} (hr : r ≠ .ready) :
    ∀ m ∈ written (s.handleOpened o w opened r).effects,
      m.method? = some Outgoing.findingsMethod ∨ m.method? = some Outgoing.logMethod := by
  have synced (s : Session) (uri : String) (text : Option String) :
      ∀ m ∈ written (s.sync o w opened.corrector uri text).effects,
        m.method? = some Outgoing.findingsMethod ∨ m.method? = some Outgoing.logMethod := by
    intro m hm
    cases text with
    | none => simp [sync_none] at hm
    | some content =>
      rw [written_sync] at hm
      split at hm
      · exact Or.inl (by rw [List.mem_singleton.1 hm]; rfl)
      · simp at hm
  cases r with
  | ready => exact absurd rfl hr
  | opened uri text => exact synced (s.tidy w) uri text
  | changed uri text => exact synced s uri text
  | saved uri text => cases text <;> exact synced _ uri _
  | closed uri =>
    intro m hm
    rw [handleOpened, written_close] at hm
    split at hm
    · exact Or.inl (by rw [List.mem_singleton.1 hm]; rfl)
    · simp at hm
  | format uri =>
    simp only [handleOpened, format, document]
    split <;> simp [corrected]
  | resolve action =>
    simp only [handleOpened, resolve, document]
    split
    · simp
    · split
      · simp [corrected, tell, Notice.log, Notice.message, Outgoing.method?, Outgoing.logMethod]
      · simp [written_converted]
      · simp
  | complete uri position =>
    simp only [handleOpened, complete, document]
    split <;> simp [written_look]
  | define uri position =>
    simp only [handleOpened, define, document]
    split <;> simp [written_look]
  | actions | setup | shutdown | exit | unknown => simp [handleOpened, offer]

/-- What a handler writes answers no request. -/
theorem handleOpened_answers? (opened : Opened) (r : Request) :
    ∀ m ∈ written (s.handleOpened o w opened r).effects, m.answers? = none := by
  cases r with
  | ready => exact fun m hm => (ready_remarks s w opened.project m hm).1
  | _ =>
    intro m hm
    refine Outgoing.answers?_of_method? ?_
    rcases handleOpened_methods s o w opened (by simp) m hm with h | h <;> rw [h] <;> rfl

theorem handle_answers? (r : Request) :
    ∀ m ∈ written (s.handle o w r).effects, m.answers? = none := by
  cases r with
  | setup | shutdown => simp [handle, setup]
  | _ =>
    cases ho : s.opened with
    | none => simp [handle, ho]
    | some opened =>
      simp only [handle, ho]
      exact handleOpened_answers? s o w opened _

/-- A request that passes the gate of an open project opens none. -/
theorem method?_ne_setup_of_pass {name : String} {m : Incoming} {r : Request}
    (h : s.opened.isSome = true) (hm : m.method = some name)
    (hg : s.gate (Method.ofName name) = .pass) (hq : request? m = some r) :
    r.method? ≠ some .setup := by
  intro hr
  rw [request?, hm, Option.bind_some] at hq
  rw [Request.method?_of_read? hq] at hr
  rw [Method.eq_of_known? hr, gate, if_pos h] at hg
  cases hg

end Session

end HamlServer
