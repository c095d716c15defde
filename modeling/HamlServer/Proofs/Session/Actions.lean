import HamlServer.Proofs.Editor.RoundTrip
import HamlServer.Proofs.Session.Results
import HamlServer.Proofs.Session.Texts

/-!
# Actions that are sent back

An action is offered without an edit, and the editor sends it back to have one attached.  Between the
two the action is in the hands of the editor: all that the server knows of it then is what it wrote.

* `CodeAction.exists_offered`: what an offered action carries.
* `resolved_of_offered`: the edit that it gets, and nothing else changes.
* `resolve_result_of_givesUp`, `resolve_result_of_not_givesUp`: an action that cannot be resolved is
  written as it was read, and any other gets an edit.
* `actions_run`: offers that are sent back while their document has the same text.
* `givesUp_step`: what of an action that cannot be resolved comes back.
-/

namespace HamlServer

/-! ## Offers -/

/-- The target that an offered action carries. -/
def ActionKind.targetOf (uri : String) (range : Range) : ActionKind → ActionTarget
  | .fixAll => ⟨uri, none⟩
  | .convert => ⟨uri, some range⟩

namespace CodeAction

variable {uri : String} {range : Range} {kind : ActionKind} {a : CodeAction}

/-- An action as it is offered for a range of a document. -/
structure Offered (uri : String) (range : Range) (kind : ActionKind) (a : CodeAction) : Prop where
  name : a.kind = some kind.name
  data : a.data = some (kind.targetOf uri range).toJson
  edit : a.edit = none

theorem exists_offered {lintEnabled : Bool} {ds : List Diagnostic}
    (h : a ∈ offers lintEnabled uri range ds) : ∃ kind, Offered uri range kind a := by
  unfold offers at h
  split at h
  · rcases List.mem_append.1 h with h | h
    · rw [Option.mem_toList, fixAll?] at h
      split at h
      · cases h
      · obtain rfl := Option.some.inj h
        exact ⟨.fixAll, rfl, rfl, rfl⟩
    · rw [Option.mem_toList, convert?] at h
      split at h
      · cases h
      · obtain rfl := Option.some.inj h
        exact ⟨.convert, rfl, rfl, rfl⟩
  · cases h

theorem Offered.actionKind (h : Offered uri range kind a) : a.actionKind = some kind := by
  rw [CodeAction.actionKind, h.name]
  cases kind <;> rfl

theorem Offered.target (h : Offered uri range kind a) :
    a.target = some (kind.targetOf uri range) := by
  rw [CodeAction.target, h.data, Option.bind_some, ActionTarget.ofJson?_toJson]

theorem Offered.settled (h : Offered uri range kind a) : a.Settled where
  data hnull := by
    rw [h.data] at hnull
    cases Option.some.inj hnull
  edit e he := by
    rw [h.edit] at he
    cases he

end CodeAction

/-- The message with which an editor asks for the actions of a range where it shows no findings. -/
def Incoming.codeAction (id : RequestId) (uri : String) (range : Range) : Incoming :=
  ⟨some id, some "textDocument/codeAction",
    .object [("range", range.toJson), ("textDocument", .object [("uri", .string uri)])]⟩

namespace Session

variable {s : Session} {o : Options} {w : World} {k : Corrector} {a : CodeAction} {id : RequestId}

/-! ## Resolving -/

/-- The edit that an action of a kind is for.  The selection is converted only if it is not blank. -/
def editFor (w : World) (k : Corrector) (uri : String) (range : Range) (content : String) :
    ActionKind → Option TextEdit
  | .fixAll =>
    some ⟨Text.fullRange content.toList, k.correct w.tools (Url.documentPath uri) content⟩
  | .convert =>
    let selected := Text.slice content.toList range
    if Text.isBlankText selected then none
    else (w.tools.conversion (String.ofList selected)).toOption.map (⟨range, ·⟩)

theorem converted_eq (w : World) (content : String) (range : Range) :
    (converted w content range).1 =
      if Text.isBlankText (Text.slice content.toList range) then none
      else (w.tools.conversion (String.ofList (Text.slice content.toList range))).toOption := by
  rw [converted]
  dsimp only
  split
  · rfl
  · cases w.tools.conversion (String.ofList (Text.slice content.toList range)) <;> rfl

theorem map_converted (w : World) (k : Corrector) (uri content : String) (range : Range) :
    (converted w content range).1.map (⟨range, ·⟩) = editFor w k uri range content .convert := by
  rw [converted_eq, editFor]
  split <;> rfl

/-- An offered action gets the edit that it is for, and nothing else of it changes. -/
theorem resolved_of_offered {uri : String} {range : Range} {kind : ActionKind}
    (h : a.Offered uri range kind) (w : World) (k : Corrector) (content : String) :
    resolved w k a (kind.targetOf uri range) content =
      { a with edit := (editFor w k uri range content kind).map (WorkspaceEdit.single uri) } := by
  rw [resolved, h.actionKind]
  cases kind with
  | fixAll => rfl
  | convert =>
    rw [← map_converted w k]
    simp only [ActionKind.targetOf]
    cases (converted w content range).1 with
    | some text => rfl
    | none =>
      rw [Option.map_none, Option.map_none, Option.map_none, ← h.edit]
      rfl

/-- Why an action is not resolved. -/
inductive GivesUp (s : Session) (w : World) (a : CodeAction) : Prop where
  | foreignData (data : a.target = none)
  | foreignKind (kind : a.actionKind = none)
  | notOpen {target : ActionTarget} (data : a.target = some target)
      (closed : s.documents.content? target.uri = none)
  | withoutRange {target : ActionTarget} (data : a.target = some target)
      (kind : a.actionKind = some .convert) (range : target.range = none)
  | blankSelection {target : ActionTarget} {range : Range} {content : String}
      (data : a.target = some target) (kind : a.actionKind = some .convert)
      (selection : target.range = some range)
      (stored : s.documents.content? target.uri = some content)
      (blank : Text.isBlankText (Text.slice content.toList range) = true)
  | failingConverter {target : ActionTarget} {range : Range} {content : String} {e : ToolError}
      (data : a.target = some target) (kind : a.actionKind = some .convert)
      (selection : target.range = some range)
      (stored : s.documents.content? target.uri = some content)
      (fails : w.tools.conversion (String.ofList (Text.slice content.toList range)) = .error e)

/-- An action that cannot be resolved is written as it was read. -/
theorem resolve_result_of_givesUp (h : s.GivesUp w a) (k : Corrector) :
    (s.resolve w k a).result = some a.toJson := by
  rw [resolve_result]
  cases h with
  | foreignData data => rw [data]; rfl
  | foreignKind kind =>
    have hleft : ∀ target content, resolved w k a target content = a := by
      intro target content
      rw [resolved, kind]
    cases a.target with
    | none => rfl
    | some target =>
      rw [Option.bind_some]
      cases s.documents.content? target.uri with
      | none => rfl
      | some content => rw [Option.map_some, hleft, Option.getD_some]
  | notOpen data closed => rw [data, Option.bind_some, closed]; rfl
  | @withoutRange target data kind range =>
    rw [data, Option.bind_some]
    cases s.documents.content? target.uri with
    | none => rfl
    | some content => rw [Option.map_some, resolved, kind, range]; rfl
  | blankSelection data kind selection stored blank =>
    rw [data, Option.bind_some, stored, Option.map_some, resolved, kind, selection]
    dsimp only
    rw [converted_eq, if_pos blank]
    rfl
  | failingConverter data kind selection stored fails =>
    rw [data, Option.bind_some, stored, Option.map_some, resolved, kind, selection]
    dsimp only
    rw [converted_eq, fails]
    split <;> rfl

/-- The reasons are all: any other action gets one edit of its document. -/
theorem resolve_result_of_not_givesUp (h : ¬ s.GivesUp w a) (k : Corrector) :
    ∃ uri edit, (s.resolve w k a).result =
      some ({ a with edit := some (.single uri edit) } : CodeAction).toJson := by
  rw [resolve_result]
  cases data : a.target with
  | none => exact absurd (.foreignData data) h
  | some target =>
    rw [Option.bind_some]
    cases stored : s.documents.content? target.uri with
    | none => exact absurd (.notOpen data stored) h
    | some content =>
      rw [Option.map_some, Option.getD_some, resolved]
      cases kind : a.actionKind with
      | none => exact absurd (.foreignKind kind) h
      | some kind' =>
        cases kind' with
        | fixAll => exact ⟨target.uri, _, rfl⟩
        | convert =>
          cases selection : target.range with
          | none => exact absurd (.withoutRange data kind selection) h
          | some range =>
            dsimp only
            rw [converted_eq]
            by_cases blank : Text.isBlankText (Text.slice content.toList range) = true
            · exact absurd (.blankSelection data kind selection stored blank) h
            · rw [if_neg blank]
              cases fails : w.tools.conversion
                  (String.ofList (Text.slice content.toList range)) with
              | error e => exact absurd (.failingConverter data kind selection stored fails) h
              | ok text => exact ⟨target.uri, ⟨range, text⟩, rfl⟩

/-! ## Steps -/

theorem request?_codeAction (id : RequestId) (uri : String) (range : Range) :
    request? (.codeAction id uri range) = some (.actions uri range []) := by
  have h (range : Json) : request? ⟨some id, some "textDocument/codeAction",
      .object [("range", range), ("textDocument", .object [("uri", .string uri)])]⟩ =
      (Range.ofJson? range).bind fun r => some (.actions uri r []) := rfl
  rw [Incoming.codeAction, h, Range.ofJson?_toJson, Option.bind_some]

/-- A frame asks to resolve what it carries. -/
structure AsksToResolve (frame : Json) (id : RequestId) (payload : Json) : Prop where
  id : frame.get? "id" = some id.toJson
  method : frame.get? "method" = some (.string "codeAction/resolve")
  params : frame.get? "params" = some payload

theorem AsksToResolve.answers_step {opened : Opened} (hs : s.opened = some opened) {frame : Json}
    {ms : List (String × Json)} (h : AsksToResolve frame id (.object ms))
    (ha : CodeAction.ofJson? (.object ms) = some a) {v : Json}
    (hv : (s.resolve w opened.corrector a).result = some v) :
    answers (s.step o w (Incoming.ofJson frame)).2 = [.response id v] := by
  have hm : Incoming.ofJson frame = ⟨some id, some "codeAction/resolve", .object ms⟩ := by
    rw [Incoming.ofJson, h.id, h.method, h.params, Option.bind_some, RequestId.ofJson?_toJson]
    rfl
  have hrequest : request? (Incoming.ofJson frame) = some (.resolve a) := by
    rw [hm, request?]
    show (CodeAction.ofJson? (.object ms)).map Request.resolve = _
    rw [ha]
    rfl
  exact answers_step_of_opened hs (by rw [hm]) hrequest hv

/-! ## Runs -/

/-- **Offers that are sent back.**  The actions for a range of an open document are answered, and
whichever of them is sent back while the document has the same text is answered with all of its
fields as they were, and with the edit that it is for as its only edit. -/
theorem actions_run (o : Options) (before between : List Arrival) (w : World) (m : Incoming)
    (id : RequestId) (uri content : String) (range : Range) (ds : List Diagnostic)
    (hid : m.id = some id) (hm : request? m = some (.actions uri range ds)) :
    let s := (run o (.start o) before).1
    let s' := (run o (.start o) (before ++ (w, m) :: between)).1
    s.documents.content? uri = some content → s'.documents.content? uri = some content →
    let offered := CodeAction.offers o.lintEnabled uri range ds
    answers (s.step o w m).2 = [.response id (.array (offered.map CodeAction.toJson))] ∧
    ∃ opened, s'.opened = some opened ∧ ∀ a ∈ offered, a.edit = none ∧
      ∃ kind, a.kind = some kind.name ∧
        ∀ w' frame id', AsksToResolve frame id' a.toJson →
          ∃ v, answers (s'.step o w' (Incoming.ofJson frame)).2 = [.response id' v] ∧
            (∀ name, name ≠ "edit" → v.get? name = a.toJson.get? name) ∧
            v.get? "edit" = (editFor w' opened.corrector uri range content kind).map fun e =>
              (WorkspaceEdit.single uri e).toJson := by
  intro s s' hcontent hcontent' offered
  obtain ⟨p, hp⟩ := exists_opened_of_content? hcontent
  obtain ⟨opened, hopened⟩ := exists_opened_of_content? hcontent'
  refine ⟨?_, opened, hopened, ?_⟩
  · apply answers_step_of_opened hp hid hm
    show (s.offer o w uri range ds).result = _
    rw [offer_result, hcontent]
    rfl
  · intro a ha
    obtain ⟨kind, hoffered⟩ := CodeAction.exists_offered ha
    refine ⟨hoffered.edit, kind, hoffered.name, ?_⟩
    intro w' frame id' hframe
    let edit := (editFor w' opened.corrector uri range content kind).map (WorkspaceEdit.single uri)
    have huri : (kind.targetOf uri range).uri = uri := by cases kind <;> rfl
    have hresult : (s'.resolve w' opened.corrector a).result =
        some ({ a with edit } : CodeAction).toJson := by
      rw [resolve_result, hoffered.target, Option.bind_some, huri, hcontent', Option.map_some,
        Option.getD_some, resolved_of_offered hoffered]
    refine ⟨({ a with edit } : CodeAction).toJson, ?_, ?_, ?_⟩
    · exact hframe.answers_step hopened (CodeAction.ofJson?_toJson hoffered.settled) hresult
    · intro name hname
      exact a.get?_toJson_of_ne_edit edit hname
    · rw [CodeAction.get?_toJson_edit]
      show ((editFor w' opened.corrector uri range content kind).map _).map _ = _
      rw [Option.map_map]
      rfl

/-- A selection is offered to be converted, and the converted text replaces it. -/
theorem actions_run_one :
    let o : Options := { lintEnabled := true, cwd := .ofString "/" }
    let w : World := .still []
    let range : Range := ⟨⟨0, 0⟩, ⟨0, 2⟩⟩
    let m : Incoming := .codeAction (.number 2) "a.haml" range
    let before : List Arrival := [(w, .setup), (w, .didOpen "a.haml" "%p")]
    let s := (run o (.start o) before).1
    let s' := (run o (.start o) (before ++ [(w, m)])).1
    let a : CodeAction := {
      title := "Convert selected HTML/ERB to HAML"
      kind := some "refactor"
      data := some (.object [("range", range.toJson), ("uri", .string "a.haml")]) }
    request? m = some (.actions "a.haml" range []) ∧
      s.documents.content? "a.haml" = some "%p" ∧ s'.documents.content? "a.haml" = some "%p" ∧
      ∀ frame, AsksToResolve frame (.number 3) a.toJson →
        ∃ v, answers (s'.step o w (Incoming.ofJson frame)).2 = [.response (.number 3) v] ∧
          v.get? "edit" = some (WorkspaceEdit.single "a.haml" ⟨range, "%p"⟩).toJson := by
  intro o w range m before s s' a
  have hm : request? m = some (.actions "a.haml" range []) := request?_codeAction _ _ _
  have hcontent : s.documents.content? "a.haml" = some "%p" := rfl
  have hcontent' : s'.documents.content? "a.haml" = some "%p" := by decide +kernel
  refine ⟨hm, hcontent, hcontent', ?_⟩
  intro frame hframe
  obtain ⟨-, opened, -, hoffered⟩ :=
    actions_run o before [] w m (.number 2) "a.haml" "%p" range [] rfl hm hcontent hcontent'
  obtain ⟨-, kind, hkind, hsent⟩ := hoffered a (List.mem_singleton.2 rfl)
  obtain rfl : kind = .convert := by
    cases kind with
    | fixAll => simp [a, ActionKind.name] at hkind
    | convert => rfl
  obtain ⟨v, hanswer, -, hedit⟩ := hsent w frame (.number 3) hframe
  exact ⟨v, hanswer, hedit⟩

/-- **Actions that cannot be resolved.**  Such an action is answered with what was read of it.  The
members that are no fields are lost, and so is a `null`; title, kind and data are left.  All of it
comes back as it was sent exactly when it was sent as an action is written. -/
theorem givesUp_step {opened : Opened} (hs : s.opened = some opened) {frame : Json}
    {ms : List (String × Json)} (hframe : AsksToResolve frame id (.object ms))
    (ha : CodeAction.ofJson? (.object ms) = some a) (hgives : s.GivesUp w a) :
    answers (s.step o w (Incoming.ofJson frame)).2 = [.response id a.toJson] ∧
      (∀ name, name ∉ CodeAction.fieldNames → a.toJson.get? name = none) ∧
      (∀ name ∈ ["title", "kind", "data"], ∀ v,
        a.toJson.get? name = some v ↔ (Json.object ms).get? name = some v ∧ v ≠ .null) ∧
      (a.toJson = .object ms ↔ ∃ b : CodeAction, b.Settled ∧ b.toJson = .object ms) := by
  refine ⟨?_, ?_, ?_, ?_⟩
  · exact hframe.answers_step hs ha (resolve_result_of_givesUp hgives opened.corrector)
  · intro name hname
    exact a.get?_toJson_of_notMem hname
  · intro name hname v
    exact CodeAction.get?_toJson_of_ofJson? ha hname v
  · exact CodeAction.toJson_eq_iff_of_ofJson? ha

/-- An action of a kind that the server does not know comes back as it was sent. -/
theorem givesUp_step_source :
    let o : Options := { cwd := .ofString "/" }
    let w : World := .still []
    let s := (run o (.start o) [(w, .setup)]).1
    let payload : Json := .object [("kind", .string "source"), ("title", .string "Sort")]
    let frame : Json := .object [("id", .int 2), ("method", .string "codeAction/resolve"),
      ("params", payload)]
    answers (s.step o w (Incoming.ofJson frame)).2 = [.response (.number 2) payload] := by
  intro o w s payload frame
  have hframe : AsksToResolve frame (.number 2) payload := ⟨rfl, rfl, rfl⟩
  have hread : CodeAction.ofJson? payload = some { title := "Sort", kind := some "source" } := rfl
  obtain ⟨hanswer, -, -, hsame⟩ := givesUp_step (o := o) (s := s) (w := w) rfl hframe hread
    (.foreignKind (by decide))
  rw [hanswer, hsame.2 ⟨{ title := "Sort", kind := some "source" }, ⟨nofun, nofun⟩, rfl⟩]

/-- A mark that the editor put on an action does not come back. -/
theorem givesUp_step_isPreferred :
    let o : Options := { cwd := .ofString "/" }
    let w : World := .still []
    let s := (run o (.start o) [(w, .setup)]).1
    let payload : Json := .object [("isPreferred", .bool true), ("title", .string "Fix")]
    let frame : Json := .object [("id", .int 2), ("method", .string "codeAction/resolve"),
      ("params", payload)]
    AsksToResolve frame (.number 2) payload ∧
      ∃ a, CodeAction.ofJson? payload = some a ∧ s.GivesUp w a ∧ a.toJson ≠ payload ∧
        answers (s.step o w (Incoming.ofJson frame)).2 = [.response (.number 2) a.toJson] := by
  intro o w s payload frame
  have hread : CodeAction.ofJson? payload = some { title := "Fix" } := rfl
  have hgives : s.GivesUp w { title := "Fix" } := .foreignKind rfl
  refine ⟨⟨rfl, rfl, rfl⟩, { title := "Fix" }, hread, hgives, ?_, rfl⟩
  intro hsame
  have hmember : (CodeAction.toJson { title := "Fix" }).get? "isPreferred" = some (.bool true) := by
    rw [hsame]
    rfl
  rw [CodeAction.get?_toJson_of_notMem _ (by decide)] at hmember
  cases hmember

end Session

end HamlServer
