import HamlServer.Proofs.Session.Opening

/-!
# What answers are made of

A request about a document is answered from the text of that document and from what is known of the
project; no other document plays a part.  For each such request the answer is given in these terms:
`format_result`, `offer_result`, `resolve_result`, `complete_result` and `define_result`.

The project itself may be looked at earlier or later.  As long as its kind and the listing of its
routes are what they are, `Project.Settled` is kept by all that is found out, and `look_workspace`
says that completion and navigation always see the same workspace.
-/

namespace HamlServer

/-! ## Projects that stay what they are -/

namespace Project

/-- What is known of a project is right: its kind is `rails`, and its routes are those of the
listing or were not loaded. -/
structure Settled (rails : Bool) (listing : Path → Except ToolError String) (p : Project) :
    Prop where
  kind : ∀ b, p.rails = some b → b = rails
  loaded : p.loaded = true →
    rails = true ∧ ∃ root, p.root = some root ∧ p.routes = routesOf root (listing root)
  unloaded : p.loaded = false → p.routes = .empty

/-- The routes of a project, once they are looked for. -/
def settledRoutes (rails : Bool) (listing : Path → Except ToolError String) :
    Option Path → RouteTable
  | some root => if rails then routesOf root (listing root) else .empty
  | none => .empty

variable {p q : Project} {rails : Bool} {files : Directory}
  {listing : Path → Except ToolError String}

theorem settled_of_root (root : Option Path) : Settled rails listing { root } where
  kind _ h := by cases h
  loaded h := by cases h
  unloaded _ := rfl

theorem Settled.classify (h : p.Settled rails listing)
    (hkind : p.root.any (Rails.isProject files) = rails) :
    (p.classify files).Settled rails listing ∧ (p.classify files).rails = some rails ∧
      (p.classify files).root = p.root := by
  cases hr : p.rails with
  | some b =>
    rw [classify_of_rails hr]
    exact ⟨h, by rw [hr, h.kind b hr], rfl⟩
  | none =>
    rw [classify_of_rails_eq_none hr, hkind]
    exact ⟨⟨fun b hb => (Option.some.inj hb).symm, h.loaded, h.unloaded⟩, rfl, rfl⟩

theorem load_of_rails (hr : p.rails = some rails) :
    p.load files listing =
      if p.loaded then (p, none)
      else match rails, p.root with
        | true, some root =>
          ({ p with routes := routesOf root (listing root), loaded := true }, some root)
        | _, _ => (p, none) := by
  rw [load, classify_of_rails hr]
  dsimp only
  rw [isRails, hr]
  rfl

/-- Loading the routes of a project whose kind is known. -/
theorem Settled.load (h : p.Settled rails listing) (files : Directory)
    (hr : p.rails = some rails) :
    (p.load files listing).1.Settled rails listing ∧
      (p.load files listing).1.rails = some rails ∧ (p.load files listing).1.root = p.root ∧
      (p.load files listing).1.routes = settledRoutes rails listing p.root := by
  rw [load_of_rails hr]
  split
  · next hl =>
    obtain ⟨hrails, root, hroot, hroutes⟩ := h.loaded hl
    exact ⟨h, hr, rfl, by rw [hroutes, hroot, settledRoutes, if_pos hrails]⟩
  · next hl =>
    have hempty := h.unloaded (Bool.eq_false_iff.2 hl)
    cases rails with
    | false => exact ⟨h, hr, rfl, hempty.trans (by cases p.root <;> rfl)⟩
    | true =>
      cases hroot : p.root with
      | none => exact ⟨h, hr, hroot, hempty⟩
      | some root =>
        exact ⟨⟨h.kind, fun _ => ⟨rfl, root, rfl, rfl⟩, fun hu => by cases hu⟩, hr, rfl, rfl⟩

theorem Settled.learns (h : p.Settled rails listing) (hl : p.Learns files listing q)
    (hkind : p.root.any (Rails.isProject files) = rails) : q.Settled rails listing := by
  obtain ⟨hc, hr, _⟩ := h.classify hkind
  cases hl with
  | nothing => exact h
  | kind => exact hc
  | routes => exact (hc.load files hr).1

end Project

namespace Session

variable (s : Session) (o : Options) (w : World) (k : Corrector)

/-- Completion and navigation see a project as it is, whatever was found out about it before. -/
theorem look_workspace {p : Project} {rails : Bool}
    (h : p.Settled rails w.tools.listing) (hkind : p.root.any (Rails.isProject w.files) = rails) :
    (s.look w p).2.1 = ⟨w.files, p.root, rails,
      some (Project.settledRoutes rails w.tools.listing p.root)⟩ := by
  obtain ⟨hc, hr, hroot⟩ := h.classify hkind
  obtain ⟨_, hr', hroot', hroutes⟩ := hc.load w.files hr
  simp only [look, loadRoutes]
  rw [hroutes, hroot', hroot, Project.isRails, hr']
  rfl

/-! ## Answers from a text -/

/-- What a lookup finds of a document, as far as its text goes. -/
theorem document_content (uri : String) :
    (s.document w uri).2.map (·.content) = s.documents.content? uri := by
  show ((s.documents.touch (s.now w) uri).find? uri).map (·.content) = _
  rw [← Documents.content?_eq_find?, Documents.content?, Documents.page?_touch, Documents.content?]

/-- The result of formatting a text. -/
def formatted (w : World) (k : Corrector) (uri : String) (content : String) : Json :=
  if content.isEmpty then .null
  else .array [TextEdit.toJson ⟨Text.fullRange content.toList, (corrected w k uri content).1⟩]

theorem format_result (uri : String) :
    (s.format w k uri).result =
      some (((s.documents.content? uri).map (formatted w k uri)).getD .null) := by
  rw [← document_content s w uri]
  cases hf : (s.document w uri).2 with
  | none => simp only [format, hf, Option.filter_none]; rfl
  | some d =>
    simp only [format, hf]
    by_cases he : d.content.isEmpty = true
    · rw [Option.filter_some_neg (by simp [he])]
      simp [formatted, he]
    · rw [Option.filter_some_pos (by simp [he])]
      simp [formatted, he]

theorem offer_result (uri : String) (range : Range) (ds : List Diagnostic) :
    (s.offer o w uri range ds).result = some (.array (((s.documents.content? uri).elim []
      fun _ => CodeAction.offers o.lintEnabled uri range ds).map CodeAction.toJson)) := by
  rw [← document_content s w uri]
  cases hf : (s.document w uri).2 <;> simp only [offer, hf] <;> rfl

/-- An action with the edit that is made from the text of its document. -/
def resolved (w : World) (k : Corrector) (a : CodeAction) (target : ActionTarget)
    (content : String) : CodeAction :=
  match a.actionKind, target.range with
  | some .fixAll, _ =>
    a.withDocumentEdit target.uri content (corrected w k target.uri content).1
  | some .convert, some range =>
    ((converted w content range).1.map (a.withRangeEdit target.uri range)).getD a
  | _, _ => a

theorem resolve_result (a : CodeAction) :
    (s.resolve w k a).result = some (CodeAction.toJson
      ((a.target.bind fun target =>
        (s.documents.content? target.uri).map (resolved w k a target)).getD a)) := by
  cases ht : a.target with
  | none => simp only [resolve, ht]; rfl
  | some target =>
    rw [Option.bind_some, ← document_content s w target.uri]
    simp only [resolve, ht]
    cases hf : (s.document w target.uri).2 with
    | none => rfl
    | some d =>
      rw [Option.map_some, Option.map_some, Option.getD_some, resolved]
      rcases a.actionKind with _ | _ | _
      · rfl
      · rfl
      · rcases target.range with _ | range
        · rfl
        · simp only
          cases (converted w d.content range).1 <;> rfl

/-! ## Answers from a text and the project -/

/-- The candidates at a position of a text. -/
def candidates (workspace : Workspace) (uri : String) (position : Position) (content : String) :
    List CompletionItem :=
  ((Text.linePrefix content.toList position).map
    (workspace.complete (Url.documentPath uri))).getD []

theorem complete_result (p : Project) (uri : String) (position : Position) :
    (s.complete w p uri position).result = some (.array (((s.documents.content? uri).elim []
      (candidates ((s.document w uri).1.look w p).2.1 uri position)).map
        CompletionItem.toJson)) := by
  rw [← document_content s w uri]
  cases hf : (s.document w uri).2 with
  | none => simp only [complete, hf, Option.bind_none]; rfl
  | some d =>
    rw [Option.map_some, Option.elim_some, candidates]
    cases hl : Text.linePrefix d.content.toList position with
    | none => simp only [complete, hf, Option.bind_some, hl]; rfl
    | some line => simp only [complete, hf, Option.bind_some, hl]; rfl

/-- The places that a position of a text leads to. -/
def places (workspace : Workspace) (uri : String) (position : Position) (content : String) :
    List Location :=
  ((lineAndWord? content.toList position).map fun (line, word) =>
    workspace.definitions (Url.documentPath uri) line word).getD []

theorem define_result (p : Project) (uri : String) (position : Position) :
    (s.define w p uri position).result =
      let found := (s.documents.content? uri).elim []
        (places ((s.document w uri).1.look w p).2.1 uri position)
      some (if found.isEmpty then .null else .array (found.map Location.toJson)) := by
  rw [← document_content s w uri]
  cases hf : (s.document w uri).2 with
  | none => simp only [define, hf, Option.bind_none]; rfl
  | some d =>
    rw [Option.map_some, Option.elim_some, places]
    cases hl : lineAndWord? d.content.toList position with
    | none => simp only [define, hf, Option.bind_some, hl]; rfl
    | some found => simp only [define, hf, Option.bind_some, hl]; rfl

end Session

end HamlServer
