import HamlServer.Editor.CodeAction
import HamlServer.Proofs.Json.Member
import Mathlib.Data.Set.List

/-!
# What the editor is told is read back

Places and findings that are written as JSON are read back as they were, whatever they are.

An action that the editor sends back is read with what it had: `CodeAction.ofJson?_toJson`.  For that
it has to be `Settled`, since `null` as data is read as no data, and the documents of an edit are
kept in the order of their names.
-/

namespace HamlServer

theorem Json.word32_nat (n : UInt32) : Json.word32 (.nat n.toNat) = some n := by
  have h : (0 : Int) ≤ n.toNat ∧ (n.toNat : Int) < twoPow 32 := by
    have hlt := n.toNat_lt
    have hp : twoPow 32 = 2 ^ 32 := by decide
    omega
  rw [nat, word32, if_pos h, Int.toNat_natCast, UInt32.ofNat_toNat]

/-- A list is read back if each of its items is. -/
theorem Json.list_map {α : Type} {read : Json → Option α} {write : α → Json}
    (h : ∀ x, read (write x) = some x) (xs : List α) :
    Json.list read (.array (xs.map write)) = some xs := by
  rw [list]
  induction xs with
  | nil => rfl
  | cons x xs ih =>
    rw [List.map_cons, List.mapM_cons, h, ih]
    rfl

theorem Position.ofJson?_ofMembers (line character : Json) :
    ofJson? (.ofMembers [("line", line), ("character", character)]) =
      (Json.word32 line).bind fun l => (Json.word32 character).bind fun c => some ⟨l, c⟩ := rfl

theorem Position.ofJson?_toJson (p : Position) : ofJson? p.toJson = some p := by
  rw [toJson, ofJson?_ofMembers, Json.word32_nat, Option.bind_some, Json.word32_nat,
    Option.bind_some]

theorem Range.ofJson?_ofMembers (start stop : Json) :
    ofJson? (.ofMembers [("start", start), ("end", stop)]) =
      (Position.ofJson? start).bind fun a => (Position.ofJson? stop).bind fun b => some ⟨a, b⟩ :=
  rfl

theorem Range.ofJson?_toJson (r : Range) : ofJson? r.toJson = some r := by
  rw [toJson, ofJson?_ofMembers, Position.ofJson?_toJson, Option.bind_some,
    Position.ofJson?_toJson, Option.bind_some]

theorem Severity.ofNat?_word64 (s : Severity) :
    (Json.word64 (.nat s.toNat)).bind Severity.ofNat? = some s := by
  cases s <;> rfl

/-- The fields of a finding are read one by one. -/
theorem Diagnostic.ofJson?_ofOptional (range severity : Json) (message source : String)
    (code : Option String) :
    ofJson? (.ofOptional [("range", some range), ("severity", some severity),
      ("message", some (.string message)), ("code", code.map .string),
      ("source", some (.string source))]) =
      (Range.ofJson? range).bind fun r =>
        ((Json.word64 severity).bind Severity.ofNat?).bind fun s =>
          some ⟨r, s, message, code, source⟩ := by
  cases code <;> rfl

theorem Diagnostic.ofJson?_toJson (d : Diagnostic) : ofJson? d.toJson = some d := by
  rw [toJson, ofJson?_ofOptional, Range.ofJson?_toJson, Option.bind_some,
    Severity.ofNat?_word64, Option.bind_some]

/-! ## Edits -/

theorem TextEdit.ofJson?_ofMembers (range : Json) (newText : String) :
    ofJson? (.ofMembers [("range", range), ("newText", .string newText)]) =
      (Range.ofJson? range).bind fun r => some ⟨r, newText⟩ := rfl

theorem TextEdit.ofJson?_toJson (e : TextEdit) : ofJson? e.toJson = some e := by
  rw [toJson, ofJson?_ofMembers, Range.ofJson?_toJson, Option.bind_some]

namespace WorkspaceEdit

/-- The edits of a document as a member. -/
def member (c : String × List TextEdit) : String × Json :=
  (c.1, .array (c.2.map TextEdit.toJson))

theorem toJson_eq (e : WorkspaceEdit) :
    e.toJson = .object [("changes", .ofMembers (e.changes.map member))] := rfl

/-- The documents of an edit are in the order of their names, each once. -/
def InOrder (e : WorkspaceEdit) : Prop := e.changes.Pairwise fun a b => a.1 < b.1

theorem mapM_member (changes : List (String × List TextEdit)) :
    (changes.map member).mapM (fun (uri, v) => (Json.list TextEdit.ofJson? v).map (uri, ·)) =
      some changes := by
  induction changes with
  | nil => rfl
  | cons c changes ih =>
    have hc := Json.list_map TextEdit.ofJson?_toJson c.2
    rw [List.map_cons, List.mapM_cons, ih]
    simp only [member, hc]
    rfl

theorem ofJson?_changes (changes : Json) :
    ofJson? (.object [("changes", changes)]) =
      (changesOfJson? changes).bind fun changes => some ⟨changes⟩ := rfl

theorem ofJson?_toJson {e : WorkspaceEdit} (h : e.InOrder) : ofJson? e.toJson = some e := by
  have hsorted : (e.changes.map member).Pairwise fun a b => a.1 < b.1 := List.pairwise_map.2 h
  have hchanges : changesOfJson? (.object (e.changes.map member)) = some e.changes :=
    mapM_member e.changes
  rw [toJson_eq, Json.ofMembers_of_sorted hsorted, ofJson?_changes, hchanges, Option.bind_some]

/-- Edits are written as edits in order are. -/
theorem exists_inOrder (e : WorkspaceEdit) :
    ∃ e' : WorkspaceEdit, e'.InOrder ∧ e'.toJson = e.toJson := by
  obtain ⟨sorted, hs, hsorted, hmem⟩ := Json.exists_ofMembers_sorted (e.changes.map member)
  have hrange : sorted ∈ Set.range (List.map member) := by
    rw [Set.range_list_map]
    intro m hm
    obtain ⟨c, -, hc⟩ := List.mem_map.1 (hmem m hm)
    exact ⟨c, hc⟩
  obtain ⟨changes, rfl⟩ := hrange
  have horder : InOrder ⟨changes⟩ := (List.pairwise_map (f := member)).1 hsorted
  refine ⟨⟨changes⟩, horder, ?_⟩
  rw [toJson_eq, toJson_eq, hs, Json.ofMembers_of_sorted hsorted]

end WorkspaceEdit

/-! ## Actions -/

theorem ActionTarget.ofJson?_toJson (t : ActionTarget) : ofJson? t.toJson = some t := by
  have hnames : ([("uri", some (.string t.uri)), ("range", t.range.map Range.toJson)].map
      (·.1) : List String).Nodup := by
    show ["uri", "range"].Nodup
    decide
  obtain ⟨fs, hrecord, hf⟩ := Json.exists_record_ofOptional ["uri", "range"] hnames
  have uri : Json.required Json.text fs "uri" = some t.uri := by
    rw [Json.required, hf]
    rfl
  have range : Json.optional Range.ofJson? fs "range" = some t.range :=
    Json.optional_of_lookup (hf "range") fun r _ => ⟨nofun, Range.ofJson?_toJson r⟩
  have hjson : Json.record ["uri", "range"] t.toJson = some fs := hrecord
  simp only [ofJson?, hjson, uri, range, Option.bind_eq_bind, Option.bind_some, Option.pure_def]

namespace CodeAction

/-- An action that keeps its data and the order of its documents when it is written. -/
structure Settled (a : CodeAction) : Prop where
  data : a.data ≠ some .null
  edit : ∀ e, a.edit = some e → e.InOrder

/-- The fields of an action with their values. -/
def fields (a : CodeAction) : List (String × Option Json) :=
  [("title", some (.string a.title)), ("kind", a.kind.map .string),
    ("diagnostics", a.diagnostics.map fun ds => .array (ds.map Diagnostic.toJson)),
    ("edit", a.edit.map WorkspaceEdit.toJson), ("data", a.data)]

theorem nodup_fields (a : CodeAction) : (a.fields.map (·.1)).Nodup := by
  show fieldNames.Nodup
  decide

/-- What is found under a name in a written action. -/
theorem get?_toJson (a : CodeAction) (name : String) :
    a.toJson.get? name = (a.fields.lookup name).join :=
  Json.get?_ofOptional a.nodup_fields name

/-- The fields that an action is read from. -/
theorem ofJson?_eq_some_iff {v : Json} {a : CodeAction} :
    ofJson? v = some a ↔ ∃ fs, Json.record fieldNames v = some fs ∧
      Json.required Json.text fs "title" = some a.title ∧
      Json.optional Json.text fs "kind" = some a.kind ∧
      Json.optional (Json.list Diagnostic.ofJson?) fs "diagnostics" = some a.diagnostics ∧
      Json.optional WorkspaceEdit.ofJson? fs "edit" = some a.edit ∧
      Json.optional Json.any fs "data" = some a.data := by
  simp only [ofJson?, Option.bind_eq_bind, Option.bind_eq_some_iff, Option.pure_def,
    Option.some.injEq]
  constructor
  · rintro ⟨fs, hfs, _, title, _, kind, _, diagnostics, _, edit, _, data, rfl⟩
    exact ⟨fs, hfs, title, kind, diagnostics, edit, data⟩
  · rintro ⟨fs, hfs, title, kind, diagnostics, edit, data⟩
    exact ⟨fs, hfs, _, title, _, kind, _, diagnostics, _, edit, _, data, rfl⟩

/-- An action is read back as it was written. -/
theorem ofJson?_toJson {a : CodeAction} (h : a.Settled) : ofJson? a.toJson = some a := by
  obtain ⟨fs, hrecord, hf⟩ := Json.exists_record_ofOptional fieldNames a.nodup_fields
  refine ofJson?_eq_some_iff.2 ⟨fs, hrecord, ?_, ?_, ?_, ?_, ?_⟩
  · rw [Json.required, hf]
    rfl
  · exact Json.optional_of_lookup (hf "kind") fun s _ => ⟨nofun, rfl⟩
  · exact Json.optional_of_lookup (hf "diagnostics") fun ds _ =>
      ⟨nofun, Json.list_map Diagnostic.ofJson?_toJson ds⟩
  · exact Json.optional_of_lookup (hf "edit") fun e he =>
      ⟨nofun, WorkspaceEdit.ofJson?_toJson (h.edit e he)⟩
  · have hlookup : fs.lookup "data" = a.data.map id := by
      rw [hf, Option.map_id]
      rfl
    refine Json.optional_of_lookup hlookup fun v hv => ⟨?_, rfl⟩
    rintro rfl
    exact h.data hv

theorem get?_toJson_edit (a : CodeAction) :
    a.toJson.get? "edit" = a.edit.map WorkspaceEdit.toJson := by
  rw [get?_toJson]
  rfl

/-- Another edit leaves all other fields of an action. -/
theorem get?_toJson_of_ne_edit (a : CodeAction) (edit : Option WorkspaceEdit) {name : String}
    (h : name ≠ "edit") : ({ a with edit } : CodeAction).toJson.get? name = a.toJson.get? name := by
  rw [get?_toJson, get?_toJson]
  simp only [fields, lookup_cons_eq, if_neg h]

/-! ## Actions that are written again -/

variable {ms : List (String × Json)} {a : CodeAction}

/-- A member that is no field is not written. -/
theorem get?_toJson_of_notMem {name : String} (a : CodeAction) (h : name ∉ fieldNames) :
    a.toJson.get? name = none := by
  rw [get?_toJson, lookup_eq_none_of_notMem h]
  rfl

/-- The title, the kind and the data of an action are written as they were read, unless they were
`null`. -/
theorem get?_toJson_of_ofJson? (h : ofJson? (.object ms) = some a) {name : String}
    (hname : name ∈ ["title", "kind", "data"]) (v : Json) :
    a.toJson.get? name = some v ↔ (Json.object ms).get? name = some v ∧ v ≠ .null := by
  have text_exact : ∀ v s, Json.text v = some s → Json.string s = v := by
    intro v s hs
    cases v <;> simp_all [Json.text]
  obtain ⟨fs, hrecord, htitle, hkind, -, -, hdata⟩ := ofJson?_eq_some_iff.1 h
  obtain rfl : ms = fs := Option.some.inj hrecord
  rw [get?_toJson, Json.get?]
  simp only [List.mem_cons, List.not_mem_nil, or_false] at hname
  rcases hname with rfl | rfl | rfl
  · obtain ⟨found, hfound, ht⟩ := Option.bind_eq_some_iff.1 htitle
    rw [hfound, ← text_exact found a.title ht]
    constructor
    · intro hv
      refine ⟨hv, ?_⟩
      rintro rfl
      cases hv
    · exact And.left
  · exact Json.map_eq_some_iff_of_optional hkind text_exact v
  · have hany : ∀ v y, Json.any v = some y → id y = v := fun v y hy => (Option.some.inj hy).symm
    have hiff := Json.map_eq_some_iff_of_optional hdata hany v
    rw [Option.map_id] at hiff
    exact hiff

theorem data_ne_null_of_ofJson? (h : ofJson? (.object ms) = some a) : a.data ≠ some .null := by
  intro hdata
  have hget : a.toJson.get? "data" = some .null := by
    rw [get?_toJson]
    exact hdata
  exact ((get?_toJson_of_ofJson? h (by simp) .null).1 hget).2 rfl

/-- An action without `null` as data is written as one that is settled. -/
theorem exists_settled {a : CodeAction} (hdata : a.data ≠ some .null) :
    ∃ b : CodeAction, b.Settled ∧ b.toJson = a.toJson := by
  cases hedit : a.edit with
  | none => exact ⟨a, ⟨hdata, by simp [hedit]⟩, rfl⟩
  | some e =>
    obtain ⟨e', horder, hwritten⟩ := e.exists_inOrder
    refine ⟨{ a with edit := some e' }, ⟨hdata, ?_⟩, ?_⟩
    · rintro _ ⟨⟩
      exact horder
    · rw [toJson, toJson, hedit, Option.map_some, Option.map_some, hwritten]

/-- What was read is written as it came exactly when an action is written like that. -/
theorem toJson_eq_iff_of_ofJson? (h : ofJson? (.object ms) = some a) :
    a.toJson = .object ms ↔ ∃ b : CodeAction, b.Settled ∧ b.toJson = .object ms := by
  constructor
  · intro he
    rw [← he]
    exact exists_settled (data_ne_null_of_ofJson? h)
  · rintro ⟨b, hb, hwritten⟩
    rw [← hwritten, ofJson?_toJson hb] at h
    rw [← Option.some.inj h, hwritten]

end CodeAction

end HamlServer
