import HamlServer.Session.Documents
import Mathlib.Data.List.Perm.Subperm
import Mathlib.Data.List.Nodup

/-!
# Open documents by identifier

The documents are a list, and every operation on them is known by what it does to the lookup
`page?`: the text and the findings that are kept of a document.  Times of use are left out of a
page, so looking a document up changes none.

Room is made only for a new document and only where there is none left.  `page?_set_other` says what
holds in any case, and `page?_set_other_of_room` what holds when there is room.
-/

namespace HamlServer

namespace Documents

variable {s : Documents} {now : Int} {u v text : String}

/-- What is kept of a document: its text and its findings. -/
def page? (s : Documents) (uri : String) : Option (String × List Diagnostic) :=
  (s.find? uri).map fun e => (e.content, e.diagnostics)

/-- No two documents have the same identifier. -/
def Distinct (s : Documents) : Prop := (s.entries.map (·.uri)).Nodup

/-! ## Lookup -/

theorem uri_of_find? {e : OpenDocument} (h : s.find? v = some e) : e.uri = v := by
  simpa using List.find?_some h

theorem mem_of_find? {e : OpenDocument} (h : s.find? v = some e) : e ∈ s.entries :=
  List.mem_of_find?_eq_some h

theorem find?_eq_none_iff : s.find? v = none ↔ v ∉ s.entries.map (·.uri) := by
  simp [find?]

/-- With distinct identifiers every document is found. -/
theorem find?_eq_some_iff (h : s.Distinct) {e : OpenDocument} :
    s.find? v = some e ↔ e ∈ s.entries ∧ e.uri = v := by
  constructor
  · exact fun hf => ⟨mem_of_find? hf, uri_of_find? hf⟩
  · rintro ⟨hm, rfl⟩
    cases hf : s.find? e.uri with
    | none => exact absurd (List.mem_map_of_mem hm) (find?_eq_none_iff.1 hf)
    | some e' =>
      have he : e' = e := List.inj_on_of_nodup_map h (mem_of_find? hf) hm (uri_of_find? hf)
      rw [he]

/-! ## Changes in place -/

theorem find?_modify (f : OpenDocument → OpenDocument) (hf : ∀ e, (f e).uri = e.uri) :
    (s.modify u f).find? v = (s.find? v).map fun e => if e.uri = u then f e else e := by
  have huri (e : OpenDocument) : (if e.uri = u then f e else e).uri = e.uri := by
    split
    · exact hf e
    · rfl
  simp only [find?, modify, List.find?_map, Function.comp_def, huri]

theorem distinct_modify (f : OpenDocument → OpenDocument) (hf : ∀ e, (f e).uri = e.uri)
    (h : s.Distinct) : (s.modify u f).Distinct := by
  have huri : ((fun e : OpenDocument => e.uri) ∘ fun e => if e.uri = u then f e else e) =
      fun e => e.uri := by
    funext e
    simp only [Function.comp_apply]
    split
    · exact hf e
    · rfl
  rw [Distinct, modify, List.map_map, huri]
  exact h

@[simp] theorem page?_touch : (s.touch now u).page? v = s.page? v := by
  rw [page?, touch, find?_modify (fun e => { e with lastUse := now }) fun _ => rfl, Option.map_map,
    page?]
  congr 1
  funext e
  simp only [Function.comp_apply]
  split <;> rfl

theorem distinct_touch (h : s.Distinct) : (s.touch now u).Distinct :=
  distinct_modify _ (fun _ => rfl) h

theorem distinct_setDiagnostics {ds : List Diagnostic} (h : s.Distinct) :
    (s.setDiagnostics u ds).1.Distinct :=
  distinct_modify _ (fun _ => rfl) h

theorem page?_setDiagnostics (ds : List Diagnostic) :
    (s.setDiagnostics u ds).1.page? v =
      if v = u then (s.page? v).map fun p => (p.1, ds) else s.page? v := by
  rw [page?, setDiagnostics, find?_modify (fun e => { e with diagnostics := ds }) fun _ => rfl,
    page?]
  cases hf : s.find? v with
  | none => simp
  | some e =>
    have he := uri_of_find? hf
    by_cases hv : v = u
    · simp [he, hv]
    · simp [he, hv]

/-! ## Closing -/

theorem find?_delete : (s.delete u).find? v = if v = u then none else s.find? v := by
  rw [find?, delete, List.find?_filter]
  by_cases hv : v = u
  · rw [if_pos hv, List.find?_eq_none]
    intro e _
    simp [hv]
  · rw [if_neg hv, find?]
    congr 1
    funext e
    by_cases he : e.uri = v
    · simp [he, hv]
    · simp [he]

theorem page?_delete : (s.delete u).page? v = if v = u then none else s.page? v := by
  rw [page?, find?_delete]
  split <;> rfl

theorem distinct_filter (p : OpenDocument → Bool) (h : s.Distinct) :
    Distinct { s with entries := s.entries.filter p } :=
  h.sublist (List.filter_sublist.map _)

theorem page?_of_filter (p : OpenDocument → Bool) (h : s.Distinct)
    {page : String × List Diagnostic}
    (hp : page? { s with entries := s.entries.filter p } v = some page) :
    s.page? v = some page := by
  obtain ⟨e, he, rfl⟩ := Option.map_eq_some_iff.1 hp
  obtain ⟨hm, hu⟩ := (find?_eq_some_iff (distinct_filter p h)).1 he
  have hf : s.find? v = some e := (find?_eq_some_iff h).2 ⟨List.mem_of_mem_filter hm, hu⟩
  rw [page?, hf]
  rfl

theorem distinct_makeRoom (h : s.Distinct) : (s.makeRoom now).Distinct := by
  rw [makeRoom]
  split
  · exact distinct_filter _ h
  · split
    · exact distinct_filter _ h
    · exact h

theorem page?_of_makeRoom (h : s.Distinct) {page : String × List Diagnostic}
    (hp : (s.makeRoom now).page? v = some page) : s.page? v = some page := by
  rw [makeRoom] at hp
  split at hp
  · exact page?_of_filter _ h hp
  · split at hp
    · exact page?_of_filter _ h hp
    · exact hp

/-! ## Opening -/

theorem find?_insert (e : OpenDocument) :
    find? { s with entries := s.entries ++ [e] } v =
      (s.find? v).or (if e.uri = v then some e else none) := by
  rw [find?, List.find?_append]
  by_cases h : e.uri = v <;> simp [find?, h]

theorem distinct_insert {e : OpenDocument} (h : s.Distinct) (hn : s.find? e.uri = none) :
    Distinct { s with entries := s.entries ++ [e] } := by
  rw [Distinct, List.map_append, List.map_singleton, List.nodup_append_comm]
  exact List.nodup_cons.2 ⟨find?_eq_none_iff.1 hn, h⟩

/-- A document that is open gets its text in its place. -/
theorem set_of_find?_eq_some {e : OpenDocument} (hf : s.find? u = some e) (now : Int)
    (text : String) :
    s.set now u text = s.modify u fun e => { e with content := text, lastUse := now } := by
  rw [set, hf]

/-- A document that is new, in front of which room was made where there was none. -/
theorem set_of_find?_eq_none (hn : s.find? u = none) (now : Int) (text : String) :
    s.set now u text =
      let t := if s.capacity ≤ s.size then s.makeRoom now else s
      { t with entries := t.entries ++ [{ uri := u, content := text, lastUse := now }] } := by
  rw [set, hn]

theorem find?_room_eq_none (h : s.Distinct) (hn : s.find? u = none) :
    (if s.capacity ≤ s.size then s.makeRoom now else s).find? u = none := by
  split
  · have hp : (s.makeRoom now).page? u = none := by
      cases hp : (s.makeRoom now).page? u with
      | none => rfl
      | some page =>
        have := page?_of_makeRoom h hp
        rw [page?, hn] at this
        cases this
    exact Option.map_eq_none_iff.1 hp
  · exact hn

theorem distinct_set (h : s.Distinct) : (s.set now u text).Distinct := by
  cases hf : s.find? u with
  | some e =>
    rw [set, hf]
    exact distinct_modify _ (fun _ => rfl) h
  | none =>
    rw [set_of_find?_eq_none hf]
    refine distinct_insert ?_ (find?_room_eq_none h hf)
    split
    · exact distinct_makeRoom h
    · exact h

theorem page?_insert_other {e : OpenDocument} (hv : v ≠ e.uri) :
    page? { s with entries := s.entries ++ [e] } v = s.page? v := by
  rw [page?, find?_insert, if_neg (Ne.symm hv), Option.or_none]
  rfl

theorem page?_set_of_open (hv : v ≠ u) {e : OpenDocument} (hf : s.find? u = some e) :
    (s.set now u text).page? v = s.page? v := by
  rw [set, hf, page?,
    find?_modify (fun e => { e with content := text, lastUse := now }) fun _ => rfl]
  cases hg : s.find? v with
  | none => simp [page?, hg]
  | some e => simp [page?, hg, uri_of_find? hg, hv]

/-- An opened document has the new text, and keeps its findings if it was open. -/
theorem page?_set_self (h : s.Distinct) :
    (s.set now u text).page? u = some (text, ((s.page? u).map (·.2)).getD []) := by
  cases hf : s.find? u with
  | some e =>
    rw [set, hf, page?,
      find?_modify (fun e => { e with content := text, lastUse := now }) fun _ => rfl]
    simp only [page?, hf, Option.map_some, uri_of_find? hf, if_true, Option.getD_some]
  | none =>
    rw [set_of_find?_eq_none hf, page?, find?_insert, find?_room_eq_none h hf]
    simp [page?, hf]

/-- What is kept of another document was kept before. -/
theorem page?_set_other (h : s.Distinct) (hv : v ≠ u) {page : String × List Diagnostic}
    (hp : (s.set now u text).page? v = some page) : s.page? v = some page := by
  cases hf : s.find? u with
  | some e => rwa [page?_set_of_open hv hf] at hp
  | none =>
    rw [set_of_find?_eq_none hf, page?_insert_other hv] at hp
    split at hp
    · exact page?_of_makeRoom h hp
    · exact hp

/-- The text of a document. -/
def content? (s : Documents) (uri : String) : Option String := (s.page? uri).map Prod.fst

theorem content?_eq_find? : s.content? v = (s.find? v).map (·.content) := by
  rw [content?, page?, Option.map_map]
  rfl

/-- What is kept of a document that was not kept otherwise has the text from there. -/
theorem content?_of_page? {t : Documents}
    (h : ∀ page, s.page? v = some page → t.page? v = some page) (hc : s.content? v = some text) :
    t.content? v = some text := by
  obtain ⟨page, hp, rfl⟩ := Option.map_eq_some_iff.1 hc
  rw [content?, h page hp]
  rfl

@[simp] theorem content?_setDiagnostics (ds : List Diagnostic) :
    (s.setDiagnostics u ds).1.content? v = s.content? v := by
  rw [content?, page?_setDiagnostics]
  split
  · rw [Option.map_map]
    rfl
  · rfl

theorem content?_set_self (h : s.Distinct) : (s.set now u text).content? u = some text := by
  rw [content?, page?_set_self h]
  rfl

theorem content?_delete : (s.delete u).content? v = if v = u then none else s.content? v := by
  rw [content?, page?_delete]
  split <;> rfl

/-! ## Size -/

/-- The bounds on the documents stay what they are. -/
theorem exists_set_eq (s : Documents) (now : Int) (u text : String) :
    ∃ entries, s.set now u text = { s with entries } := by
  cases hf : s.find? u with
  | some e => exact ⟨_, set_of_find?_eq_some hf now text⟩
  | none =>
    have hroom : ∃ entries, (if s.capacity ≤ s.size then s.makeRoom now else s) =
        { s with entries } := by
      split
      · rw [makeRoom]
        split
        · exact ⟨_, rfl⟩
        · split <;> exact ⟨_, rfl⟩
      · exact ⟨_, rfl⟩
    obtain ⟨entries, hroom⟩ := hroom
    rw [set_of_find?_eq_none hf, hroom]
    exact ⟨_, rfl⟩

theorem capacity_set : (s.set now u text).capacity = s.capacity := by
  obtain ⟨entries, h⟩ := exists_set_eq s now u text
  rw [h]

/-- There are no more documents than identifiers that they come from. -/
theorem size_le_of_subset (h : s.Distinct) {uris : List String}
    (hs : ∀ e ∈ s.entries, e.uri ∈ uris) : s.size ≤ uris.length := by
  have hsub : s.entries.map (·.uri) ⊆ uris := by
    intro x hx
    obtain ⟨e, he, rfl⟩ := List.mem_map.1 hx
    exact hs e he
  have := (List.subperm_of_subset h hsub).length_le
  rwa [List.length_map] at this

end Documents

end HamlServer
