import HamlServer.Proofs.Documents.Eviction

/-!
# One document among others

The stamp of a document is its text and the time of its last use.  As long as all documents have
room, what is done with the others leaves the stamp of a document as it is: there is one lemma for
each operation, and `Roomy` is what they need.
-/

namespace HamlServer

namespace Documents

variable {s : Documents} {now : Int} {u v text : String} {uris : List String} {ttl : Nat}

/-- The text of a document and the time of its last use. -/
def stamp? (s : Documents) (uri : String) : Option (String × Int) :=
  (s.find? uri).map fun e => (e.content, e.lastUse)

/-- The documents come from identifiers that have room together, and may be idle for a given
time. -/
structure Roomy (uris : List String) (ttl : Nat) (s : Documents) : Prop where
  distinct : s.Distinct
  known : ∀ e ∈ s.entries, e.uri ∈ uris
  room : uris.length ≤ s.capacity
  limit : s.ttl = ttl

theorem content?_eq_stamp? : s.content? v = (s.stamp? v).map Prod.fst := by
  rw [content?_eq_find?, stamp?, Option.map_map]
  rfl

/-- A document that is not open has room. -/
theorem Roomy.size_lt (h : Roomy uris ttl s) (hu : u ∈ uris) (hnew : s.find? u = none) :
    s.size < s.capacity := by
  have hsub : ∀ e ∈ s.entries, e.uri ∈ uris.erase u := by
    intro e he
    refine (List.mem_erase_of_ne ?_).2 (h.known e he)
    rintro rfl
    exact find?_eq_none_iff.1 hnew (List.mem_map_of_mem he)
  have hsize := size_le_of_subset h.distinct hsub
  have hlen := List.length_erase_of_mem hu
  have hpos := List.length_pos_of_mem hu
  have hroom := h.room
  omega

theorem Roomy.mem_of_content? (h : Roomy uris ttl s) (hu : (s.content? u).isSome = true) :
    u ∈ uris := by
  rw [content?_eq_find?, Option.isSome_map, Option.isSome_iff_exists] at hu
  obtain ⟨e, he⟩ := hu
  obtain ⟨hmem, rfl⟩ := (find?_eq_some_iff h.distinct).1 he
  exact h.known e hmem

theorem Roomy.filter (h : Roomy uris ttl s) (p : OpenDocument → Bool) :
    Roomy uris ttl { s with entries := s.entries.filter p } where
  distinct := distinct_filter p h.distinct
  known e he := h.known e (List.mem_of_mem_filter he)
  room := h.room
  limit := h.limit

theorem Roomy.modify (h : Roomy uris ttl s) (f : OpenDocument → OpenDocument)
    (hf : ∀ e, (f e).uri = e.uri) : Roomy uris ttl (s.modify u f) where
  distinct := distinct_modify f hf h.distinct
  known e he := by
    obtain ⟨d, hd, rfl⟩ := List.mem_map.1 he
    split
    · rw [hf]
      exact h.known d hd
    · exact h.known d hd
  room := h.room
  limit := h.limit

/-- A document that is given its text where there is room. -/
theorem set_of_room (h : Roomy uris ttl s) (hu : u ∈ uris) (now : Int) (text : String) :
    s.set now u text =
      if s.contains u then s.modify u fun e => { e with content := text, lastUse := now }
      else { s with entries := s.entries ++ [{ uri := u, content := text, lastUse := now }] } := by
  rw [contains]
  cases hf : s.find? u with
  | some e => rw [set_of_find?_eq_some hf]; rfl
  | none =>
    rw [set_of_find?_eq_none hf, if_neg (Nat.not_le.2 (h.size_lt hu hf))]
    rfl

theorem Roomy.set (h : Roomy uris ttl s) (hu : u ∈ uris) : Roomy uris ttl (s.set now u text) where
  distinct := distinct_set h.distinct
  known := by
    rw [set_of_room h hu]
    split
    · exact (h.modify (fun e => { e with content := text, lastUse := now }) fun _ => rfl).known
    · intro e he
      rcases List.mem_append.1 he with he | he
      · exact h.known e he
      · rw [List.mem_singleton.1 he]
        exact hu
  room := by
    rw [capacity_set]
    exact h.room
  limit := by
    obtain ⟨entries, he⟩ := exists_set_eq s now u text
    rw [he]
    exact h.limit

/-! ## Stamps -/

theorem stamp?_modify (f : OpenDocument → OpenDocument) (hf : ∀ e, (f e).uri = e.uri) :
    (s.modify u f).stamp? v =
      if v = u then (s.find? v).map fun e => ((f e).content, (f e).lastUse) else s.stamp? v := by
  split
  · next h =>
    subst h
    rw [stamp?, find?_modify_self f hf, Option.map_map]
    rfl
  · next h => rw [stamp?, find?_modify_other f hf h, stamp?]

theorem stamp?_touch : (s.touch now u).stamp? v =
    if v = u then (s.stamp? v).map fun p => (p.1, now) else s.stamp? v := by
  rw [touch, stamp?_modify (fun e => { e with lastUse := now }) fun _ => rfl, stamp?,
    Option.map_map]
  rfl

theorem stamp?_setDiagnostics (ds : List Diagnostic) :
    (s.setDiagnostics u ds).1.stamp? v = s.stamp? v := by
  rw [setDiagnostics, stamp?_modify (fun e => { e with diagnostics := ds }) fun _ => rfl]
  split <;> rfl

theorem stamp?_delete : (s.delete u).stamp? v = if v = u then none else s.stamp? v := by
  rw [stamp?, find?_delete]
  split <;> rfl

/-- A document that is not idle for too long stays when those are closed that are. -/
theorem stamp?_dropStale (h : Roomy uris ttl s) (hv : ∀ x, s.stamp? v = some x → now - x.2 ≤ ttl) :
    (s.dropStale now).1.stamp? v = s.stamp? v := by
  have hkept : (s.find? v).filter (fun e => now - e.lastUse ≤ s.ttl) = s.find? v := by
    cases hf : s.find? v with
    | none => rfl
    | some e =>
      have he := hv (e.content, e.lastUse) (by rw [stamp?, hf]; rfl)
      rw [Option.filter_some_pos (by rw [h.limit]; simpa using he)]
  rw [stamp?, find?_dropStale h.distinct, hkept, stamp?]

theorem stamp?_set (h : Roomy uris ttl s) (hu : u ∈ uris) :
    (s.set now u text).stamp? v = if v = u then some (text, now) else s.stamp? v := by
  rw [set_of_room h hu]
  split
  · next hopen =>
    rw [stamp?_modify (fun e => { e with content := text, lastUse := now }) fun _ => rfl]
    split
    · next hv =>
      obtain ⟨e, he⟩ := Option.isSome_iff_exists.1 hopen
      rw [hv, he]
      rfl
    · rfl
  · next hnew =>
    rw [contains, Option.not_isSome_iff_eq_none] at hnew
    rw [stamp?, find?_insert]
    by_cases hv : v = u
    · rw [hv, hnew]
      simp
    · simp [hv, Ne.symm hv, stamp?]

end Documents

end HamlServer
