import HamlServer.Proofs.Documents.Lookup
import Mathlib.Data.List.MinMax

/-!
# Which documents go

The open documents are changed by seven operations, each at a time that the clock tells; the clock
may also go backwards.  `Operation.Leaves` says what is found under every identifier after an
operation, so it says which documents go: for a new document where there is no room, all that were
idle for longer than `ttl`, or else one that was not used for the longest time.

* `wellKept_perform`: one operation keeps the bound on the number of documents.
* `leaves_perform`: one operation does what `Leaves` says.
* `leaves_performAll`: both, after any operations.
-/

namespace HamlServer

namespace Documents

variable {s : Documents} {now : Int} {u v text : String}

/-! ## Operations -/

/-- What can be done with the open documents, with the time at which it is done where that
matters. -/
inductive Operation where
  | set (now : Int) (uri content : Option String)
  | get (now : Int) (uri : String)
  | setDiagnostics (uri : String) (ds : List Diagnostic)
  | delete (uri : String)
  | clear
  | dropStale (now : Int)

/-- The documents after an operation. -/
def perform (s : Documents) : Operation → Documents
  | .set now uri content => s.setIfGiven now uri content
  | .get now uri => (s.get now uri).1
  | .setDiagnostics uri ds => (s.setDiagnostics uri ds).1
  | .delete uri => s.delete uri
  | .clear => s.clear
  | .dropStale now => (s.dropStale now).1

/-- The documents after some operations, one after the other. -/
def performAll (s : Documents) (ops : List Operation) : Documents := ops.foldl perform s

/-- The number of documents that have been idle for too long. -/
def staleCount (s : Documents) (now : Int) : Nat := s.entries.countP (s.isStale now)

/-- Every document either counts as idle for too long or stays. -/
theorem staleCount_add_size_dropStale (s : Documents) (now : Int) :
    s.staleCount now + (s.dropStale now).1.size = s.size := by
  simp only [staleCount, dropStale, size, ← List.countP_eq_length_filter]
  rw [List.length_eq_countP_add_countP (s.isStale now)]
  simp

/-- The number that is told is that of the documents that go. -/
theorem dropStale_snd (s : Documents) (now : Int) : (s.dropStale now).2 = s.staleCount now := by
  have hsize := s.staleCount_add_size_dropStale now
  show s.size - (s.dropStale now).1.size = _
  omega

/-- What an operation makes of the documents `s`: those of `t`. -/
def Operation.Leaves (s t : Documents) : Operation → Prop
  | .set now (some u) (some text) =>
    t.find? u = some
      { uri := u, content := text, lastUse := now,
        diagnostics := ((s.find? u).map (·.diagnostics)).getD [] } ∧
    if s.contains u ∨ s.size < s.capacity then
      ∀ v ≠ u, t.find? v = s.find? v
    else if ∃ e ∈ s.entries, s.ttl < now - e.lastUse then
      ∀ v ≠ u, t.find? v = (s.find? v).filter fun e => now - e.lastUse ≤ s.ttl
    else
      ∃ e ∈ s.entries, (∀ e' ∈ s.entries, e.lastUse ≤ e'.lastUse) ∧
        ∀ v ≠ u, t.find? v = if v = e.uri then none else s.find? v
  | .set _ _ _ => t = s
  | .get now u =>
    t.find? u = (s.find? u).map (fun e => { e with lastUse := now }) ∧
      ∀ v ≠ u, t.find? v = s.find? v
  | .setDiagnostics u ds =>
    t.find? u = (s.find? u).map (fun e => { e with diagnostics := ds }) ∧
      ∀ v ≠ u, t.find? v = s.find? v
  | .delete u => t.find? u = none ∧ ∀ v ≠ u, t.find? v = s.find? v
  | .clear => ∀ v, t.find? v = none
  | .dropStale now =>
    (∀ v, t.find? v = (s.find? v).filter fun e => now - e.lastUse ≤ s.ttl) ∧
      t.size + s.staleCount now = s.size ∧ (s.dropStale now).2 = s.staleCount now

/-! ## The bound -/

/-- Identifiers are distinct, there is room for a document, and no more documents than there is
room for. -/
structure WellKept (s : Documents) : Prop where
  distinct : s.Distinct
  pos : 0 < s.capacity
  le : s.size ≤ s.capacity

theorem wellKept_ofCapacity (capacity ttl : Nat) : (ofCapacity capacity ttl).WellKept where
  distinct := List.nodup_nil
  pos := Nat.lt_of_lt_of_le Nat.zero_lt_one (Nat.le_max_left 1 capacity)
  le := Nat.zero_le _

/-- Documents that are some of those before are kept as well. -/
theorem WellKept.of_filter (h : s.WellKept) (p : OpenDocument → Bool) :
    WellKept { s with entries := s.entries.filter p } where
  distinct := distinct_filter p h.distinct
  pos := h.pos
  le := Nat.le_trans (List.length_filter_le p s.entries) h.le

theorem WellKept.modify (h : s.WellKept) (f : OpenDocument → OpenDocument)
    (hf : ∀ e, (f e).uri = e.uri) : (s.modify u f).WellKept where
  distinct := distinct_modify f hf h.distinct
  pos := h.pos
  le := by
    show (s.entries.map _).length ≤ s.capacity
    rw [List.length_map]
    exact h.le

/-- Of some documents there is one that was not used for the longest time. -/
theorem exists_oldest (h : s.entries ≠ []) :
    ∃ e, s.oldest? = some e ∧ e ∈ s.entries ∧ ∀ e' ∈ s.entries, e.lastUse ≤ e'.lastUse := by
  obtain ⟨m, hm⟩ : ∃ m, s.entries.argmin (·.lastUse) = some m :=
    Option.ne_none_iff_exists'.1 fun hn => h (List.argmin_eq_none.1 hn)
  have hleast : (s.entries.all fun e' => m.lastUse ≤ e'.lastUse) = true :=
    List.all_eq_true.2 fun e' he' => decide_eq_true (List.le_of_mem_argmin he' hm)
  have hsome : s.oldest?.isSome := by
    rw [oldest?, List.find?_isSome]
    exact ⟨m, List.argmin_mem hm, hleast⟩
  obtain ⟨e, he⟩ := Option.isSome_iff_exists.1 hsome
  have hall := List.find?_some he
  exact ⟨e, he, List.mem_of_find?_eq_some he, by simpa using hall⟩

/-- Making room closes a document. -/
theorem size_makeRoom_lt (h : 0 < s.size) (now : Int) : (s.makeRoom now).size < s.size := by
  rw [makeRoom, dropStale_snd]
  split
  · have := s.staleCount_add_size_dropStale now
    omega
  · obtain ⟨e, he, hm, -⟩ := exists_oldest (List.ne_nil_of_length_pos h)
    rw [he]
    exact List.length_filter_lt_length_iff_exists.2 ⟨e, hm, by simp⟩

/-- Making room, where it is needed, leaves room for a document. -/
theorem size_room_lt (h : s.WellKept) (now : Int) :
    (if s.capacity ≤ s.size then s.makeRoom now else s).size < s.capacity := by
  split
  · next hfull =>
    exact Nat.lt_of_lt_of_le (size_makeRoom_lt (Nat.lt_of_lt_of_le h.pos hfull) now) h.le
  · next hroom => exact Nat.lt_of_not_le hroom

theorem wellKept_set (h : s.WellKept) : (s.set now u text).WellKept where
  distinct := distinct_set h.distinct
  pos := by
    rw [capacity_set]
    exact h.pos
  le := by
    rw [capacity_set]
    cases hf : s.find? u with
    | some e =>
      rw [set_of_find?_eq_some hf]
      exact (h.modify (fun e => { e with content := text, lastUse := now }) fun _ => rfl).le
    | none =>
      rw [set_of_find?_eq_none hf, size]
      show List.length (_ ++ _) ≤ _
      rw [List.length_append, List.length_singleton]
      exact size_room_lt h now

/-- One operation keeps the number of documents within its bound. -/
theorem wellKept_perform (h : s.WellKept) (op : Operation) : (s.perform op).WellKept := by
  cases op with
  | set now uri content =>
    rcases uri with _ | u
    · exact h
    · rcases content with _ | text
      · exact h
      · exact wellKept_set h
  | get now u => exact h.modify _ fun _ => rfl
  | setDiagnostics u ds => exact h.modify _ fun _ => rfl
  | delete u => exact h.of_filter _
  | clear => exact ⟨List.nodup_nil, h.pos, Nat.zero_le _⟩
  | dropStale now => exact h.of_filter _

/-! ## What an operation leaves -/

/-- Of the documents that stay, each is found as before. -/
theorem find?_filter (h : s.Distinct) (p : OpenDocument → Bool) :
    find? { s with entries := s.entries.filter p } v = (s.find? v).filter p := by
  ext e
  rw [Option.filter_eq_some_iff, find?_eq_some_iff (distinct_filter p h), find?_eq_some_iff h,
    List.mem_filter]
  exact ⟨fun ⟨⟨hm, hp⟩, hu⟩ => ⟨⟨hm, hu⟩, hp⟩, fun ⟨⟨hm, hu⟩, hp⟩ => ⟨⟨hm, hp⟩, hu⟩⟩

theorem find?_dropStale (h : s.Distinct) (now : Int) :
    (s.dropStale now).1.find? v = (s.find? v).filter fun e => now - e.lastUse ≤ s.ttl := by
  rw [dropStale, find?_filter h]
  congr 1
  funext e
  simp only [isStale, ← decide_not, Int.not_lt]

/-- A change in place is one of the document that it is about. -/
theorem find?_modify_self (f : OpenDocument → OpenDocument) (hf : ∀ e, (f e).uri = e.uri) :
    (s.modify u f).find? u = (s.find? u).map f := by
  rw [find?_modify f hf]
  cases he : s.find? u with
  | none => rfl
  | some e => rw [Option.map_some, Option.map_some, if_pos (uri_of_find? he)]

theorem find?_modify_other (f : OpenDocument → OpenDocument) (hf : ∀ e, (f e).uri = e.uri)
    (hv : v ≠ u) : (s.modify u f).find? v = s.find? v := by
  rw [find?_modify f hf]
  cases he : s.find? v with
  | none => rfl
  | some e => rw [Option.map_some, if_neg (uri_of_find? he ▸ hv)]

/-- What making room leaves of the documents. -/
theorem find?_makeRoom (h : s.Distinct) (hpos : 0 < s.size) (now : Int) :
    if ∃ e ∈ s.entries, s.ttl < now - e.lastUse then
      ∀ v, (s.makeRoom now).find? v = (s.find? v).filter fun e => now - e.lastUse ≤ s.ttl
    else
      ∃ e ∈ s.entries, (∀ e' ∈ s.entries, e.lastUse ≤ e'.lastUse) ∧
        ∀ v, (s.makeRoom now).find? v = if v = e.uri then none else s.find? v := by
  have hcount : 0 < s.staleCount now ↔ ∃ e ∈ s.entries, s.ttl < now - e.lastUse := by
    rw [staleCount, List.countP_pos_iff]
    simp only [isStale, decide_eq_true_eq]
  split
  · next hstale =>
    intro v
    rw [makeRoom, dropStale_snd, if_pos (hcount.2 hstale)]
    exact find?_dropStale h now
  · next hstale =>
    obtain ⟨e, he, hm, hleast⟩ := exists_oldest (List.ne_nil_of_length_pos hpos)
    refine ⟨e, hm, hleast, fun v => ?_⟩
    rw [makeRoom, dropStale_snd, if_neg (mt hcount.1 hstale), he]
    exact find?_delete

theorem leaves_set (h : s.WellKept) (now : Int) (u text : String) :
    Operation.Leaves s (s.set now u text) (.set now (some u) (some text)) := by
  cases hf : s.find? u with
  | some e =>
    have hopen : s.contains u = true := by rw [contains, hf]; rfl
    rw [set_of_find?_eq_some hf]
    refine ⟨?_, ?_⟩
    · rw [find?_modify_self (fun e => { e with content := text, lastUse := now }) fun _ => rfl, hf]
      simp [uri_of_find? hf]
    · rw [if_pos (Or.inl hopen)]
      exact fun v hv => find?_modify_other _ (fun _ => rfl) hv
  | none =>
    have hnew : ¬ s.contains u = true := by rw [contains, hf]; simp
    have hother (v : String) (hv : v ≠ u) : (s.set now u text).find? v =
        (if s.capacity ≤ s.size then s.makeRoom now else s).find? v := by
      rw [set_of_find?_eq_none hf, find?_insert, if_neg (Ne.symm hv), Option.or_none]
    refine ⟨?_, ?_⟩
    · rw [set_of_find?_eq_none hf, find?_insert, find?_room_eq_none h.distinct hf, hf]
      simp
    · by_cases hroom : s.size < s.capacity
      · rw [if_pos (Or.inr hroom)]
        intro v hv
        rw [hother v hv, if_neg (Nat.not_le.2 hroom)]
      · have hfull := Nat.le_of_not_lt hroom
        have hmade := find?_makeRoom h.distinct (Nat.lt_of_lt_of_le h.pos hfull) now
        rw [if_neg (by simp [hnew, hroom])]
        simp only [if_pos hfull] at hother
        split
        · next hstale =>
          rw [if_pos hstale] at hmade
          exact fun v hv => (hother v hv).trans (hmade v)
        · next hstale =>
          rw [if_neg hstale] at hmade
          obtain ⟨e, hm, hleast, hmade⟩ := hmade
          exact ⟨e, hm, hleast, fun v hv => (hother v hv).trans (hmade v)⟩

/-- One operation does what it is said to do. -/
theorem leaves_perform (h : s.WellKept) (op : Operation) : op.Leaves s (s.perform op) := by
  cases op with
  | set now uri content =>
    rcases uri with _ | u
    · rfl
    · rcases content with _ | text
      · rfl
      · exact leaves_set h now u text
  | get now u =>
    exact ⟨find?_modify_self _ fun _ => rfl, fun v hv => find?_modify_other _ (fun _ => rfl) hv⟩
  | setDiagnostics u ds =>
    exact ⟨find?_modify_self _ fun _ => rfl, fun v hv => find?_modify_other _ (fun _ => rfl) hv⟩
  | delete u =>
    refine ⟨?_, fun v hv => ?_⟩
    · exact find?_delete.trans (if_pos rfl)
    · exact find?_delete.trans (if_neg hv)
  | clear => exact fun v => rfl
  | dropStale now =>
    refine ⟨fun v => find?_dropStale h.distinct now, ?_, s.dropStale_snd now⟩
    have := s.staleCount_add_size_dropStale now
    show (s.dropStale now).1.size + _ = _
    omega

/-! ## Any operations -/

theorem exists_perform_eq (s : Documents) (op : Operation) :
    ∃ entries, s.perform op = { s with entries } := by
  cases op with
  | set now uri content =>
    rcases uri with _ | u
    · exact ⟨s.entries, rfl⟩
    · rcases content with _ | text
      · exact ⟨s.entries, rfl⟩
      · exact exists_set_eq s now u text
  | _ => exact ⟨_, rfl⟩

/-- Operations keep the documents within their bounds, and the bounds as they are. -/
theorem wellKept_performAll (ops : List Operation) (h : s.WellKept) :
    (s.performAll ops).WellKept ∧ (s.performAll ops).capacity = s.capacity ∧
      (s.performAll ops).ttl = s.ttl := by
  induction ops generalizing s with
  | nil => exact ⟨h, rfl, rfl⟩
  | cons op ops ih =>
    obtain ⟨entries, he⟩ := exists_perform_eq s op
    obtain ⟨hkept, hcapacity, httl⟩ := ih (wellKept_perform h op)
    exact ⟨hkept, hcapacity.trans (by rw [he]), httl.trans (by rw [he])⟩

/-- **Which documents go.**  After any operations at any times, there are no more documents than
there is room for, and always room for one; every document is found under its own identifier; and
each further operation does what `Operation.Leaves` says. -/
theorem leaves_performAll (capacity ttl : Nat) (ops : List Operation) :
    let s := (ofCapacity capacity ttl).performAll ops
    s.size ≤ max capacity 1 ∧ s.capacity = max capacity 1 ∧ s.ttl = ttl ∧
      (∀ e ∈ s.entries, s.find? e.uri = some e) ∧ ∀ op : Operation, op.Leaves s (s.perform op) := by
  intro s
  obtain ⟨h, hcapacity, httl⟩ := wellKept_performAll ops (wellKept_ofCapacity capacity ttl)
  have hmax : s.capacity = max capacity 1 := hcapacity.trans (Nat.max_comm 1 capacity)
  exact ⟨hmax ▸ h.le, hmax, httl, fun e he => (find?_eq_some_iff h.distinct).2 ⟨he, rfl⟩,
    fun op => leaves_perform h op⟩

end Documents

end HamlServer
