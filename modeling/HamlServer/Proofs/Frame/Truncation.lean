import HamlServer.Proofs.Frame.RoundTrip
import Mathlib.Data.List.Infix

/-!
# Streams that are cut off

A stream of frames may be cut off at any octet.  What was cut is never taken for a shorter frame,
and it is never taken for the end of the stream, unless the cut falls between two frames.

A header line that the stream ends in counts like one with a line feed, so a cut length is read as a
shorter length, and a lone carriage return as the blank line.  The first is found out because there
is no blank line behind it, the second because no octet of the body is left.

* `next_of_cut`: a frame that is cut gives an error.
* `readAll_of_prefix`: the frames in front of the cut are read, and a frame that is cut is an error.
-/

namespace HamlServer.Frame

variable {v : Json} {q r body : Bytes}

/-! ## A header that is cut -/

/-- Without a line feed, all that is left of a stream is its last line. -/
theorem takeLine_of_unended (h : (10 : UInt8) ∉ q) : takeLine true q = some (q, []) := by
  induction q with
  | nil => rfl
  | cons b q ih =>
    rw [List.mem_cons, not_or] at h
    rw [takeLine, if_neg (Ne.symm h.1), ih h.2]
    rfl

/-- Where a further header line is due, the end of the stream is an error. -/
theorem header_nil (length : Option Nat) : header true true length [] = .failed .endedInHeader := by
  rw [header]
  rfl

/-- A stream that ends in its first header line is an error, whatever the line says. -/
theorem header_of_unended (hne : q ≠ []) (h : (10 : UInt8) ∉ q) :
    ∃ e, header true false none q = .failed e := by
  rw [header_of_takeLine (takeLine_of_unended h) hne]
  cases Utf8.decode? q with
  | none => exact ⟨_, rfl⟩
  | some text =>
    by_cases ht : Text.trim text.toList = []
    · exact ⟨.noLength, by simp only [ht, if_true]⟩
    · simp only [ht, if_false]
      cases lengthOf (Text.trim text.toList) with
      | error e => exact ⟨e, rfl⟩
      | ok n => exact ⟨_, header_nil _⟩

/-- The blank line and the body, cut off somewhere, are an error or a body that is too short. -/
theorem header_of_cut_body {n : Nat} (hr : r <+: 13 :: 10 :: body)
    (hlt : r.length < (13 :: 10 :: body : Bytes).length) (hbody : body ≠ []) :
    header true true (some n) r = .failed .endedInHeader ∨
      ∃ rest, header true true (some n) r = .block n rest ∧ rest.length < body.length := by
  rcases r with _ | ⟨b₁, _ | ⟨b₂, rest⟩⟩
  · exact Or.inl (header_nil _)
  · -- a lone carriage return reads as the blank line
    obtain rfl : b₁ = 13 := (List.cons_prefix_cons.1 hr).1
    have hline : takeLine true [13] = some (Utf8.encode "\r", []) := by decide
    exact Or.inr ⟨[], header_blank (Utf8.encode_ne_nil (by decide)) hline rfl n,
      List.length_pos_of_ne_nil hbody⟩
  · obtain ⟨rfl, hb⟩ := List.cons_prefix_cons.1 hr
    obtain ⟨rfl, -⟩ := List.cons_prefix_cons.1 hb
    have hline : takeLine true (13 :: 10 :: rest) = some (Utf8.encode "\r\n", rest) := by
      have hoctets : Utf8.encode "\r\n" = [13, 10] := by decide
      rw [hoctets]
      rfl
    exact Or.inr ⟨rest, header_blank (Utf8.encode_ne_nil (by decide)) hline rfl n,
      by simpa using hlt⟩

/-! ## A frame that is cut -/

theorem render_ne_nil (h : Encodable v) : Utf8.encode v.render ≠ [] := by
  intro hnil
  have hbody := decodeBody_render h
  rw [hnil] at hbody
  cases hbody

/-- The header of a frame that is cut off is an error, or what follows it is too short. -/
theorem header_of_cut (h : Encodable v) (hne : q ≠ []) (hq : q <+: encode v)
    (hlt : q.length < (encode v).length) :
    (∃ e, header true false none q = .failed e) ∨
      ∃ rest, header true false none q = .block (Utf8.encode v.render).length rest ∧
        rest.length < (Utf8.encode v.render).length := by
  have hbound := Nat.lt_of_le_of_lt h.short maxBody_lt
  have hheader := header_lengthLine hbound true
  have hlf := fun hm => lineFeed_notMem_lengthLine (Utf8.encode v.render).length
    (Utf8.mem_of_lineFeed_mem_encode hm)
  have hfeed : Utf8.encode "\n" = [10] := by decide
  have hreturn : Utf8.encode "\r" = [13] := by decide
  simp only [encode_eq, Utf8.encode_append _ "\n", hfeed, hreturn, List.append_assoc,
    List.cons_append, List.nil_append] at hq hlt hheader
  generalize Utf8.encode (String.ofList (lengthLine (Utf8.encode v.render).length ++ ['\r'])) = line
    at hq hlt hheader hlf
  rcases List.prefix_or_prefix_of_prefix hq (List.prefix_append line _) with hcut | ⟨r, rfl⟩
  · exact Or.inl (header_of_unended hne fun hm => hlf (hcut.subset hm))
  · rcases r with _ | ⟨b, r⟩
    · rw [List.append_nil] at hne ⊢
      exact Or.inl (header_of_unended hne hlf)
    · -- the first line is whole, and the cut comes behind it
      obtain ⟨rfl, hr⟩ := List.cons_prefix_cons.1 ((List.prefix_append_right_inj _).1 hq)
      rw [hheader]
      rcases header_of_cut_body hr (by simpa using hlt) (render_ne_nil h) with he | hrest
      · exact Or.inl ⟨_, he⟩
      · exact Or.inr hrest

/-- A frame that is cut off gives an error. -/
theorem next_of_cut (h : Encodable v) (hne : q ≠ []) (hq : q <+: encode v)
    (hlt : q.length < (encode v).length) : ∃ e, next true q = .failed e := by
  rcases header_of_cut h hne hq hlt with ⟨e, he⟩ | ⟨rest, he, hlen⟩
  · exact ⟨e, by rw [next, he]⟩
  · refine ⟨.endedInBody (Utf8.encode v.render).length, ?_⟩
    rw [next, he]
    show (if maxBody < (Utf8.encode v.render).length then _ else _) = _
    rw [if_neg (Nat.not_lt.2 h.short), if_pos hlen, if_pos rfl]

/-! ## A stream that is cut -/

/-- Reading a frame that is cut off gives no message, and ends without an error only if nothing of
the frame is left. -/
theorem readAll_of_cut (h : Encodable v) (hq : q <+: encode v)
    (hlt : q.length < (encode v).length) :
    (readAll q).1 = [] ∧ ((readAll q).2 = none ↔ q = []) := by
  by_cases hne : q = []
  · rw [hne, readAll_nil]
    exact ⟨rfl, by simp⟩
  · obtain ⟨e, he⟩ := next_of_cut h hne hq hlt
    have hread : readAll q = ([], some e) := by
      rw [readAll]
      split
      · next hn => rw [he] at hn; cases hn
      · next hn => rw [he] at hn; cases hn; rfl
      · next hn => rw [he] at hn; cases hn
      · next hn => rw [he] at hn; cases hn
    rw [hread]
    exact ⟨rfl, by simp [hne]⟩

theorem length_encode_pos (h : Encodable v) : 0 < (encode v).length := by
  have hbody := List.length_pos_of_ne_nil (render_ne_nil h)
  rw [encode_eq, List.length_append, List.length_append]
  omega

/-- A cut in front of the end of the first frame leaves no frame whole, and falls between two frames
only if it leaves nothing. -/
theorem take_of_cut (vs : List Json) (hlt : q.length < (encode v).length) :
    (∀ i, ¬ ((v :: vs).take (i + 1)).flatMap encode <+: q) ∧
      ((∃ i, q = ((v :: vs).take i).flatMap encode) ↔ q = []) := by
  have hlonger (i : Nat) : q.length < (((v :: vs).take (i + 1)).flatMap encode).length := by
    rw [List.take_succ_cons, List.flatMap_cons, List.length_append]
    omega
  refine ⟨fun i hi => absurd hi.length_le (Nat.not_le.2 (hlonger i)), ?_, ?_⟩
  · rintro ⟨_ | i, hi⟩
    · exact hi
    · exact absurd (congrArg List.length hi) (Nat.ne_of_lt (hlonger i))
  · rintro rfl
    exact ⟨0, rfl⟩

/-- A cut behind a frame falls between two frames if it does so among the frames that follow. -/
theorem exists_take_append (h : Encodable v) (vs : List Json) (q : Bytes) :
    (∃ i, encode v ++ q = ((v :: vs).take i).flatMap encode) ↔
      ∃ i, q = (vs.take i).flatMap encode := by
  constructor
  · rintro ⟨_ | i, hi⟩
    · rw [List.take_zero, List.flatMap_nil, List.append_eq_nil_iff] at hi
      exact absurd hi.1 (List.ne_nil_of_length_pos (length_encode_pos h))
    · rw [List.take_succ_cons, List.flatMap_cons] at hi
      exact ⟨i, List.append_cancel_left hi⟩
  · rintro ⟨i, rfl⟩
    exact ⟨i + 1, by rw [List.take_succ_cons, List.flatMap_cons]⟩

/-- **A stream that is cut off is never taken for a shorter one.**  Of a stream of frames that is
cut off at any octet, exactly those messages are read whose frames lie wholly in front of the cut;
and reading ends without an error exactly when the cut falls between two frames. -/
theorem readAll_of_prefix (vs : List Json) (h : ∀ v ∈ vs, Encodable v) (p : Bytes)
    (hp : p <+: vs.flatMap encode) :
    ∃ k ≤ vs.length, (readAll p).1 = vs.take k ∧
      (∀ i < vs.length, i < k ↔ (vs.take (i + 1)).flatMap encode <+: p) ∧
      ((readAll p).2 = none ↔ ∃ i, p = (vs.take i).flatMap encode) := by
  induction vs generalizing p with
  | nil =>
    obtain rfl : p = [] := List.prefix_nil.1 hp
    refine ⟨0, Nat.le_refl 0, by rw [readAll_nil]; rfl, by simp, ?_⟩
    rw [readAll_nil]
    exact ⟨fun _ => ⟨0, rfl⟩, fun _ => rfl⟩
  | cons v vs ih =>
    have hv : Encodable v := h v List.mem_cons_self
    rw [List.flatMap_cons] at hp
    rcases Nat.lt_or_ge p.length (encode v).length with hlt | hge
    · -- the cut falls into the first frame, or in front of it
      have hcut := List.prefix_of_prefix_length_le hp (List.prefix_append _ _) (Nat.le_of_lt hlt)
      obtain ⟨hread, hend⟩ := readAll_of_cut hv hcut hlt
      obtain ⟨hwhole, hboundary⟩ := take_of_cut vs hlt
      exact ⟨0, Nat.zero_le _, hread, fun i _ => iff_of_false (Nat.not_lt_zero i) (hwhole i),
        hend.trans hboundary.symm⟩
    · -- the first frame lies in front of the cut
      obtain ⟨p, rfl⟩ := List.prefix_of_prefix_length_le (List.prefix_append _ _) hp hge
      obtain ⟨k, hk, hread, hwhole, hend⟩ := ih (fun x hx => h x (List.mem_cons_of_mem _ hx)) p
        ((List.prefix_append_right_inj _).1 hp)
      refine ⟨k + 1, Nat.succ_le_succ hk, ?_, ?_, ?_⟩
      · rw [readAll_append hv, hread, List.take_succ_cons]
      · rintro (_ | i) hi
        · simp
        · rw [List.take_succ_cons, List.flatMap_cons, List.prefix_append_right_inj,
            ← hwhole i (Nat.lt_of_succ_lt_succ hi), Nat.add_lt_add_iff_right]
      · rw [readAll_append hv, hend, exists_take_append hv]

/-- A stream of two messages that is cut off between the two digits of the second length. -/
theorem readAll_of_prefix_digits :
    let vs : List Json := [.null, .string "0123456789"]
    let p := encode .null ++ Utf8.encode "Content-Length: 1"
    (∀ v ∈ vs, Encodable v) ∧ p <+: vs.flatMap encode ∧
      ∃ k ≤ vs.length, (readAll p).1 = vs.take k ∧
        (∀ i < vs.length, i < k ↔ (vs.take (i + 1)).flatMap encode <+: p) ∧
        ((readAll p).2 = none ↔ ∃ i, p = (vs.take i).flatMap encode) := by
  intro vs p
  have h : ∀ v ∈ vs, Encodable v := by
    intro v hv
    rcases List.mem_pair.1 hv with rfl | rfl
    · exact ⟨.null, by decide +kernel⟩
    · exact ⟨.string _, by decide +kernel⟩
  have hp : p <+: vs.flatMap encode := by decide +kernel
  exact ⟨h, hp, readAll_of_prefix vs h p hp⟩

end HamlServer.Frame
