import HamlServer.Frame

/-!
# Streams that go on

What the front of a stream holds does not change when more octets come: a frame stays the same
frame with more behind it, and an error stays the same error.  So it does not matter how much of a
stream is there when it is read.

A frame needs no octet behind its own.  A header line may be cut off by the end of the stream and
still count, but then nothing is left for a body, and an empty body spells no message.

* `next_append`: reading the front of a stream of which more comes.
* `exists_append_of_next`: the octets of a frame are a frame by themselves.
* `Reads`: the messages of the first frames of a stream, and the octets behind these frames.
-/

namespace HamlServer.Frame

variable {ended started : Bool} {length : Option Nat} {s line rest : Bytes} {message : Json}

/-- What the front of a stream holds when more octets follow: they come behind the rest. -/
def Outcome.followedBy (later : Bytes) : Outcome → Outcome
  | .frame message rest => .frame message (rest ++ later)
  | outcome => outcome

/-- What a header block holds when more octets follow: they come behind the rest. -/
def Header.followedBy (later : Bytes) : Header → Header
  | .block n rest => .block n (rest ++ later)
  | header => header

/-! ## Lines -/

/-- Where more may come, a line has its line feed. -/
theorem takeLine_false_ne_nil : takeLine false s ≠ some ([], rest) := by
  cases s with
  | nil => simp [takeLine]
  | cons b s =>
    rw [takeLine]
    split
    · simp
    · cases takeLine false s <;> simp

/-- A line that is there stays the first line. -/
theorem takeLine_false_append (h : takeLine false s = some (line, rest)) (ended : Bool)
    (later : Bytes) : takeLine ended (s ++ later) = some (line, rest ++ later) := by
  induction s generalizing line with
  | nil => simp [takeLine] at h
  | cons b s ih =>
    rw [List.cons_append]
    rw [takeLine] at h ⊢
    split at h
    · next hb =>
      obtain ⟨rfl, rfl⟩ := Prod.mk.inj (Option.some.inj h)
      rw [if_pos hb]
    · next hb =>
      obtain ⟨⟨l, r⟩, hl, he⟩ := Option.map_eq_some_iff.1 h
      obtain ⟨rfl, rfl⟩ := Prod.mk.inj he
      rw [if_neg hb, ih hl]
      rfl

/-- The first line and the rest make up the stream; the line has its line feed, or it was cut off
and nothing is left. -/
theorem takeLine_cases (h : takeLine ended s = some (line, rest)) :
    s = line ++ rest ∧ (takeLine false line = some (line, []) ∨ rest = []) := by
  induction s generalizing line with
  | nil =>
    cases ended with
    | false => simp [takeLine] at h
    | true =>
      obtain ⟨rfl, rfl⟩ := Prod.mk.inj (Option.some.inj h)
      exact ⟨rfl, Or.inr rfl⟩
  | cons b s ih =>
    rw [takeLine] at h
    split at h
    · next hb =>
      obtain ⟨rfl, rfl⟩ := Prod.mk.inj (Option.some.inj h)
      exact ⟨rfl, Or.inl (by rw [takeLine, if_pos hb])⟩
    · next hb =>
      obtain ⟨⟨l, r⟩, hl, he⟩ := Option.map_eq_some_iff.1 h
      obtain ⟨rfl, rfl⟩ := Prod.mk.inj he
      obtain ⟨rfl, hline⟩ := ih hl
      refine ⟨rfl, hline.imp_left fun hfull => ?_⟩
      rw [takeLine, if_neg hb, hfull]
      rfl

/-! ## Headers -/

/-- A header block by its first line. -/
theorem header_of_takeLine (h : takeLine ended s = some (line, rest)) (hne : line ≠ []) :
    header ended started length s =
      match Utf8.decode? line with
      | none => .failed .badHeader
      | some text =>
        if Text.trim text.toList = [] then
          match length with
          | some n => .block n rest
          | none => .failed .noLength
        else match lengthOf (Text.trim text.toList) with
          | .error e => .failed e
          | .ok n => header ended true (n.or length) rest := by
  rw [header]
  split
  · next hn => rw [h] at hn; cases hn
  · next hn =>
    rw [h] at hn
    exact absurd (Prod.mk.inj (Option.some.inj hn)).1 hne
  · next hn =>
    rw [h] at hn
    obtain ⟨rfl, rfl⟩ := Prod.mk.inj (Option.some.inj hn)
    rfl

/-- A header block that can be judged is judged the same when more comes. -/
theorem header_append (h : header false started length s ≠ .more) (ended : Bool) (later : Bytes) :
    header ended started length (s ++ later) =
      (header false started length s).followedBy later := by
  fun_induction header false started length s with
  | case1 => exact absurd rfl h
  | case2 => exact absurd ‹_› takeLine_false_ne_nil
  | case3 => exact absurd ‹_› takeLine_false_ne_nil
  | case4 started length s b line rest htake hd =>
    rw [header_of_takeLine (takeLine_false_append htake ended later) (List.cons_ne_nil b line), hd]
    rfl
  | case5 started s b line rest htake text hd _ hblank n =>
    rw [header_of_takeLine (takeLine_false_append htake ended later) (List.cons_ne_nil b line), hd]
    exact if_pos hblank
  | case6 started s b line rest htake text hd _ hblank =>
    rw [header_of_takeLine (takeLine_false_append htake ended later) (List.cons_ne_nil b line), hd]
    exact if_pos hblank
  | case7 started length s b line rest htake text hd _ hblank e he =>
    rw [header_of_takeLine (takeLine_false_append htake ended later) (List.cons_ne_nil b line), hd]
    refine (if_neg hblank).trans ?_
    rw [show lengthOf (Text.trim text.toList) = .error e from he]
    rfl
  | case8 started length s b line rest htake text hd _ hblank n hn ih =>
    rw [header_of_takeLine (takeLine_false_append htake ended later) (List.cons_ne_nil b line), hd]
    refine (if_neg hblank).trans ?_
    rw [show lengthOf (Text.trim text.toList) = .ok n from hn]
    exact ih h

/-- Where nothing is left, there is no header block. -/
theorem header_nil_ne_block {n : Nat} : header ended started length [] ≠ .block n rest := by
  rw [header]
  cases ended <;> cases started <;> simp [takeLine]

/-- A header block needs no octet behind its own, unless nothing is left. -/
theorem header_block_cases {n : Nat} (h : header ended started length s = .block n rest) :
    rest = [] ∨ ∃ block, s = block ++ rest ∧ header false started length block = .block n [] := by
  fun_induction header ended started length s with
  | case5 started s b line rest' htake text hd _ hblank m =>
    obtain ⟨rfl, rfl⟩ := Header.block.inj h
    obtain ⟨rfl, hline⟩ := takeLine_cases htake
    rcases hline with hline | hnil
    · refine Or.inr ⟨b :: line, rfl, ?_⟩
      rw [header_of_takeLine hline (List.cons_ne_nil b line), hd]
      exact if_pos hblank
    · exact Or.inl hnil
  | case8 started length s b line rest' htake text hd _ hblank m hm ih =>
    rcases ih h with hnil | ⟨block, rfl, hblock⟩
    · exact Or.inl hnil
    · obtain ⟨rfl, hline⟩ := takeLine_cases htake
      rcases hline with hline | hnil
      · refine Or.inr ⟨b :: line ++ block, by rw [List.append_assoc], ?_⟩
        have hfirst := takeLine_false_append hline false block
        rw [header_of_takeLine hfirst (List.cons_ne_nil b line), hd]
        refine (if_neg hblank).trans ?_
        rw [show lengthOf (Text.trim text.toList) = .ok m from hm]
        exact hblock
      · rw [hnil] at h
        exact absurd h header_nil_ne_block
  | _ => cases h

/-- Where more may come, no header is missing for good. -/
theorem header_false_ne_closed : header false started length s ≠ .closed := by
  fun_induction header false started length s with
  | case2 => exact absurd ‹_› takeLine_false_ne_nil
  | case3 => exact absurd ‹_› takeLine_false_ne_nil
  | case8 _ _ _ _ _ _ _ _ _ _ _ _ _ ih => exact ih
  | _ => exact Header.noConfusion

/-! ## Frames -/

/-- Where more may come, the stream is not at its end. -/
theorem next_false_ne_closed : next false s ≠ .closed := by
  intro h
  cases hs : header false false none s with
  | closed => exact header_false_ne_closed hs
  | more | failed =>
    rw [next, hs] at h
    cases h
  | block n body =>
    rw [next, hs] at h
    dsimp only at h
    repeat' split at h
    all_goals cases h

/-- What is at the front of a stream whose header block is known. -/
theorem next_of_block {n : Nat} (h : header ended false none s = .block n rest) :
    next ended s =
      if maxBody < n then .failed (.tooLong n)
      else if rest.length < n then (if ended then .failed (.endedInBody n) else .more)
      else match decodeBody (rest.take n) with
        | some message => .frame message (rest.drop n)
        | none => .failed .badBody := by
  have hnext := next.eq_def ended s
  rw [h] at hnext
  exact hnext

/-- What the front of a stream holds stays the same when more comes. -/
theorem next_append (h : next false s ≠ .more) (ended : Bool) (later : Bytes) :
    next ended (s ++ later) = (next false s).followedBy later := by
  have hmore : header false false none s ≠ .more := by
    intro hm
    exact h (by rw [next, hm])
  have happend := header_append hmore ended later
  cases hs : header false false none s with
  | more => exact absurd hs hmore
  | closed | failed =>
    rw [hs] at happend
    rw [next, next, hs, happend]
    rfl
  | block n rest =>
    rw [hs] at happend
    rw [next_of_block hs] at h ⊢
    rw [next_of_block happend]
    by_cases hlong : maxBody < n
    · rw [if_pos hlong, if_pos hlong]
      rfl
    · rw [if_neg hlong] at h ⊢
      rw [if_neg hlong]
      by_cases hshort : rest.length < n
      · rw [if_pos hshort] at h
        exact absurd rfl h
      · have hlen : ¬ (rest ++ later).length < n := by
          rw [List.length_append]
          omega
        have hle : n ≤ rest.length := Nat.le_of_not_lt hshort
        rw [if_neg hshort, if_neg hlen, List.take_append_of_le_length hle,
          List.drop_append_of_le_length hle]
        cases decodeBody (rest.take n) <;> rfl

/-- A frame stays the frame at the front when more comes. -/
theorem next_append_of_frame (h : next false s = .frame message rest) (ended : Bool)
    (later : Bytes) : next ended (s ++ later) = .frame message (rest ++ later) := by
  rw [next_append (by rw [h]; exact Outcome.noConfusion) ended later, h]
  rfl

/-- An error stays the error at the front when more comes. -/
theorem next_append_of_failed {e : Error} (h : next false s = .failed e) (ended : Bool)
    (later : Bytes) : next ended (s ++ later) = .failed e := by
  rw [next_append (by rw [h]; exact Outcome.noConfusion) ended later, h]
  rfl

/-- What it takes for a frame to be at the front of a stream. -/
theorem next_eq_frame_iff :
    next ended s = .frame message rest ↔
      ∃ n body, header ended false none s = .block n body ∧ n ≤ maxBody ∧ n ≤ body.length ∧
        decodeBody (body.take n) = some message ∧ body.drop n = rest := by
  constructor
  · intro h
    cases hs : header ended false none s with
    | more | closed | failed =>
      rw [next, hs] at h
      cases h
    | block n body =>
      rw [next_of_block hs] at h
      split at h
      · cases h
      · split at h
        · split at h <;> cases h
        · cases hbody : decodeBody (body.take n) with
          | none =>
            rw [hbody] at h
            cases h
          | some v =>
            rw [hbody] at h
            obtain ⟨rfl, rfl⟩ := Outcome.frame.inj h
            exact ⟨n, body, rfl, Nat.le_of_not_lt ‹_›, Nat.le_of_not_lt ‹_›, hbody, rfl⟩
  · rintro ⟨n, body, hs, hlong, hshort, hbody, rfl⟩
    rw [next_of_block hs, if_neg (Nat.not_lt.2 hlong), if_neg (Nat.not_lt.2 hshort), hbody]

/-- An empty body spells no message. -/
theorem decodeBody_nil : decodeBody [] = none := by decide

/-- The octets of a frame are a frame by themselves. -/
theorem exists_append_of_next (h : next ended s = .frame message rest) :
    ∃ octets, s = octets ++ rest ∧ next false octets = .frame message [] := by
  obtain ⟨n, body, hs, hlong, hshort, hbody, rfl⟩ := next_eq_frame_iff.1 h
  rcases header_block_cases hs with rfl | ⟨block, rfl, hblock⟩
  · rw [List.take_nil, decodeBody_nil] at hbody
    cases hbody
  · have hlen : (body.take n).length = n := List.length_take_of_le hshort
    refine ⟨block ++ body.take n, by rw [List.append_assoc, List.take_append_drop], ?_⟩
    refine next_eq_frame_iff.2 ⟨n, body.take n, ?_, hlong, Nat.le_of_eq hlen.symm, ?_, ?_⟩
    · rw [header_append (by rw [hblock]; exact Header.noConfusion), hblock]
      rfl
    · rw [List.take_of_length_le (Nat.le_of_eq hlen), hbody]
    · exact List.drop_of_length_le (Nat.le_of_eq hlen)

/-- A frame at the front of a stream is there whether more comes or not. -/
theorem next_of_next (h : next ended s = .frame message rest) (ended' : Bool) :
    next ended' s = .frame message rest := by
  obtain ⟨octets, rfl, hoctets⟩ := exists_append_of_next h
  exact next_append_of_frame hoctets ended' rest

/-! ## Reading on -/

/-- The first messages of a stream, and the octets behind their frames. -/
inductive Reads : Bytes → List Json → Bytes → Prop where
  | nothing (s : Bytes) : Reads s [] s
  | frame {s rest later : Bytes} {message : Json} {messages : List Json}
      (front : next true s = .frame message rest) (further : Reads rest messages later) :
      Reads s (message :: messages) later

variable {messages messages' : List Json} {later : Bytes}

theorem reads_of_next (h : next ended s = .frame message rest) : Reads s [message] rest :=
  .frame (next_of_next h true) (.nothing rest)

theorem Reads.trans (h : Reads s messages rest) (h' : Reads rest messages' later) :
    Reads s (messages ++ messages') later := by
  induction h with
  | nothing => exact h'
  | frame front _ ih => exact .frame front (ih h')

/-- What is read of a stream is read of it when more comes. -/
theorem Reads.append (h : Reads s messages rest) (later : Bytes) :
    Reads (s ++ later) messages (rest ++ later) := by
  induction h with
  | nothing => exact .nothing _
  | frame front _ ih => exact .frame (next_append_of_frame (next_of_next front false) true later) ih

/-- The octets that are left are the last ones of the stream. -/
theorem Reads.exists_append (h : Reads s messages rest) : ∃ octets, s = octets ++ rest := by
  induction h with
  | nothing => exact ⟨[], rfl⟩
  | frame front _ ih =>
    obtain ⟨octets, rfl, -⟩ := exists_append_of_next front
    obtain ⟨octets', rfl⟩ := ih
    exact ⟨octets ++ octets', (List.append_assoc ..).symm⟩

end HamlServer.Frame
