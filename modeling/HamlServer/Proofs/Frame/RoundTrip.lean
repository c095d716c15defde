import HamlServer.Frame
import HamlServer.Proofs.Frame.Continuation
import HamlServer.Proofs.Json.RoundTrip
import HamlServer.Proofs.Text.Trim
import HamlServer.Proofs.Text.Utf8
import Mathlib.Data.List.Basic

/-!
# Frames are read back

A frame that was written is read back, and what follows it is left as it is.  So a stream of frames
gives all messages in their order and then ends cleanly.

* `header_encode`: the header gives the length of the body.
* `next_encode`: one frame in front of anything.
* `readAll_encode`: all frames of a stream.
-/

namespace HamlServer.Frame

/-- A message that can go through a frame: the body keeps it, and is not too long. -/
structure Encodable (v : Json) : Prop where
  exact : Json.Exact Json.maxNesting v
  short : (Utf8.encode v.render).length ≤ maxBody

/-- The header line that gives a length, without its end. -/
def lengthLine (n : Nat) : List Char := lengthHeader.toList ++ ':' :: ' ' :: Nat.toDigits 10 n

/-! ## Lines -/

theorem takeLine_append {line : Bytes} (h : (10 : UInt8) ∉ line) (ended : Bool) (rest : Bytes) :
    takeLine ended (line ++ 10 :: rest) = some (line ++ [10], rest) := by
  induction line with
  | nil => rfl
  | cons b line ih =>
    rw [List.mem_cons, not_or] at h
    rw [List.cons_append, takeLine, if_neg (Ne.symm h.1), ih h.2]
    rfl

/-- A line of text is taken with its line feed. -/
theorem takeLine_encode {s : String} (h : '\n' ∉ s.toList) (ended : Bool) (rest : Bytes) :
    takeLine ended (Utf8.encode (s ++ "\n") ++ rest) =
      some (Utf8.encode (s ++ "\n"), rest) := by
  have hs : Utf8.encode (s ++ "\n") = Utf8.encode s ++ [10] := Utf8.encode_append s "\n"
  rw [hs, List.append_assoc, List.singleton_append]
  exact takeLine_append (fun hm => h (Utf8.mem_of_lineFeed_mem_encode hm)) ended rest

section

variable {ended started : Bool} {length : Option Nat} {s rest : Bytes} {text : String}

/-- A blank line ends the header. -/
theorem header_blank (hne : Utf8.encode text ≠ [])
    (h : takeLine ended s = some (Utf8.encode text, rest)) (ht : Text.trim text.toList = [])
    (n : Nat) : header ended started (some n) s = .block n rest := by
  rw [header_of_takeLine h hne, Utf8.decode?_encode]
  exact if_pos ht

/-- Another line may give the length, and the header goes on behind it. -/
theorem header_line (hne : Utf8.encode text ≠ [])
    (h : takeLine ended s = some (Utf8.encode text, rest)) (ht : Text.trim text.toList ≠ [])
    {n : Option Nat} (hn : lengthOf (Text.trim text.toList) = .ok n) :
    header ended started length s = header ended true (n.or length) rest := by
  rw [header_of_takeLine h hne, Utf8.decode?_encode]
  refine (if_neg ht).trans ?_
  rw [hn]

end

/-! ## The header of a frame -/

theorem lengthOf_lengthLine {n : Nat} (h : n < twoPow 64) :
    lengthOf (lengthLine n) = .ok (some n) := by
  have hcut : Text.cutAt ':' (lengthLine n) =
      some (lengthHeader.toList, ' ' :: Nat.toDigits 10 n) := Text.cutAt_append (by decide) _
  have hname : Text.trim lengthHeader.toList = lengthHeader.toList := by decide
  have hdigit : ∀ c ∈ Nat.toDigits 10 n, Text.isBlank c = false := fun c hc =>
    Text.isBlank_of_isDigit (Text.isDigit_of_mem_toDigits hc)
  have hvalue : Text.trim (' ' :: Nat.toDigits 10 n) = Nat.toDigits 10 n := by
    have := Text.trim_around (a := [' ']) (b := []) rfl rfl
      (fun c hc => hdigit c (List.mem_of_mem_head? hc))
      (fun c hc => hdigit c (List.mem_of_mem_getLast? hc))
    rwa [List.append_nil] at this
  rw [lengthOf, hcut]
  simp only [hname, if_true, hvalue, Text.word?_toDigits h]

/-- The line that gives the length, as it is trimmed. -/
theorem trim_lengthLine (n : Nat) : Text.trim (lengthLine n ++ ['\r', '\n']) = lengthLine n := by
  have hlast : ∀ c ∈ (lengthLine n).getLast?, Text.isBlank c = false := by
    intro c hc
    rcases List.eq_nil_or_concat (Nat.toDigits 10 n) with hnil | ⟨ds, d, hds⟩
    · exact absurd hnil Nat.toDigits_ne_nil
    · rw [List.concat_eq_append] at hds
      have hline : lengthLine n = (lengthHeader.toList ++ ':' :: ' ' :: ds) ++ [d] := by
        rw [lengthLine, hds, List.append_assoc]
        rfl
      rw [hline, List.getLast?_concat] at hc
      obtain rfl : d = c := Option.some.inj hc
      exact Text.isBlank_of_isDigit (Text.isDigit_of_mem_toDigits (n := n) (by simp [hds]))
  have hfirst : ∀ c ∈ (lengthLine n).head?, Text.isBlank c = false := by
    rintro c hc
    obtain rfl : 'C' = c := Option.some.inj hc
    rfl
  have := Text.trim_around (a := []) (b := ['\r', '\n']) rfl rfl hfirst hlast
  rwa [List.nil_append] at this

/-- The text of the header that a frame is written with. -/
theorem encode_eq (v : Json) :
    encode v =
      Utf8.encode (String.ofList (lengthLine (Utf8.encode v.render).length ++ ['\r']) ++ "\n") ++
        (Utf8.encode ("\r" ++ "\n") ++ Utf8.encode v.render) := by
  have htext (n : Nat) : s!"{lengthHeader}: {n}\r\n\r\n" =
      String.ofList (lengthLine n ++ ['\r']) ++ "\n" ++ ("\r" ++ "\n") := by
    refine String.toList_inj.1 ?_
    simp only [String.toList_append, Nat.toString_eq_ofList_toDigits, String.toList_ofList,
      lengthLine, List.append_assoc]
    rfl
  rw [encode, htext, Utf8.encode_append, List.append_assoc]

theorem maxBody_lt : maxBody < twoPow 64 := by decide

/-- The line that gives the length holds one line feed, at its end. -/
theorem lineFeed_notMem_lengthLine (n : Nat) :
    '\n' ∉ (String.ofList (lengthLine n ++ ['\r'])).toList := by
  have hdigit : '\n' ∉ Nat.toDigits 10 n := fun hm =>
    absurd (Text.isDigit_of_mem_toDigits hm) (by decide)
  simp [lengthLine, lengthHeader, hdigit]

/-- Behind the line that gives the length, the length is known. -/
theorem header_lengthLine {n : Nat} (h : n < twoPow 64) (ended : Bool) (rest : Bytes) :
    header ended false none
        (Utf8.encode (String.ofList (lengthLine n ++ ['\r']) ++ "\n") ++ rest) =
      header ended true (some n) rest := by
  have hline := takeLine_encode (lineFeed_notMem_lengthLine n) ended rest
  have htrim :
      Text.trim (String.ofList (lengthLine n ++ ['\r']) ++ "\n").toList = lengthLine n := by
    have := trim_lengthLine n
    simpa using this
  exact header_line (Utf8.encode_ne_nil (by simp)) hline (by rw [htrim]; simp [lengthLine])
    (by rw [htrim]; exact lengthOf_lengthLine h)

theorem header_encode {v : Json} (h : Encodable v) (ended : Bool) (rest : Bytes) :
    header ended false none (encode v ++ rest) =
      .block (Utf8.encode v.render).length (Utf8.encode v.render ++ rest) := by
  have hblank := takeLine_encode (s := "\r") (by decide) ended (Utf8.encode v.render ++ rest)
  rw [encode_eq, List.append_assoc, List.append_assoc,
    header_lengthLine (Nat.lt_of_le_of_lt h.short maxBody_lt)]
  exact header_blank (Utf8.encode_ne_nil (by decide)) hblank rfl _

/-! ## Frames -/

theorem decodeBody_render {v : Json} (h : Encodable v) :
    decodeBody (Utf8.encode v.render) = some v := by
  rw [decodeBody, Utf8.decode?_encode, Option.bind_some, Json.parse?_render h.exact]

/-- A frame in front of anything is read back, and what follows it is left. -/
theorem next_encode {v : Json} (h : Encodable v) (ended : Bool) (rest : Bytes) :
    next ended (encode v ++ rest) = .frame v rest := by
  rw [next, header_encode h]
  show (if maxBody < (Utf8.encode v.render).length then _ else _) = _
  have hlen : ¬ (Utf8.encode v.render ++ rest).length < (Utf8.encode v.render).length := by
    rw [List.length_append]
    omega
  rw [if_neg (Nat.not_lt.2 h.short), if_neg hlen, List.take_left, List.drop_left,
    decodeBody_render h]

theorem next_nil : next true [] = .closed := by
  rw [next, header]
  rfl

theorem readAll_nil : readAll [] = ([], none) := by
  rw [readAll]
  split
  · next h => rw [next_nil] at h; cases h
  · next h => rw [next_nil] at h; cases h
  · rfl
  · rfl

theorem readAll_append {v : Json} (h : Encodable v) (rest : Bytes) :
    readAll (encode v ++ rest) = (v :: (readAll rest).1, (readAll rest).2) := by
  have hnext := next_encode h true rest
  rw [readAll]
  split
  · next message rest' he =>
    rw [hnext] at he
    obtain ⟨rfl, rfl⟩ := Outcome.frame.inj he
    rfl
  · next he => rw [hnext] at he; cases he
  · next he => rw [hnext] at he; cases he
  · next he => rw [hnext] at he; cases he

/-- **Frames are read back.**  A stream of frames that were written gives their messages in order
and ends cleanly; and each frame is read back in front of any octets, which stay as they are. -/
theorem readAll_encode (vs : List Json) (h : ∀ v ∈ vs, Encodable v) :
    readAll (vs.flatMap encode) = (vs, none) ∧
      ∀ v ∈ vs, ∀ ended rest, next ended (encode v ++ rest) = .frame v rest := by
  refine ⟨?_, fun v hv ended rest => next_encode (h v hv) ended rest⟩
  induction vs with
  | nil => exact readAll_nil
  | cons v vs ih =>
    rw [List.flatMap_cons, readAll_append (h v List.mem_cons_self),
      ih fun x hx => h x (List.mem_cons_of_mem _ hx)]

/-- Two messages, with the least integer, escapes, and characters of up to four octets. -/
theorem readAll_encode_two :
    let vs : List Json := [
      .object [("id", .number (.int Json.minInt)), ("é\n", .array [.null, .bool true])],
      .string "\x01\"\\😀"]
    (∀ v ∈ vs, Encodable v) ∧ readAll (vs.flatMap encode) = (vs, none) := by
  intro vs
  have h : ∀ v ∈ vs, Encodable v := by
    intro v hv
    rcases List.mem_pair.1 hv with rfl | rfl
    · refine ⟨.object (by decide) ?_, by decide +kernel⟩
      intro m hm
      rcases List.mem_pair.1 hm with rfl | rfl
      · exact .int (by decide) (by decide)
      · refine .array fun v hv => ?_
        rcases List.mem_pair.1 hv with rfl | rfl
        · exact .null
        · exact .bool true
    · exact ⟨.string _, by decide +kernel⟩
  exact ⟨h, (readAll_encode vs h).1⟩

end HamlServer.Frame
