import HamlServer.Json.Printer
import HamlServer.Json.Written
import HamlServer.Text.Line
import HamlServer.Text.Quoted
import HamlServer.Text.Utf8

/-!
Frames: JSON messages on a byte stream.

A frame is a block of header lines, a blank line, and a body whose number of octets the header
`Content-Length` gives.  Header lines end with a line feed; white space around a line, a name and a
value does not count; of several lengths the last one holds, and other headers are passed over.

Reading is a function of the octets received so far and of whether more may come: `next` gives the
frame at the front and the octets behind it, or asks for more, or says why there is none.

* `next_closed_ne_more`: on a stream that has ended, reading never asks for more.
-/

namespace HamlServer.Frame

/-- The header that gives the number of octets of the body. -/
def lengthHeader : String := "Content-Length"

/-- The greatest number of octets of a body. -/
def maxBody : Nat := 64 * 1024 * 1024

/-- Why a stream holds no further frame.  After any of these the next frame cannot be found. -/
inductive Error where
  | badLength (value : List Char)
  | noLength
  | endedInHeader
  | badHeader
  | tooLong (length : Nat)
  | endedInBody (length : Nat)
  | badBody
  deriving DecidableEq, Repr

namespace Error

/-- The text of an error. -/
def message : Error → String
  | .badLength value => s!"invalid {lengthHeader} value {String.ofList (Text.quoted value)}"
  | .noLength => s!"frame header has no {lengthHeader}"
  | .endedInHeader => "input ended inside a frame header"
  | .badHeader => "reading frame header"
  | .tooLong length => s!"frame of {length} bytes is over the {maxBody} byte limit"
  | .endedInBody length => s!"reading {length} byte frame body"
  | .badBody => "decoding frame body"

end Error

/-- What the front of a stream holds. -/
inductive Outcome where
  | frame (message : Json) (rest : Bytes)
  | closed
  | more
  | failed (error : Error)
  deriving Inhabited

/-- The first line of some octets with its line feed, and what follows; without a line feed, all of
it if the stream has ended. -/
def takeLine (ended : Bool) : Bytes → Option (Bytes × Bytes)
  | [] => if ended then some ([], []) else none
  | b :: r => if b = 10 then some ([b], r) else (takeLine ended r).map fun (l, r) => (b :: l, r)

/-- The length that a header line gives, if it is the one that does. -/
def lengthOf (line : List Char) : Except Error (Option Nat) :=
  match Text.cutAt ':' line with
  | none => .ok none
  | some (name, value) =>
    if (Text.trim name).map Char.toLower = lengthHeader.toList.map Char.toLower then
      let value := Text.trim value
      match Text.word? value with
      | some n => .ok (some n)
      | none => .error (.badLength value)
    else .ok none

/-- What the front of a stream holds where a header block is expected. -/
inductive Header where
  | block (length : Nat) (rest : Bytes)
  | closed
  | more
  | failed (error : Error)

theorem takeLine_length {ended : Bool} {s line rest : Bytes}
    (h : takeLine ended s = some (line, rest)) : line.length + rest.length = s.length := by
  induction s generalizing line with
  | nil => cases ended <;> simp_all [takeLine]
  | cons b r ih =>
    by_cases hb : b = 10
    · simp only [takeLine, hb, if_true, Option.some.injEq, Prod.mk.injEq] at h
      obtain ⟨rfl, rfl⟩ := h
      simp; omega
    · simp only [takeLine, hb, if_false, Option.map_eq_some_iff, Prod.mk.injEq,
        Prod.exists] at h
      obtain ⟨l, r', h, rfl, rfl⟩ := h
      have := ih h
      simp; omega

/-- Reads header lines up to a blank one.  `started` is set once a line has been read, and `length`
is the length given so far. -/
def header (ended started : Bool) (length : Option Nat) (s : Bytes) : Header :=
  match _h : takeLine ended s with
  | none => .more
  | some ([], _) => if started then .failed .endedInHeader else .closed
  | some (b :: line, rest) =>
    match Utf8.decode? (b :: line) with
    | none => .failed .badHeader
    | some text =>
      let line := Text.trim text.toList
      if line = [] then
        match length with
        | some n => .block n rest
        | none => .failed .noLength
      else match lengthOf line with
        | .error e => .failed e
        | .ok n => header ended true (n.or length) rest
termination_by s.length
decreasing_by
  have := takeLine_length _h
  simp at this
  omega

/-- The message that the octets of a body spell. -/
def decodeBody (body : Bytes) : Option Json :=
  (Utf8.decode? body).bind (Json.parse? Json.maxNesting)

/-- The frame at the front of a stream; `ended` says that no octet will follow. -/
def next (ended : Bool) (s : Bytes) : Outcome :=
  match header ended false none s with
  | .more => .more
  | .closed => .closed
  | .failed e => .failed e
  | .block n rest =>
    if maxBody < n then .failed (.tooLong n)
    else if rest.length < n then (if ended then .failed (.endedInBody n) else .more)
    else match decodeBody (rest.take n) with
      | some message => .frame message (rest.drop n)
      | none => .failed .badBody

/-- The octets of a frame. -/
def encode (message : Json) : Bytes :=
  let body := Utf8.encode message.render
  Utf8.encode s!"{lengthHeader}: {body.length}\r\n\r\n" ++ body

theorem takeLine_true_ne_none (s : Bytes) : takeLine true s ≠ none := by
  induction s with
  | nil => simp [takeLine]
  | cons b r ih => by_cases hb : b = 10 <;> simp [takeLine, hb, ih]

theorem header_closed_ne_more (started : Bool) (length : Option Nat) (s : Bytes) :
    header true started length s ≠ .more := by
  fun_induction header true started length s with
  | case1 _ _ _ h => exact absurd h (takeLine_true_ne_none _)
  | case8 => assumption
  | _ => simp

/-- On a stream that has ended, reading never asks for more. -/
theorem next_closed_ne_more (s : Bytes) : next true s ≠ .more := by
  unfold next
  split
  · next h => exact absurd h (header_closed_ne_more _ _ _)
  · simp
  · simp
  · split
    · simp
    · split
      · simp
      · split <;> simp

theorem header_rest_length {ended started : Bool} {length : Option Nat} {s rest : Bytes} {n : Nat}
    (h : header ended started length s = .block n rest) : rest.length < s.length := by
  fun_induction header ended started length s with
  | case5 =>
    have := takeLine_length ‹takeLine _ _ = some _›
    simp only [Header.block.injEq] at h
    obtain ⟨_, rfl⟩ := h
    simp at this
    omega
  | case8 =>
    have := takeLine_length ‹takeLine _ _ = some _›
    have := (‹_ → _› : _) h
    simp at *
    omega
  | _ => simp_all

/-- A frame takes octets from its stream. -/
theorem next_rest_length {ended : Bool} {s rest : Bytes} {message : Json}
    (h : next ended s = .frame message rest) : rest.length < s.length := by
  unfold next at h
  split at h
  · simp at h
  · simp at h
  · simp at h
  · next n rest' hb =>
    have := header_rest_length hb
    split at h
    · simp at h
    · split at h
      · split at h <;> simp at h
      · split at h
        · simp only [Outcome.frame.injEq] at h
          obtain ⟨_, rfl⟩ := h
          simp
          omega
        · simp at h

/-- Whether the frame at the front needs more octets. -/
def isUnfinished (s : Bytes) : Bool :=
  match next false s with
  | .more => true
  | _ => false

/-- The number of octets that are missing from the frame at the front, or one where that cannot be
told yet. -/
def missing (s : Bytes) : Nat :=
  match header false false none s with
  | .block n rest => max 1 (n - rest.length)
  | _ => 1

/-- All the messages of a stream that has ended, and the error that ends it, if one does. -/
def readAll (s : Bytes) : List Json × Option Error :=
  match _h : next true s with
  | .frame message rest =>
    let (messages, e) := readAll rest
    (message :: messages, e)
  | .failed e => ([], some e)
  | .closed => ([], none)
  | .more => ([], none)
termination_by s.length
decreasing_by exact next_rest_length _h

end HamlServer.Frame
