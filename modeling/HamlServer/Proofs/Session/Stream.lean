import HamlServer.Proofs.Frame.Continuation
import HamlServer.Proofs.Frame.RoundTrip
import HamlServer.Proofs.Session.Run

/-!
# Streams that come in pieces

The editor's stream may be cut anywhere: in a header line, in a character, in a body.  What is done
depends on the octets alone and not on the cuts, and no frame waits for an octet behind it.

* `drain_append`: draining what has come and then the rest is draining all of it.
* `converse_of_flatten_eq`: two ways to cut a stream, and what is done before the rest of it comes.
-/

namespace HamlServer

/-- Octets that come from the editor, and the world at the moment when they come. -/
abbrev Delivery := World × Bytes

namespace Connection

variable {o : Options} {w : World} {c : Connection}

/-- Takes what comes piece by piece, and gives the effects of each piece. -/
def deliver (o : Options) : Connection → List Delivery → Connection × List (List Effect)
  | c, [] => (c, [])
  | c, (w, octets) :: rest =>
    let received := c.receive o w octets
    let delivered := deliver o received.1 rest
    (delivered.1, received.2 :: delivered.2)

/-- Serves a stream that comes in pieces and then ends.  The last effects are those at the end of
the stream. -/
def converse (o : Options) (writable : Option Nat) (ds : List Delivery) (w : World) :
    Connection × List (List Effect) :=
  let delivered := deliver o (.start o writable) ds
  let finished := delivered.1.finish o w
  (finished.1, delivered.2 ++ [finished.2])

/-- A connection on which more octets have come. -/
def extend (c : Connection) (later : Bytes) : Connection := { c with pending := c.pending ++ later }

/-! ## Draining -/

theorem drain_of_ended (o : Options) (w : World) (ended : Bool) (h : c.ending.isSome = true) :
    drain o w ended c = (c, []) := by
  rw [drain, if_pos h]

/-- A connection that goes on, by the front of what has come. -/
theorem drain_eq {ended : Bool} (he : ¬ c.ending.isSome = true) :
    drain o w ended c =
      match Frame.next ended c.pending with
      | .more => (c, [])
      | .closed => (c.stop (.exit c.session.exitCode), [])
      | .failed e => (c.stop (.badFrame e), [])
      | .frame message rest =>
        ((drain o w ended (c.accept o w message rest).1).1,
          (c.accept o w message rest).2 ++ (drain o w ended (c.accept o w message rest).1).2) := by
  rw [drain, if_neg he]
  split <;> next hn => rw [hn]

theorem drain_of_more {ended : Bool} (he : ¬ c.ending.isSome = true)
    (h : Frame.next ended c.pending = .more) : drain o w ended c = (c, []) := by
  rw [drain_eq he, h]

theorem drain_of_closed {ended : Bool} (he : ¬ c.ending.isSome = true)
    (h : Frame.next ended c.pending = .closed) :
    drain o w ended c = (c.stop (.exit c.session.exitCode), []) := by
  rw [drain_eq he, h]

theorem drain_of_failed {ended : Bool} {e : Frame.Error} (he : ¬ c.ending.isSome = true)
    (h : Frame.next ended c.pending = .failed e) :
    drain o w ended c = (c.stop (.badFrame e), []) := by
  rw [drain_eq he, h]

theorem drain_of_frame {ended : Bool} {message : Json} {rest : Bytes}
    (he : ¬ c.ending.isSome = true) (h : Frame.next ended c.pending = .frame message rest) :
    drain o w ended c =
      ((drain o w ended (c.accept o w message rest).1).1,
        (c.accept o w message rest).2 ++ (drain o w ended (c.accept o w message rest).1).2) := by
  rw [drain_eq he, h]

/-- A message is handled in the same way, whatever comes behind it. -/
theorem accept_append (o : Options) (w : World) (c : Connection) (message : Json)
    (rest later : Bytes) :
    (c.extend later).accept o w message (rest ++ later) =
      ((c.accept o w message rest).1.extend later, (c.accept o w message rest).2) := by
  by_cases hf : (spend c.writable (c.session.step o w (.ofJson message)).2).2.2 = true
  · simp only [accept, extend, hf, if_true]
    rfl
  · by_cases hx : Session.isExit (.ofJson message) = true
    · simp only [accept, extend, hf, hx, if_true]
      rfl
    · simp only [accept, extend, hf, hx]
      rfl

/-- Draining what has come, and then what comes later, is draining all of it. -/
theorem drain_append (o : Options) (w : World) (ended : Bool) (c : Connection) (later : Bytes) :
    drain o w ended (c.extend later) =
      ((drain o w ended ((drain o w false c).1.extend later)).1,
        (drain o w false c).2 ++ (drain o w ended ((drain o w false c).1.extend later)).2) := by
  fun_induction drain o w false c with
  | case1 | case2 => rfl
  | case3 _ _ h => exact absurd h Frame.next_false_ne_closed
  | case4 c he e h =>
    -- the error is found again, and a connection that has ended does nothing
    have hnext : Frame.next ended (c.extend later).pending = .failed e :=
      Frame.next_append_of_failed h ended later
    have hended : drain o w ended ((c.stop (.badFrame e)).extend later) =
        ((c.stop (.badFrame e)).extend later, []) := drain_of_ended o w ended rfl
    rw [drain_of_failed (c := c.extend later) he hnext, hended]
    rfl
  | case5 c he message rest h accepted drained ih =>
    have hnext : Frame.next ended (c.extend later).pending = .frame message (rest ++ later) :=
      Frame.next_append_of_frame h ended later
    rw [drain_of_frame (c := c.extend later) he hnext, accept_append]
    dsimp only
    rw [ih, List.append_assoc]

theorem extend_nil (c : Connection) : c.extend [] = c := by
  rw [extend, List.append_nil]

theorem extend_append (c : Connection) (xs ys : Bytes) :
    c.extend (xs ++ ys) = (c.extend xs).extend ys := by
  rw [extend, extend, extend, List.append_assoc]

/-- What has come may be drained before the end of the stream is known. -/
theorem drain_eq_drain_drain (o : Options) (w : World) (ended : Bool) (c : Connection) :
    drain o w ended c =
      ((drain o w ended (drain o w false c).1).1,
        (drain o w false c).2 ++ (drain o w ended (drain o w false c).1).2) := by
  have h := drain_append o w ended c []
  rwa [extend_nil, extend_nil] at h

/-- Once drained, a connection waits for more. -/
theorem drain_drain (o : Options) (w : World) (c : Connection) :
    drain o w false (drain o w false c).1 = ((drain o w false c).1, []) := by
  have h := drain_eq_drain_drain o w false c
  refine Prod.ext (congrArg Prod.fst h).symm ?_
  exact List.append_right_eq_self.1 (congrArg Prod.snd h).symm

/-! ## Pieces -/

theorem receive_eq (c : Connection) (o : Options) (w : World) (octets : Bytes) :
    c.receive o w octets = drain o w false (c.extend octets) := rfl

theorem receive_append (c : Connection) (o : Options) (w : World) (xs ys : Bytes) :
    c.receive o w (xs ++ ys) =
      (((c.receive o w xs).1.receive o w ys).1,
        (c.receive o w xs).2 ++ ((c.receive o w xs).1.receive o w ys).2) := by
  rw [receive_eq, extend_append, drain_append]
  rfl

/-- What has come has been drained, and more is waited for. -/
theorem drain_receive (c : Connection) (o : Options) (w : World) (octets : Bytes) :
    drain o w false (c.receive o w octets).1 = ((c.receive o w octets).1, []) :=
  drain_drain o w (c.extend octets)

/-- Pieces that come to a connection that waits are taken like all their octets at once. -/
theorem deliver_flatten (hc : drain o w false c = (c, [])) (pieces : List Bytes) :
    ((deliver o c (pieces.map (w, ·))).1, (deliver o c (pieces.map (w, ·))).2.flatten) =
      c.receive o w pieces.flatten := by
  induction pieces generalizing c with
  | nil =>
    rw [List.flatten_nil, receive_eq, extend_nil, hc]
    rfl
  | cons piece pieces ih =>
    rw [List.flatten_cons, receive_append, ← ih (drain_receive c o w piece)]
    rfl

/-- At its start a connection waits for the stream. -/
theorem drain_start (o : Options) (w : World) (writable : Option Nat) :
    drain o w false (.start o writable) = (.start o writable, []) :=
  drain_of_more (by simp [start]) (by rw [start, Frame.next, Frame.header]; rfl)

/-- A stream is served like all its octets at once. -/
theorem converse_flatten (o : Options) (w : World) (writable : Option Nat) (pieces : List Bytes) :
    ((converse o writable (pieces.map (w, ·)) w).1,
        (converse o writable (pieces.map (w, ·)) w).2.flatten) =
      drain o w true ((start o writable).extend pieces.flatten) := by
  have hpieces := deliver_flatten (drain_start o w writable) pieces
  rw [drain_eq_drain_drain, ← receive_eq, ← hpieces]
  simp only [converse, List.flatten_append, List.flatten_singleton]
  rfl

/-- The frames in front of any octets are complete without these octets. -/
theorem complete_of_reads {octets later : Bytes} {messages : List Json}
    (h : Frame.Reads (octets ++ later) messages later) :
    Frame.complete false octets = messages := by
  generalize hs : octets ++ later = s at h
  induction h generalizing octets with
  | nothing s =>
    obtain rfl : octets = [] := List.append_left_eq_self.1 hs
    rw [Frame.complete, Frame.next, Frame.header]
    rfl
  | frame front further ih =>
    obtain ⟨first, rfl, hfirst⟩ := Frame.exists_append_of_next front
    obtain ⟨others, rfl⟩ := further.exists_append
    obtain rfl : octets = first ++ others :=
      List.append_cancel_right (hs.trans (List.append_assoc ..).symm)
    rw [Frame.complete, Frame.next_append_of_frame hfirst false others]
    exact congrArg _ (ih rfl)

/-- **The cuts of a stream do not matter.**  However a stream is cut into pieces, as long as the
world stays the same, the same is done in the same order, messages and tool calls alike, the same
is known at the end, and the connection ends in the same way.  No frame waits for what comes behind
it: when the pieces that have come hold some frames and nothing else, all that is due to these
frames has been done, whatever comes later. -/
theorem converse_of_flatten_eq (o : Options) (w : World) (writable : Option Nat)
    (xs ys : List Bytes) (h : xs.flatten = ys.flatten) :
    let first := converse o writable (xs.map (w, ·)) w
    let second := converse o writable (ys.map (w, ·)) w
    first.2.flatten = second.2.flatten ∧ first.1 = second.1 ∧ first.1.ending.isSome = true ∧
      ∀ messages later, Frame.Reads (xs.flatten ++ later) messages later →
        (deliver o (.start o none) (xs.map (w, ·))).2.flatten =
          (Session.serve o (messages.map fun v => (w, Incoming.ofJson v))).2 := by
  intro first second
  have hfirst := converse_flatten o w writable xs
  have hsecond := converse_flatten o w writable ys
  rw [h, ← hsecond] at hfirst
  obtain ⟨hconnection, heffects⟩ := Prod.mk.inj hfirst
  refine ⟨heffects, hconnection, drain_ended o w _, fun messages later hreads => ?_⟩
  have hpieces := congrArg Prod.snd (deliver_flatten (drain_start o w none) xs)
  have hrun := congrArg Prod.snd (drain_eq_run o w false ((start o none).extend xs.flatten) rfl rfl)
  have hcomplete : Frame.complete false ((start o none).extend xs.flatten).pending = messages :=
    complete_of_reads hreads
  rw [hcomplete] at hrun
  exact hpieces.trans hrun

/-- The announcement of the end, cut in the middle of its header. -/
theorem converse_of_flatten_eq_shutdown :
    let o : Options := { cwd := .ofString "/" }
    let w : World := .still []
    let message : Json := .object [("id", .number (.int 1)), ("method", .string "shutdown")]
    let whole := [Frame.encode message]
    let pieces := [(Frame.encode message).take 17, (Frame.encode message).drop 17]
    whole.flatten = pieces.flatten ∧ Frame.Reads (whole.flatten ++ []) [message] [] ∧
      (converse o none (whole.map (w, ·)) w).2.flatten =
        (converse o none (pieces.map (w, ·)) w).2.flatten ∧
      (deliver o (.start o none) (whole.map (w, ·))).2.flatten =
        [.write (.response (.number 1) .null)] := by
  intro o w message whole pieces
  have hcut : whole.flatten = pieces.flatten := by
    simp only [whole, pieces, List.flatten_cons, List.flatten_nil, List.append_nil,
      List.take_append_drop]
  have hencodable : Frame.Encodable message := by
    refine ⟨.object (by decide) fun m hm => ?_, by decide +kernel⟩
    rcases List.mem_pair.1 hm with rfl | rfl
    · exact .int (by decide) (by decide)
    · exact .string _
  have hreads : Frame.Reads (whole.flatten ++ []) [message] [] := by
    have hwhole : whole.flatten ++ [] = Frame.encode message ++ [] := by
      simp only [whole, List.flatten_cons, List.flatten_nil, List.append_nil]
    rw [hwhole]
    exact Frame.reads_of_next (Frame.next_encode hencodable true [])
  obtain ⟨hsame, _, _, hprompt⟩ := converse_of_flatten_eq o w none whole pieces hcut
  exact ⟨hcut, hreads, hsame, hprompt [message] [] hreads⟩

end Connection

end HamlServer
