import HamlServer.Frame
import HamlServer.Session.Step

/-!
A session on a byte stream.

A connection holds the session and the octets that were received but not yet read.  It is driven by
what is received: `receive` handles every frame that is complete and then waits, and `finish` says
that nothing more will come.  A write that fails ends the session at once.

* `drain_ended`: a stream that has ended leaves nothing to wait for.
-/

namespace HamlServer

/-- How a session ends: with the exit code of the server, or because the stream failed. -/
inductive Ending where
  | exit (code : Nat)
  | badFrame (e : Frame.Error)
  | writeFailed
  deriving DecidableEq

namespace Ending

/-- The text of a failure of the stream. -/
def failure? : Ending → Option String
  | .exit _ => none
  | .badFrame e => some e.message
  | .writeFailed => some "writing frame"

end Ending

/-- A session on a stream.  `writable` is the number of messages that can still be written, if there
is a bound, and `ending` is set once the session has ended. -/
structure Connection where
  session : Session
  pending : Bytes := []
  writable : Option Nat := none
  ending : Option Ending := none

namespace Connection

/-- A connection at its start. -/
def start (o : Options) (writable : Option Nat) : Connection :=
  { session := .start o, writable }

/-- Effects up to the first write that fails, the number of messages that can still be written, and
whether a write failed. -/
def spend : Option Nat → List Effect → List Effect × Option Nat × Bool
  | writable, [] => ([], writable, false)
  | some 0, .write _ :: _ => ([], some 0, true)
  | some (n + 1), .write m :: rest =>
    let (done, left, failed) := spend (some n) rest
    (.write m :: done, left, failed)
  | writable, e :: rest =>
    let (done, left, failed) := spend writable rest
    (e :: done, left, failed)

/-- Ends a connection. -/
def stop (c : Connection) (e : Ending) : Connection := { c with ending := some e }

/-- Handles one message, of which `rest` is what follows on the stream. -/
def accept (c : Connection) (o : Options) (w : World) (message : Json) (rest : Bytes) :
    Connection × List Effect :=
  let m := Incoming.ofJson message
  let (session, effects) := c.session.step o w m
  let (done, writable, failed) := spend c.writable effects
  let c := { c with session, writable, pending := rest }
  if failed then (c.stop .writeFailed, done)
  else if Session.isExit m then (c.stop (.exit session.exitCode), done)
  else (c, done)

theorem accept_pending (c : Connection) (o : Options) (w : World) (message : Json) (rest : Bytes) :
    (c.accept o w message rest).1.pending = rest := by
  unfold accept
  simp only
  split
  · rfl
  · split <;> rfl

/-- Handles the frames that are complete; `ended` says that nothing more will come. -/
def drain (o : Options) (w : World) (ended : Bool) (c : Connection) : Connection × List Effect :=
  if c.ending.isSome then (c, [])
  else match _h : Frame.next ended c.pending with
    | .more => (c, [])
    | .closed => (c.stop (.exit c.session.exitCode), [])
    | .failed e => (c.stop (.badFrame e), [])
    | .frame message rest =>
      let accepted := c.accept o w message rest
      let drained := drain o w ended accepted.1
      (drained.1, accepted.2 ++ drained.2)
termination_by c.pending.length
decreasing_by
  rw [accept_pending]
  exact Frame.next_rest_length _h

/-- A stream that has ended leaves nothing to wait for. -/
theorem drain_ended (o : Options) (w : World) (c : Connection) :
    (drain o w true c).1.ending.isSome = true := by
  fun_induction drain o w true c with
  | case1 c h => exact h
  | case2 c _ h => exact absurd h (Frame.next_closed_ne_more _)
  | case3 => rfl
  | case4 => rfl
  | case5 _ _ _ _ _ _ _ ih => exact ih

/-- Takes octets from the editor. -/
def receive (c : Connection) (o : Options) (w : World) (octets : Bytes) :
    Connection × List Effect :=
  drain o w false { c with pending := c.pending ++ octets }

/-- Takes the end of the stream. -/
def finish (c : Connection) (o : Options) (w : World) : Connection × List Effect :=
  drain o w true c

end Connection

end HamlServer
