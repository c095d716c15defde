import HamlServer.Session.Connection

/-!
# Runs of a session

A run handles messages one after the other, each in the world of its moment.  Nothing is assumed of
the worlds: files, tools and clock may differ from message to message.  `Session.serve` is the run
that an editor gets: it ends with the message that ends the session.

* `run_append`: a run over two lists is the run over the first and then the run over the second.
* `step_cases`: all that a step can do, with the condition of each case.
* `Connection.drain_eq_run`: with no bound on writes, a connection does what a run over the complete
  frames does, so that statements about runs are statements about connections.
-/

namespace HamlServer

/-- A message, and the world at the moment when it is handled. -/
abbrev Arrival := World × Incoming

/-- A world without files in which the clock stands still and the linter always finds the same. -/
def World.still (found : List Diagnostic) : World where
  files := ⟨.empty, []⟩
  tools := {
    findings := fun _ => .ok found
    correction := fun job => .ok job.content
    conversion := .ok
    listing := fun _ => .ok "" }
  clock _ := 0

/-! ## What is written -/

/-- The message that an effect writes. -/
def Effect.message? : Effect → Option Outgoing
  | .write m => some m
  | .call _ => none

/-- The messages that are written, in their order. -/
def written (es : List Effect) : List Outgoing := es.filterMap Effect.message?

@[simp] theorem written_nil : written [] = [] := rfl

@[simp] theorem written_append (xs ys : List Effect) :
    written (xs ++ ys) = written xs ++ written ys :=
  List.filterMap_append

@[simp] theorem written_write (m : Outgoing) (es : List Effect) :
    written (.write m :: es) = m :: written es := rfl

@[simp] theorem written_call (c : ToolCall) (es : List Effect) :
    written (.call c :: es) = written es := rfl

namespace Session

/-! ## Runs -/

/-- Handles messages in their order. -/
def run (o : Options) : Session → List Arrival → Session × List Effect
  | s, [] => (s, [])
  | s, (w, m) :: rest =>
    let stepped := s.step o w m
    let done := run o stepped.1 rest
    (done.1, stepped.2 ++ done.2)

/-- The messages that are handled: those up to the one that ends the session. -/
def handled : List Arrival → List Arrival
  | [] => []
  | a :: rest => if isExit a.2 then [a] else a :: handled rest

/-- Serves an editor from the start to the message that ends the session. -/
def serve (o : Options) (arrivals : List Arrival) : Session × List Effect :=
  run o (.start o) (handled arrivals)

@[simp] theorem run_nil (o : Options) (s : Session) : run o s [] = (s, []) := rfl

theorem run_cons (o : Options) (s : Session) (a : Arrival) (rest : List Arrival) :
    run o s (a :: rest) = ((run o (s.step o a.1 a.2).1 rest).1,
      (s.step o a.1 a.2).2 ++ (run o (s.step o a.1 a.2).1 rest).2) := rfl

theorem run_append (o : Options) (s : Session) (xs ys : List Arrival) :
    run o s (xs ++ ys) =
      ((run o (run o s xs).1 ys).1, (run o s xs).2 ++ (run o (run o s xs).1 ys).2) := by
  induction xs generalizing s with
  | nil => rfl
  | cons a xs ih =>
    rw [List.cons_append, run_cons, run_cons, ih]
    simp

/-- A run over one more message ends with its step. -/
theorem run_concat (o : Options) (s : Session) (xs : List Arrival) (a : Arrival) :
    run o s (xs ++ [a]) = (((run o s xs).1.step o a.1 a.2).1,
      (run o s xs).2 ++ ((run o s xs).1.step o a.1 a.2).2) := by
  rw [run_append, run_cons, run_nil, List.append_nil]

/-- The messages that are handled are some of those that come, in their order. -/
theorem handled_sublist (arrivals : List Arrival) : (handled arrivals).Sublist arrivals := by
  induction arrivals with
  | nil => exact List.Sublist.refl _
  | cons a rest ih =>
    rw [handled]
    split
    · exact (List.nil_sublist rest).cons_cons a
    · exact ih.cons_cons a

/-! ## What a step does -/

/-- The request that a message makes: its parameters read as its method asks. -/
def request? (m : Incoming) : Option Request :=
  m.method.bind fun name => Request.read? (Method.ofName name) m.params

/-- All that a step can do.  It passes a message by that has no method, it refuses one at the gate,
it reports parameters that cannot be read, or it handles the request. -/
theorem step_cases (s : Session) (o : Options) (w : World) (m : Incoming) :
    (m.method = none ∧ s.step o w m = (s, [])) ∨
    (∃ name code reason, m.method = some name ∧
      s.gate (Method.ofName name) = .refuse code reason ∧
      s.step o w m = (s, (m.id.map fun id => Effect.write (.error id code reason)).toList)) ∨
    (∃ name, m.method = some name ∧ s.gate (Method.ofName name) = .pass ∧
      request? m = none ∧ s.step o w m = (s, [badParams name])) ∨
    (∃ name r, m.method = some name ∧ s.gate (Method.ofName name) = .pass ∧
      request? m = some r ∧ s.step o w m = ((s.handle o w r).session,
        (s.handle o w r).effects ++ answer m.id (s.handle o w r).result)) := by
  cases hm : m.method with
  | none =>
    refine Or.inl ⟨rfl, ?_⟩
    simp only [step, hm]
  | some name =>
    refine Or.inr ?_
    cases hg : s.gate (Method.ofName name) with
    | refuse code reason =>
      refine Or.inl ⟨name, code, reason, rfl, hg, ?_⟩
      simp only [step, hm, hg]
    | pass =>
      have hr : request? m = Request.read? (Method.ofName name) m.params := by
        rw [request?, hm, Option.bind_some]
      cases hq : Request.read? (Method.ofName name) m.params with
      | none =>
        refine Or.inr (Or.inl ⟨name, rfl, hg, hr.trans hq, ?_⟩)
        simp only [step, hm, hg, dispatch, hq, Method.name_ofName]
      | some r =>
        refine Or.inr (Or.inr ⟨name, r, rfl, hg, hr.trans hq, ?_⟩)
        simp only [step, hm, hg, dispatch, hq]

end Session

/-! ## Connections run sessions -/

namespace Frame

/-- The messages of the frames that are complete. -/
def complete (ended : Bool) (s : Bytes) : List Json :=
  match _h : next ended s with
  | .frame message rest => message :: complete ended rest
  | _ => []
termination_by s.length
decreasing_by exact next_rest_length _h

end Frame

namespace Connection

theorem spend_none (es : List Effect) : spend none es = (es, none, false) := by
  induction es with
  | nil => rfl
  | cons e es ih => cases e <;> simp [spend, ih]

/-- With no bound on writes, a message is handled by one step, and the connection ends only with the
message that ends the session. -/
theorem accept_eq_step (o : Options) (w : World) (c : Connection) (message : Json) (rest : Bytes)
    (hw : c.writable = none) :
    c.accept o w message rest =
      let m := Incoming.ofJson message
      let stepped := c.session.step o w m
      let next := { c with session := stepped.1, pending := rest }
      (if Session.isExit m then next.stop (.exit stepped.1.exitCode) else next, stepped.2) := by
  simp only [accept, hw, spend_none, Bool.false_eq_true, if_false]
  split <;> rfl

/-- With no bound on writes, draining a connection is a run over the frames that are complete, all
of them handled in the same world. -/
theorem drain_eq_run (o : Options) (w : World) (ended : Bool) (c : Connection)
    (hw : c.writable = none) (he : c.ending = none) :
    ((drain o w ended c).1.session, (drain o w ended c).2) =
      Session.run o c.session (Session.handled
        ((Frame.complete ended c.pending).map fun j => (w, Incoming.ofJson j))) := by
  fun_induction drain o w ended c with
  | case1 c h => simp [he] at h
  | case2 c _ h => rw [Frame.complete, h]; rfl
  | case3 c _ h => rw [Frame.complete, h]; rfl
  | case4 c _ e h => rw [Frame.complete, h]; rfl
  | case5 c _ message rest h accepted drained ih =>
    have ha : accepted = _ := accept_eq_step o w c message rest hw
    have hc : Frame.complete ended c.pending = message :: Frame.complete ended rest := by
      rw [Frame.complete, h]
    rw [hc, List.map_cons, Session.handled]
    by_cases hx : Session.isExit (Incoming.ofJson message) = true
    · -- the connection has ended, so nothing more is drained
      have hd : drained = (accepted.1, []) := by
        have hs : accepted.1.ending.isSome = true := by rw [ha]; simp [hx, stop]
        show drain o w ended accepted.1 = _
        rw [drain, if_pos hs]
      rw [if_pos hx, hd, ha]
      simp [hx, stop, Session.run_cons]
    · have hn : accepted.1 =
          { c with
            session := (c.session.step o w (Incoming.ofJson message)).1
            pending := rest } := by
        rw [ha]; simp [hx]
      have hs : accepted.2 = (c.session.step o w (Incoming.ofJson message)).2 := by rw [ha]
      have ih := ih (by rw [hn]; exact hw) (by rw [hn]; exact he)
      have hr : Session.run o (c.session.step o w (Incoming.ofJson message)).1
          (Session.handled ((Frame.complete ended rest).map fun j => (w, Incoming.ofJson j))) =
          (drained.1.session, drained.2) := by
        rw [ih, hn]
      rw [if_neg hx, Session.run_cons, hr, hs]

end Connection

end HamlServer
