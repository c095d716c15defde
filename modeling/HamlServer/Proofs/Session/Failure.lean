import HamlServer.Proofs.Session.Upkeep

/-!
# Requests that fail

A request fails when its method passes the gate and its parameters cannot be read.  The user is
shown one message then, and nothing else comes of it.

* `alerts_step`: a step shows a message exactly when the request fails.
* `step_of_fails`: a request that fails leaves the whole state, asks no tool and gets no answer.
* `failure_serve`: in a session, what comes before and after such a request is handled as if it had
  not been sent.
-/

namespace HamlServer

/-! ## Messages that are shown -/

namespace Outgoing

/-- The method under which a message is shown to the user. -/
def alertMethod : String := "window/showMessage"

/-- The message by which the user is told of a request that failed. -/
def failure (name : String) : Outgoing :=
  .notification alertMethod (.ofMembers [("type", .nat 1),
    ("message", .string s!"HAML LSP error: invalid params for {name}")])

end Outgoing

/-- The messages that are shown to the user, in their order. -/
def alerts (es : List Effect) : List Outgoing :=
  (written es).filter fun m => m.method? == some Outgoing.alertMethod

theorem alerts_append (xs ys : List Effect) : alerts (xs ++ ys) = alerts xs ++ alerts ys := by
  rw [alerts, written_append, List.filter_append]
  rfl

namespace Session

variable (s : Session) (o : Options) (w : World) (k : Corrector) (p : Project)

/-- A request fails: it passes the gate, and its parameters cannot be read. -/
def Fails (s : Session) (m : Incoming) : Prop :=
  ∃ name, m.method = some name ∧ s.gate (Method.ofName name) = .pass ∧ request? m = none

/-! ## Handlers show nothing -/

theorem alerts_answer (id : Option RequestId) (result : Option Json) :
    alerts (answer id result) = [] := by
  cases id <;> cases result <;> rfl

theorem alerts_ready : alerts (s.ready w p).effects = [] := by
  simp only [ready]
  split
  · simp [alerts, written_loadRoutes, tell, Notice.createProgress, Notice.progressBegin,
      Notice.progressReport, Notice.progressEnd, Notice.progress, Notice.log, Notice.message,
      Outgoing.method?, Outgoing.alertMethod]
  · rfl

theorem alerts_handleOpened (opened : Opened) (r : Request) :
    alerts (s.handleOpened o w opened r).effects = [] := by
  cases r with
  | ready => exact alerts_ready s w opened.project
  | _ =>
    refine List.filter_eq_nil_iff.2 fun m hm => ?_
    rcases handleOpened_methods s o w opened (by simp) m hm with h | h <;> rw [h] <;> decide

theorem alerts_handle (r : Request) : alerts (s.handle o w r).effects = [] := by
  cases r with
  | setup | shutdown => rfl
  | _ =>
    cases ho : s.opened with
    | none => simp only [handle, ho]; rfl
    | some opened =>
      simp only [handle, ho]
      exact alerts_handleOpened s o w opened _

/-! ## Steps -/

/-- A request that fails leaves the state, and the only effect is the message to the user. -/
theorem step_of_fails {m : Incoming} (h : s.Fails m) :
    ∃ name, m.method = some name ∧ s.step o w m = (s, [.write (.failure name)]) := by
  obtain ⟨name, hname, hg, hq⟩ := h
  refine ⟨name, hname, ?_⟩
  rw [request?, hname, Option.bind_some] at hq
  simp only [step, hname, hg, dispatch, hq, Method.name_ofName]
  rfl

/-- The user is shown a message exactly when a request fails. -/
theorem alerts_step (m : Incoming) : alerts (s.step o w m).2 ≠ [] ↔ s.Fails m := by
  constructor
  · intro h
    rcases step_cases s o w m with ⟨_, he⟩ | ⟨_, _, _, _, _, he⟩ | ⟨name, hname, hg, hq, _⟩ |
      ⟨_, r, _, _, _, he⟩
    · exact absurd (by rw [he]; rfl) h
    · exact absurd (by rw [he]; cases m.id <;> rfl) h
    · exact ⟨name, hname, hg, hq⟩
    · rw [he, alerts_append, alerts_handle, alerts_answer] at h
      exact absurd rfl h
  · intro h
    obtain ⟨name, _, he⟩ := step_of_fails s o w h
    rw [he]
    exact List.cons_ne_nil _ _

/-- The message that ends a session does not fail. -/
theorem not_isExit_of_fails {m : Incoming} (h : s.Fails m) : isExit m = false := by
  obtain ⟨name, hname, _, hq⟩ := h
  rw [request?, hname, Option.bind_some] at hq
  cases hx : isExit m with
  | false => rfl
  | true =>
    have hexit : Method.ofName name = .exit := by simpa [isExit, hname] using hx
    simp [hexit, Request.read?] at hq

/-! ## Whole sessions -/

/-- All messages are handled that come in front of the one that ends the session. -/
theorem handled_append_of_going {before : List Arrival} (h : ∀ a ∈ before, isExit a.2 = false)
    (rest : List Arrival) : handled (before ++ rest) = before ++ handled rest := by
  induction before with
  | nil => rfl
  | cons a before ih =>
    rw [List.cons_append, handled, if_neg (by simp [h a]), ih fun b hb => h b (by simp [hb])]
    rfl

/-- **A request that fails.**  In a session that was not ended before, such a request leaves the
whole state and has one effect: the user is shown a message that names the method.  What comes
before and after it is handled as if it had not been sent.  No other request has the user shown a
message. -/
theorem failure_serve (o : Options) (before after : List Arrival) (w : World) (m : Incoming)
    (hgoing : ∀ a ∈ before, isExit a.2 = false) :
    let s := (run o (.start o) before).1
    (alerts (s.step o w m).2 ≠ [] ↔ s.Fails m) ∧
    (s.Fails m → ∃ name rest, m.method = some name ∧
      s.step o w m = (s, [.write (.failure name)]) ∧
      (serve o (before ++ (w, m) :: after)).1 = (serve o (before ++ after)).1 ∧
      (serve o (before ++ after)).2 = (run o (.start o) before).2 ++ rest ∧
      (serve o (before ++ (w, m) :: after)).2 =
        (run o (.start o) before).2 ++ .write (.failure name) :: rest) := by
  intro s
  refine ⟨alerts_step s o w m, fun hfails => ?_⟩
  obtain ⟨name, hname, hstep⟩ := step_of_fails s o w hfails
  have hwith : handled (before ++ (w, m) :: after) = before ++ (w, m) :: handled after := by
    rw [handled_append_of_going hgoing, handled, if_neg (by simp [not_isExit_of_fails s hfails])]
  have hwithout : handled (before ++ after) = before ++ handled after :=
    handled_append_of_going hgoing after
  refine ⟨name, (run o s (handled after)).2, hname, hstep, ?_, ?_, ?_⟩
  · rw [serve, hwith, serve, hwithout, run_append, run_append, run_cons, hstep]
  · rw [serve, hwithout, run_append]
  · rw [serve, hwith, run_append, run_cons, hstep]
    rfl

/-- A document that is opened without its identifier, in front of one that is opened with it. -/
theorem failure_serve_one :
    let o : Options := { cwd := .ofString "/" }
    let w : World := .still []
    let m : Incoming := ⟨some (.number 2), some "textDocument/didOpen", .object []⟩
    let before : List Arrival := [(w, .setup)]
    let after : List Arrival := [(w, .didOpen "a.haml" "%p")]
    (∀ a ∈ before, isExit a.2 = false) ∧ (run o (.start o) before).1.Fails m ∧
      (serve o (before ++ (w, m) :: after)).1 = (serve o (before ++ after)).1 := by
  intro o w m before after
  have hgoing : ∀ a ∈ before, isExit a.2 = false := by decide
  have hfails : (run o (.start o) before).1.Fails m := ⟨"textDocument/didOpen", rfl, rfl, rfl⟩
  obtain ⟨_, _, _, _, hsame, _⟩ := (failure_serve o before after w m hgoing).2 hfails
  exact ⟨hgoing, hfails, hsame⟩

end Session

end HamlServer
