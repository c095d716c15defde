import HamlServer.Proofs.Session.Handlers
import Mathlib.Data.List.Forall2

/-!
# Requests and their answers

`Due` lists the answers that requests get, by the method and by whether the project is open; a
request with no entry gets none.  `Answering` runs it along the messages of a session: each message
is followed by its one answer or by none, in the order of the messages.

* `opened_step`: the project is open from the first request that opens it.
* `answers_step`: a step writes exactly the answer that is due.
* `answers_step_of_opened`: for an open project that is the result of its handler.
* `answering_serve`: so does a whole session, and its answers are answers to some of its messages in
  their order.
-/

namespace HamlServer

/-! ## Answers on the wire -/

/-- An answer has an identifier and a result or an error, and no method. -/
def Json.isAnswer (j : Json) : Bool :=
  (j.get? "id").isSome && ((j.get? "result").isSome || (j.get? "error").isSome) &&
    (j.get? "method").isNone

theorem Outgoing.isAnswer_toJson (m : Outgoing) : m.toJson.isAnswer = m.answers?.isSome := by
  cases m <;> rfl

/-- The answers among the messages that are written, in their order. -/
def answers (es : List Effect) : List Outgoing := (written es).filter (·.toJson.isAnswer)

theorem answers_append (xs ys : List Effect) : answers (xs ++ ys) = answers xs ++ answers ys := by
  rw [answers, written_append, List.filter_append]
  rfl

theorem answers_eq_nil {es : List Effect} (h : ∀ m ∈ written es, m.answers? = none) :
    answers es = [] := by
  rw [answers, List.filter_eq_nil_iff]
  intro m hm
  rw [Outgoing.isAnswer_toJson, h m hm]
  simp

/-! ## The answers that are due -/

/-- The methods that only an open project serves. -/
def Method.needsProject : Method → Bool
  | .setup | .shutdown | .exit | .other _ => false
  | _ => true

/-- The answer that a request gets: `opened` says whether the project is open when it comes. -/
inductive Due (params : Json) (id : RequestId) : (opened : Bool) → Method → Outgoing → Prop where
  | setup (readable : (Request.read? .setup params).isSome = true) :
      Due params id false .setup (.response id Manifest.toJson)
  | setupAgain : Due params id true .setup (.error id (-32600) "Server already initialized")
  | shutdown (opened : Bool) : Due params id opened .shutdown (.response id .null)
  | tooEarly {method : Method} (needs : method.needsProject = true) :
      Due params id false method (.error id (-32002) "Server not initialized")
  | served {method : Method} (result : Json) (serves : method.isServed = true)
      (readable : (Request.read? method params).isSome = true) :
      Due params id true method (.response id result)

/-- A message gets an answer only if it has a method and an identifier. -/
def IsAnswer (opened : Bool) (m : Incoming) (a : Outgoing) : Prop :=
  ∃ name id, m.method = some name ∧ m.id = some id ∧ Due m.params id opened (Method.ofName name) a

/-- Messages and the answers to them, in order: each message is followed by its answer, or by none
if none is due. -/
inductive Answering : (opened : Bool) → List Incoming → List Outgoing → Prop where
  | done (opened : Bool) : Answering opened [] []
  | answered {opened : Bool} {m : Incoming} {a : Outgoing} {ms : List Incoming}
      {as : List Outgoing} (due : IsAnswer opened m a)
      (rest : Answering (opened || m.opens) ms as) : Answering opened (m :: ms) (a :: as)
  | silent {opened : Bool} {m : Incoming} {ms : List Incoming} {as : List Outgoing}
      (none : ∀ a, ¬ IsAnswer opened m a)
      (rest : Answering (opened || m.opens) ms as) : Answering opened (m :: ms) as

theorem Due.answers? {params : Json} {id : RequestId} {opened : Bool} {method : Method}
    {a : Outgoing} (h : Due params id opened method a) : a.answers? = some id := by
  cases h <;> rfl

/-- A frame answers another one that has a string as its method and a valid identifier, and it
repeats that identifier. -/
def AnswersFrame (answer frame : Json) : Prop :=
  (∃ name, frame.get? "method" = some (.string name)) ∧
    ∃ id, (RequestId.ofJson? id).isSome = true ∧ frame.get? "id" = some id ∧
      answer.get? "id" = some id

theorem RequestId.toJson_of_ofJson? {v : Json} {id : RequestId}
    (h : RequestId.ofJson? v = some id) : id.toJson = v := by
  unfold RequestId.ofJson? at h
  split at h
  · next n =>
    split at h
    · next hn =>
      obtain rfl := Option.some.inj h
      have hlt : n < 2 ^ 63 := Int.lt_add_one_iff.2 hn.2
      rw [RequestId.toJson, Int64.toInt_ofInt_of_le hn.1 hlt]
      rfl
    · cases h
  · obtain rfl := Option.some.inj h
    rfl
  · cases h

theorem get?_id_toJson {a : Outgoing} {id : RequestId} (h : a.answers? = some id) :
    a.toJson.get? "id" = some id.toJson := by
  cases a with
  | response | error =>
    obtain rfl := Option.some.inj h
    rfl
  | notification | request => cases h

theorem IsAnswer.answersFrame {opened : Bool} {frame : Json} {a : Outgoing}
    (h : IsAnswer opened (Incoming.ofJson frame) a) : AnswersFrame a.toJson frame := by
  obtain ⟨name, id, hm, hi, hd⟩ := h
  obtain ⟨v, hv, hname⟩ := Option.bind_eq_some_iff.1 hm
  obtain ⟨j, hj, hid⟩ := Option.bind_eq_some_iff.1 hi
  refine ⟨⟨name, ?_⟩, j, by rw [hid]; rfl, hj, ?_⟩
  · cases v <;> simp_all [Json.text]
  · rw [← RequestId.toJson_of_ofJson? hid, get?_id_toJson hd.answers?]

/-- The answers belong to some of the messages, in their order. -/
theorem Answering.selection {opened : Bool} {ms : List Incoming} {as : List Outgoing}
    (h : Answering opened ms as) :
    List.SublistForall₂ (fun a m => ∃ opened, IsAnswer opened m a) as ms := by
  induction h with
  | done => exact .nil
  | answered due _ ih => exact .cons ⟨_, due⟩ ih
  | silent _ _ ih => exact .cons_right ih

namespace Session

/-! ## The gate -/

theorem gate_setup (s : Session) :
    s.gate .setup = if s.opened.isSome then .refuse (-32600) "Server already initialized"
      else .pass := rfl

theorem gate_of_needsProject (s : Session) {method : Method} (h : method.needsProject = true) :
    s.gate method =
      if s.opened.isSome then .pass else .refuse (-32002) "Server not initialized" := by
  cases method <;> first | rfl | simp [Method.needsProject] at h

theorem gate_pass_of_not_needsProject (s : Session) {method : Method}
    (hn : method.needsProject = false) (hs : method ≠ .setup) : s.gate method = .pass := by
  cases method <;> simp_all [gate, Method.needsProject]

/-- An open project refuses only the request that opens one. -/
theorem gate_of_opened {s : Session} {p : Opened} (hs : s.opened = some p) {method : Method}
    (h : method ≠ .setup) : s.gate method = .pass := by
  cases hn : method.needsProject with
  | false => exact gate_pass_of_not_needsProject s hn h
  | true =>
    rw [gate_of_needsProject s hn, hs]
    rfl

/-- A refusal at the gate is the answer that is due. -/
theorem due_of_refuse (s : Session) {method : Method} {code : Int} {reason : String}
    (h : s.gate method = .refuse code reason) (params : Json) (id : RequestId) :
    Due params id s.opened.isSome method (.error id code reason) := by
  cases hn : method.needsProject with
  | true =>
    rw [gate_of_needsProject s hn] at h
    cases ho : s.opened.isSome with
    | true => simp [ho] at h
    | false =>
      simp only [ho, Bool.false_eq_true, if_false, Gate.refuse.injEq] at h
      obtain ⟨rfl, rfl⟩ := h
      exact .tooEarly hn
  | false =>
    by_cases hs : method = .setup
    · subst hs
      rw [gate_setup] at h
      cases ho : s.opened.isSome with
      | false => simp [ho] at h
      | true =>
        simp only [ho, if_true, Gate.refuse.injEq] at h
        obtain ⟨rfl, rfl⟩ := h
        exact .setupAgain
    · rw [gate_pass_of_not_needsProject s hn hs] at h
      cases h

/-- No answer is due to a request that passes its gate and cannot be read. -/
theorem not_due_of_unreadable (s : Session) {method : Method} {params : Json}
    (hg : s.gate method = .pass) (hr : Request.read? method params = none) (id : RequestId)
    (a : Outgoing) : ¬ Due params id s.opened.isSome method a := by
  intro h
  generalize ho : s.opened.isSome = opened at h
  cases h with
  | setup readable => simp [hr] at readable
  | setupAgain => simp [gate_setup, ho] at hg
  | shutdown => simp [Request.read?] at hr
  | tooEarly needs => simp [gate_of_needsProject s needs, ho] at hg
  | served result serves readable => simp [hr] at readable

/-! ## Steps -/

/-- While no project is open, only the request that opens one and the announcement of the end have
a result. -/
theorem handle_result_of_not_opened (s : Session) (o : Options) (w : World) (h : s.opened = none)
    (r : Request) : (s.handle o w r).result =
      if r.method? = some .setup then some Manifest.toJson
      else if r.method? = some .shutdown then some .null else none := by
  cases r <;> simp [handle, setup, h, Request.method?]

theorem known?_any_isServed (method : Method) :
    method.known?.any Method.isServed = method.isServed := by
  cases method <;> rfl

/-- A request that has passed its gate has a result exactly when an answer is due, and then the
result makes up that answer. -/
theorem handle_result (s : Session) (o : Options) (w : World) {method : Method} {params : Json}
    {r : Request} (hg : s.gate method = .pass) (hr : Request.read? method params = some r) :
    (∃ v, (s.handle o w r).result = some v ∧
      ∀ id, Due params id s.opened.isSome method (.response id v)) ∨
    ((s.handle o w r).result = none ∧ ∀ id a, ¬ Due params id s.opened.isSome method a) := by
  have hm := Request.method?_of_read? hr
  have readable : (Request.read? method params).isSome = true := by rw [hr]; rfl
  cases ho : s.opened with
  | none =>
    have hneeds : method.needsProject = false := by
      cases hn : method.needsProject with
      | false => rfl
      | true =>
        rw [gate_of_needsProject s hn, ho] at hg
        simp at hg
    rw [handle_result_of_not_opened s o w ho, hm]
    cases method with
    | setup => exact Or.inl ⟨_, rfl, fun id => .setup readable⟩
    | shutdown => exact Or.inl ⟨_, rfl, fun id => .shutdown false⟩
    | exit | other =>
      refine Or.inr ⟨rfl, fun id a h => ?_⟩
      cases h with
      | tooEarly needs => simp [Method.needsProject] at needs
    | _ => simp [Method.needsProject] at hneeds
  | some opened =>
    have hsetup : method ≠ .setup := by
      rintro rfl
      rw [gate_setup, ho] at hg
      simp at hg
    by_cases hshut : method = .shutdown
    · subst hshut
      have hr' : r = .shutdown := by cases r <;> simp_all [Request.method?, Method.known?]
      exact Or.inl ⟨.null, by rw [hr']; rfl, fun id => .shutdown true⟩
    have hs : r.method? ≠ some .setup := by
      rw [hm]; cases method <;> simp_all [Method.known?]
    have hd : r.method? ≠ some .shutdown := by
      rw [hm]; cases method <;> simp_all [Method.known?]
    have hres := handleOpened_result s o w opened r
    rw [hm, known?_any_isServed] at hres
    rw [handle_of_opened s o w ho hs hd]
    cases hserved : method.isServed with
    | true =>
      rw [hserved, Option.isSome_iff_exists] at hres
      obtain ⟨v, hv⟩ := hres
      exact Or.inl ⟨v, hv, fun id => .served v hserved readable⟩
    | false =>
      rw [hserved, Option.isSome_eq_false_iff, Option.isNone_iff_eq_none] at hres
      refine Or.inr ⟨hres, fun id a h => ?_⟩
      cases h with
      | setupAgain => exact hsetup rfl
      | shutdown => exact hshut rfl
      | served result serves => rw [hserved] at serves; exact Bool.noConfusion serves

theorem answers_answer (id : Option RequestId) (result : Option Json) :
    answers (answer id result) =
      match id, result with
      | some id, some v => [.response id v]
      | _, _ => [] := by
  cases id <;> cases result <;> rfl

/-- A step writes exactly the answer that is due: one if there is one, and otherwise none. -/
theorem answers_step (s : Session) (o : Options) (w : World) (m : Incoming) :
    (∃ a, IsAnswer s.opened.isSome m a ∧ answers (s.step o w m).2 = [a]) ∨
    ((∀ a, ¬ IsAnswer s.opened.isSome m a) ∧ answers (s.step o w m).2 = []) := by
  rcases step_cases s o w m with ⟨hm, he⟩ | ⟨name, code, reason, hm, hg, he⟩ |
    ⟨name, hm, hg, hq, he⟩ | ⟨name, r, hm, hg, hq, he⟩
  · refine Or.inr ⟨?_, by rw [he]; rfl⟩
    rintro a ⟨name, _, hm', _⟩
    simp [hm] at hm'
  · cases hi : m.id with
    | none =>
      refine Or.inr ⟨?_, by rw [he, hi]; rfl⟩
      rintro a ⟨_, id, _, hi', _⟩
      simp [hi] at hi'
    | some id =>
      exact Or.inl ⟨.error id code reason, ⟨name, id, hm, hi, due_of_refuse s hg m.params id⟩,
        by rw [he, hi]; rfl⟩
  · rw [request?, hm, Option.bind_some] at hq
    refine Or.inr ⟨?_, by rw [he]; rfl⟩
    rintro a ⟨name', id, hm', _, hd⟩
    obtain rfl : name = name' := Option.some.inj (hm.symm.trans hm')
    exact not_due_of_unreadable s hg hq id a hd
  · rw [request?, hm, Option.bind_some] at hq
    have hsilent : answers (s.handle o w r).effects = [] :=
      answers_eq_nil (handle_answers? s o w r)
    rw [he, answers_append, hsilent, List.nil_append, answers_answer]
    rcases handle_result s o w hg hq with ⟨v, hv, hd⟩ | ⟨hv, hd⟩
    · cases hi : m.id with
      | some id => exact Or.inl ⟨.response id v, ⟨name, id, hm, hi, hd id⟩, by rw [hv]⟩
      | none =>
        refine Or.inr ⟨?_, rfl⟩
        rintro a ⟨_, id, _, hi', _⟩
        simp [hi] at hi'
    · refine Or.inr ⟨?_, by rw [hv]; cases m.id <;> rfl⟩
      rintro a ⟨name', id, hm', _, hd'⟩
      obtain rfl : name = name' := Option.some.inj (hm.symm.trans hm')
      exact hd id a hd'

/-- The answer of an open project is the result of the handler. -/
theorem answers_step_of_opened {s : Session} {o : Options} {w : World} {p : Opened}
    (hs : s.opened = some p) {m : Incoming} {id : RequestId} {r : Request} (hid : m.id = some id)
    (hm : request? m = some r) {v : Json} (hv : (s.handleOpened o w p r).result = some v) :
    answers (s.step o w m).2 = [.response id v] := by
  have hserved := handleOpened_result s o w p r
  rw [hv] at hserved
  have hsetup : r.method? ≠ some .setup := by
    intro h
    rw [h] at hserved
    cases hserved
  have hshutdown : r.method? ≠ some .shutdown := by
    intro h
    rw [h] at hserved
    cases hserved
  obtain ⟨name, hname, hread⟩ := Option.bind_eq_some_iff.1 hm
  have hgate : s.gate (Method.ofName name) = .pass := by
    apply gate_of_opened hs
    intro hset
    rw [hset] at hread
    exact hsetup (Request.method?_of_read? hread)
  have hsilent : answers (s.handle o w r).effects = [] := answers_eq_nil (handle_answers? s o w r)
  have hresult : (s.handle o w r).result = some v := by
    rw [handle_of_opened s o w hs hsetup hshutdown, hv]
  simp only [step, hname, hgate, dispatch, hread]
  rw [answers_append, hsilent, List.nil_append, hid, hresult]
  rfl

theorem opened_handle (s : Session) (o : Options) (w : World) (r : Request) :
    (s.handle o w r).session.opened.isSome = (s.opened.isSome || r.method? == some .setup) := by
  cases ho : s.opened with
  | none => cases r <;> simp [handle, setup, ho, Request.method?]
  | some opened =>
    by_cases hs : r.method? = some .setup
    · cases r <;> simp_all [handle, setup, Request.method?]
    by_cases hd : r.method? = some .shutdown
    · cases r <;> simp_all [handle, Request.method?]
    rw [handle_of_opened s o w ho hs hd]
    have h := congrArg Option.isSome (handleOpened_corrector s o w opened r)
    simpa [ho] using h

/-- The project is open from the first request that opens it. -/
theorem opened_step (s : Session) (o : Options) (w : World) (m : Incoming) :
    (s.step o w m).1.opened.isSome = (s.opened.isSome || m.opens) := by
  rcases step_cases s o w m with ⟨hm, he⟩ | ⟨name, code, reason, hm, hg, he⟩ |
    ⟨name, hm, hg, hq, he⟩ | ⟨name, r, hm, hg, hq, he⟩
  · rw [he, Incoming.opens, request?, hm]
    simp
  · rw [he, Incoming.opens]
    cases ho : s.opened with
    | some opened => rfl
    | none =>
      -- only the request that opens a project has its method, and that one passes
      cases hq : request? m with
      | none => rfl
      | some r =>
        rw [request?, hm, Option.bind_some] at hq
        have hne : r.method? ≠ some .setup := by
          intro hr
          rw [Request.method?_of_read? hq] at hr
          rw [Method.eq_of_known? hr, gate_setup, ho] at hg
          simp at hg
        simp [hne]
  · rw [he, Incoming.opens, hq]
    simp
  · rw [he, Incoming.opens, hq, opened_handle]
    rfl

/-! ## Runs -/

theorem answering_run (o : Options) (s : Session) (as : List Arrival) :
    Answering s.opened.isSome (as.map Prod.snd) (answers (run o s as).2) := by
  induction as generalizing s with
  | nil => exact .done _
  | cons a as ih =>
    obtain ⟨w, m⟩ := a
    have rest := ih (s.step o w m).1
    rw [opened_step] at rest
    rw [run_cons, answers_append, List.map_cons]
    rcases answers_step s o w m with ⟨a, ha, he⟩ | ⟨hn, he⟩
    · rw [he]
      exact .answered ha rest
    · rw [he]
      exact .silent hn rest

/-- **Answers over a whole session.**  An editor that sends frames gets, in the order of its frames,
exactly the answers that are due, and each of them repeats the identifier of the frame that it
answers. -/
theorem answering_serve (o : Options) (frames : List (World × Json)) :
    let arrivals := frames.map fun f => (f.1, Incoming.ofJson f.2)
    let replies := answers (serve o arrivals).2
    Answering false ((handled arrivals).map Prod.snd) replies ∧
      List.SublistForall₂ AnswersFrame (replies.map Outgoing.toJson) (frames.map Prod.snd) := by
  intro arrivals replies
  have h : Answering false ((handled arrivals).map Prod.snd) replies :=
    answering_run o (.start o) (handled arrivals)
  refine ⟨h, ?_⟩
  obtain ⟨chosen, hc, hs⟩ := List.sublistForall₂_iff.1 h.selection
  have hsub : chosen.Sublist ((frames.map Prod.snd).map Incoming.ofJson) := by
    have hm := hs.trans ((handled_sublist arrivals).map Prod.snd)
    simpa only [arrivals, List.map_map, Function.comp_def] using hm
  have hsel := List.sublistForall₂_map_right_iff.1 (List.sublistForall₂_iff.2 ⟨chosen, hc, hsub⟩)
  obtain ⟨answered, ha, hl⟩ := List.sublistForall₂_iff.1 hsel
  refine List.sublistForall₂_map_left_iff.2 (List.sublistForall₂_iff.2 ⟨answered, ?_, hl⟩)
  exact ha.imp fun _ _ ⟨_, hd⟩ => hd.answersFrame

end Session

end HamlServer
