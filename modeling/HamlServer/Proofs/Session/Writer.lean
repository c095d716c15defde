import HamlServer.Proofs.Session.Stream

/-!
# A writer that fails

A writer may take some messages and fail from then on.  A connection with such a writer does what
one with a working writer does, up to the first write that fails, and there it ends.

A write that fails while a request is handled ends its handler, and the server then tries to show
the user a message about it.  That is one more write, and it fails as well, so that nothing comes
between the last message that was taken and the end: `carryOut_eq_spend`.

* `spend_cases`: what becomes of some effects.
* `Limited`: how the two connections compare.  `accept_limited` is one message, and
  `Limited.append` carries the comparison on over anything that comes later.
* `converse_limited`: whole streams.
-/

namespace HamlServer

namespace Connection

variable {o : Options} {w : World} {c : Connection} {n : Nat}

/-- A connection that can still write some messages. -/
def limit (c : Connection) (n : Nat) : Connection := { c with writable := some n }

/-! ## Effects on a writer -/

/-- Effects are carried out as they are if the writer takes all their messages; else up to the
first message that it does not take. -/
theorem spend_cases (n : Nat) (es : List Effect) :
    ((written es).length ≤ n ∧ spend (some n) es = (es, some (n - (written es).length), false)) ∨
    (∃ done m rest, es = done ++ .write m :: rest ∧ (written done).length = n ∧
      spend (some n) es = (done, some 0, true)) := by
  induction es generalizing n with
  | nil => exact Or.inl ⟨Nat.zero_le n, rfl⟩
  | cons e es ih =>
    cases e with
    | call call =>
      rcases ih n with ⟨hle, hspend⟩ | ⟨done, m, rest, rfl, hlen, hspend⟩
      · refine Or.inl ⟨hle, ?_⟩
        simp only [spend, hspend, written_call]
      · refine Or.inr ⟨.call call :: done, m, rest, rfl, hlen, ?_⟩
        simp only [spend, hspend]
    | write message =>
      cases n with
      | zero => exact Or.inr ⟨[], message, es, rfl, rfl, rfl⟩
      | succ n =>
        rcases ih n with ⟨hle, hspend⟩ | ⟨done, m, rest, rfl, hlen, hspend⟩
        · refine Or.inl ⟨Nat.succ_le_succ hle, ?_⟩
          simp only [spend, hspend, written_write, List.length_cons, Nat.add_sub_add_right]
        · refine Or.inr ⟨.write message :: done, m, rest, rfl, congrArg Nat.succ hlen, ?_⟩
          simp only [spend, hspend]

/-- Effects behind others that the writer takes are carried out with what it takes after those. -/
theorem spend_append_of_le {xs : List Effect} (h : (written xs).length ≤ n) (ys : List Effect) :
    spend (some n) (xs ++ ys) =
      (xs ++ (spend (some (n - (written xs).length)) ys).1,
        (spend (some (n - (written xs).length)) ys).2) := by
  induction xs generalizing n with
  | nil => rfl
  | cons e xs ih =>
    cases e with
    | call call =>
      rw [written_call] at h ⊢
      simp only [List.cons_append, spend, ih h]
    | write m =>
      rw [written_write, List.length_cons] at h ⊢
      cases n with
      | zero => exact absurd h (Nat.not_succ_le_zero _)
      | succ n =>
        simp only [List.cons_append, spend, ih (Nat.le_of_succ_le_succ h), Nat.add_sub_add_right]

/-! ## The report of a write that failed -/

/-- What the server tries to show the user when a write failed in a handler. -/
def writeReport : Effect := Session.tell (Notice.alert .error "HAML LSP error: writing frame")

/-- Carries out what a handler does, and then the reply; when the handler fails, the report of that
comes in the place of the reply. -/
def carryOut (writable : Option Nat) (handling reply : List Effect) :
    List Effect × Option Nat × Bool :=
  let (done, left, failed) := spend writable handling
  let (last, left, failed) := spend left (if failed then [writeReport] else reply)
  (done ++ last, left, failed)

/-- The report is never seen: the writer that failed in the handler fails at the report, too. -/
theorem carryOut_eq_spend (writable : Option Nat) (handling reply : List Effect) :
    carryOut writable handling reply = spend writable (handling ++ reply) := by
  cases writable with
  | none => simp only [carryOut, spend_none, Bool.false_eq_true, if_false]
  | some n =>
    rcases spend_cases n handling with ⟨hle, hspend⟩ | ⟨done, m, rest, rfl, rfl, hspend⟩
    · simp only [carryOut, hspend, spend_append_of_le hle, Bool.false_eq_true, if_false]
    · rw [List.append_assoc, spend_append_of_le (Nat.le_refl _), Nat.sub_self]
      simp only [carryOut, hspend, if_true, writeReport, Session.tell, List.cons_append, spend]

end Connection

namespace Session

/-- What the handler of a message does on its way. -/
def handling (s : Session) (o : Options) (w : World) (m : Incoming) : List Effect :=
  match m.method, request? m with
  | some name, some r =>
    if s.gate (Method.ofName name) = .pass then (s.handle o w r).effects else []
  | _, _ => []

/-- What a message is replied with, once it is handled: it is refused, its parameters are reported,
or its result is sent. -/
def reply (s : Session) (o : Options) (w : World) (m : Incoming) : List Effect :=
  match m.method with
  | none => []
  | some name =>
    match s.gate (Method.ofName name), request? m with
    | .refuse code reason, _ => (m.id.map fun id => Effect.write (.error id code reason)).toList
    | .pass, none => [badParams name]
    | .pass, some r => answer m.id (s.handle o w r).result

/-- A step handles a message and then replies to it. -/
theorem step_eq_handling_append_reply (s : Session) (o : Options) (w : World) (m : Incoming) :
    (s.step o w m).2 = s.handling o w m ++ s.reply o w m := by
  rcases step_cases s o w m with ⟨hm, he⟩ | ⟨name, code, reason, hm, hg, he⟩ |
    ⟨name, hm, hg, hq, he⟩ | ⟨name, r, hm, hg, hq, he⟩
  · simp only [he, handling, reply, hm, List.append_nil]
  · cases hq : request? m <;> simp [he, handling, reply, hm, hg, hq]
  · simp only [he, handling, reply, hm, hg, hq, List.nil_append]
  · simp only [he, handling, reply, hm, hg, hq, if_true]

end Session

namespace Connection

variable {o : Options} {w : World} {c : Connection} {n : Nat}

/-- A message is handled on a writer as its handler and its reply are, with the report in between
when the handler fails. -/
theorem spend_step (writable : Option Nat) (s : Session) (m : Incoming) :
    spend writable (s.step o w m).2 = carryOut writable (s.handling o w m) (s.reply o w m) := by
  rw [Session.step_eq_handling_append_reply, carryOut_eq_spend]

/-! ## Two connections side by side -/

/-- Messages were read from the front of a stream, and `rest` is behind them. -/
def Arrived (stream : Bytes) (as : List Arrival) (rest : Bytes) : Prop :=
  ∃ messages, Frame.Reads stream messages rest ∧ messages.map Incoming.ofJson = as.map Prod.snd

theorem Arrived.nothing (stream : Bytes) : Arrived stream [] stream := ⟨[], .nothing stream, rfl⟩

theorem Arrived.append {stream rest later last : Bytes} {as bs : List Arrival}
    (h : Arrived stream as rest) (h' : Arrived (rest ++ later) bs last) :
    Arrived (stream ++ later) (as ++ bs) last := by
  obtain ⟨ms, hreads, hms⟩ := h
  obtain ⟨ms', hreads', hms'⟩ := h'
  exact ⟨ms ++ ms', (hreads.append later).trans hreads', by simp only [List.map_append, hms, hms']⟩

/-- How what a connection did with a writer that takes `n` messages (`cut`) compares with what it
did with a working one (`full`).  Both started in a session `s` and received the same stream.
Either the writer took all messages, and the two are the same; or it took those in front of some
message of the step for `a`, and the connection ended there without reading on. -/
inductive Limited (o : Options) (s : Session) (stream : Bytes) (n : Nat)
    (full cut : Connection × List Effect) : Prop where
  | whole (as : List Arrival) (ran : (full.1.session, full.2) = Session.run o s as)
      (arrived : Arrived stream as full.1.pending) (fits : (written full.2).length ≤ n)
      (same : cut = (full.1.limit (n - (written full.2).length), full.2))
  | broken (before after : List Arrival) (a : Arrival)
      (ran : (full.1.session, full.2) = Session.run o s (before ++ a :: after))
      (arrived : Arrived stream (before ++ [a]) cut.1.pending)
      (fits : (written (Session.run o s before).2).length ≤ n)
      (breaks : n < (written (Session.run o s (before ++ [a])).2).length)
      (short : ∃ m rest, full.2 = cut.2 ++ .write m :: rest)
      (spent : (written cut.2).length = n)
      (ended : cut.1.ending = some .writeFailed)

variable {s : Session} {stream : Bytes} {full cut : Connection × List Effect}

theorem Limited.exists_run (h : Limited o s stream n full cut) :
    ∃ as, (full.1.session, full.2) = Session.run o s as := by
  cases h with
  | whole as ran => exact ⟨as, ran⟩
  | broken before after a ran => exact ⟨before ++ a :: after, ran⟩

/-- The comparison carries over to what both do next.  A connection that has ended must only keep
what it receives later. -/
theorem Limited.append (h : Limited o s stream n full cut)
    (next : Connection → Connection × List Effect) (later : Bytes)
    (further : ∀ k, Limited o full.1.session (full.1.pending ++ later) k (next full.1)
      (next (full.1.limit k)))
    (stays : cut.1.ending.isSome = true → next cut.1 = (cut.1.extend later, [])) :
    Limited o s (stream ++ later) n ((next full.1).1, full.2 ++ (next full.1).2)
      ((next cut.1).1, cut.2 ++ (next cut.1).2) := by
  cases h with
  | whole as ran arrived fits same =>
    have hsession : full.1.session = (Session.run o s as).1 := congrArg Prod.fst ran
    have heffects : full.2 = (Session.run o s as).2 := congrArg Prod.snd ran
    rw [same]
    dsimp only
    cases further (n - (written full.2).length) with
    | whole bs ran' arrived' fits' same' =>
      refine .whole (as ++ bs) ?_ (arrived.append arrived') ?_ ?_
      · rw [Session.run_append, ← heffects, ← hsession, ← ran']
      · rw [written_append, List.length_append]
        omega
      · rw [same', written_append, List.length_append, Nat.sub_add_eq]
    | broken before after a ran' arrived' fits' breaks' short' spent' ended' =>
      refine .broken (as ++ before) after a ?_ ?_ ?_ ?_ ?_ ?_ ended'
      · rw [List.append_assoc, Session.run_append, ← heffects, ← hsession, ← ran']
      · rw [List.append_assoc]
        exact arrived.append arrived'
      · rw [Session.run_append, ← heffects, ← hsession, written_append, List.length_append]
        omega
      · rw [List.append_assoc, Session.run_append, ← heffects, ← hsession, written_append,
          List.length_append]
        omega
      · obtain ⟨m, rest, hrest⟩ := short'
        exact ⟨m, rest, by rw [hrest, List.append_assoc]⟩
      · rw [written_append, List.length_append]
        omega
  | broken before after a ran arrived fits breaks short spent ended =>
    -- only the connection with the working writer goes on
    have hsession : full.1.session = (Session.run o s (before ++ a :: after)).1 :=
      congrArg Prod.fst ran
    have heffects : full.2 = (Session.run o s (before ++ a :: after)).2 := congrArg Prod.snd ran
    obtain ⟨bs, ran'⟩ := (further 0).exists_run
    rw [stays (by rw [ended]; rfl)]
    refine .broken before (after ++ bs) a ?_ ?_ fits breaks ?_ ?_ ended
    · rw [← List.cons_append, ← List.append_assoc, Session.run_append, ← heffects, ← hsession,
        ← ran']
    · have happend := arrived.append (.nothing (cut.1.pending ++ later))
      rwa [List.append_nil] at happend
    · obtain ⟨m, rest, hrest⟩ := short
      exact ⟨m, rest ++ (next full.1).2, by
        simp only [hrest, List.append_assoc, List.cons_append, List.nil_append]⟩
    · rw [List.append_nil, spent]

/-! ## Messages and streams -/

/-- With a working writer a connection goes on with a working writer. -/
theorem accept_writable (hw : c.writable = none) (message : Json) (rest : Bytes) :
    (c.accept o w message rest).1.writable = none := by
  rw [accept_eq_step o w c message rest hw]
  dsimp only
  split <;> exact hw

theorem drain_writable (hw : c.writable = none) (ended : Bool) :
    (drain o w ended c).1.writable = none := by
  fun_induction drain o w ended c with
  | case1 | case2 | case3 | case4 => exact hw
  | case5 c _ message rest _ _ _ ih => exact ih (accept_writable hw message rest)

/-- One message on the two writers. -/
theorem accept_limited {ended : Bool} {message : Json} {rest : Bytes} (hw : c.writable = none)
    (h : Frame.next ended c.pending = .frame message rest) (n : Nat) :
    Limited o c.session c.pending n (c.accept o w message rest)
      ((c.limit n).accept o w message rest) := by
  have haccept := accept_eq_step o w c message rest hw
  have hrun : ((c.accept o w message rest).1.session, (c.accept o w message rest).2) =
      Session.run o c.session [(w, .ofJson message)] := by
    rw [haccept, Session.run_cons, Session.run_nil, List.append_nil]
    dsimp only
    split <;> rfl
  have heffects : (c.accept o w message rest).2 = (c.session.step o w (.ofJson message)).2 := by
    rw [haccept]
  have harrived (d : Connection) :
      Arrived c.pending [(w, .ofJson message)] (d.accept o w message rest).1.pending := by
    rw [accept_pending]
    exact ⟨[message], Frame.reads_of_next h, rfl⟩
  rcases spend_cases n (c.session.step o w (.ofJson message)).2 with
    ⟨hle, hspend⟩ | ⟨done, m, left, hdone, hlen, hspend⟩
  · refine .whole [(w, .ofJson message)] hrun (harrived c) (heffects ▸ hle) ?_
    rw [heffects, haccept]
    simp only [accept, limit, hspend, Bool.false_eq_true, if_false]
    split <;> rfl
  · have hcut : (c.limit n).accept o w message rest =
        (stop { c with
          session := (c.session.step o w (.ofJson message)).1
          writable := some 0
          pending := rest } .writeFailed, done) := by
      simp only [accept, limit, hspend, if_true]
    refine .broken [] [] (w, .ofJson message) hrun (harrived (c.limit n)) ?_ ?_ ?_ ?_ ?_
    · exact Nat.zero_le n
    · rw [List.nil_append, ← hrun, heffects, hdone, written_append, List.length_append, hlen,
        written_write, List.length_cons]
      omega
    · exact ⟨m, left, by rw [heffects, hcut, hdone]⟩
    · rw [hcut, hlen]
    · rw [hcut]
      rfl

/-- Nothing is done, whatever the writer. -/
theorem limited_of_eq (hfull : full = (c, [])) (hcut : cut = (c.limit n, [])) :
    Limited o c.session c.pending n full cut := by
  subst hfull hcut
  exact .whole [] rfl (.nothing c.pending) (Nat.zero_le n) rfl

/-- All that has come, drained with the two writers. -/
theorem drain_limited (hw : c.writable = none) (ended : Bool) (n : Nat) :
    Limited o c.session c.pending n (drain o w ended c) (drain o w ended (c.limit n)) := by
  fun_induction drain o w ended c generalizing n with
  | case1 c he => exact limited_of_eq rfl (drain_of_ended o w ended he)
  | case2 c he h => exact limited_of_eq rfl (drain_of_more (c := c.limit n) he h)
  | case3 c he h =>
    refine .whole [] rfl (.nothing c.pending) (Nat.zero_le n) ?_
    exact drain_of_closed (c := c.limit n) he h
  | case4 c he e h =>
    refine .whole [] rfl (.nothing c.pending) (Nat.zero_le n) ?_
    exact drain_of_failed (c := c.limit n) he h
  | case5 c he message rest h accepted drained ih =>
    have hone := accept_limited (o := o) (w := w) hw h n
    have happend := hone.append (drain o w ended) [] (fun k => ?_) fun hended => ?_
    · rw [List.append_nil] at happend
      rwa [drain_of_frame (c := c.limit n) he h]
    · rw [List.append_nil]
      exact ih (accept_writable hw message rest) k
    · rw [extend_nil]
      exact drain_of_ended o w ended hended

/-- A connection that has ended keeps what comes. -/
theorem deliver_of_ended (hc : c.ending.isSome = true) (ds : List Delivery) :
    ((deliver o c ds).1, (deliver o c ds).2.flatten) = (c.extend (ds.flatMap Prod.snd), []) := by
  induction ds generalizing c with
  | nil => exact congrArg (·, []) (extend_nil c).symm
  | cons d ds ih =>
    have hreceive : c.receive o d.1 d.2 = (c.extend d.2, []) :=
      drain_of_ended (c := c.extend d.2) o d.1 false hc
    rw [List.flatMap_cons, extend_append, ← ih (c := c.extend d.2) hc]
    simp only [deliver, hreceive, List.flatten_cons, List.nil_append]

/-- A stream that comes in pieces, with the two writers. -/
theorem deliver_limited (hw : c.writable = none) (ds : List Delivery) (n : Nat) :
    Limited o c.session (c.pending ++ ds.flatMap Prod.snd) n
      ((deliver o c ds).1, (deliver o c ds).2.flatten)
      ((deliver o (c.limit n) ds).1, (deliver o (c.limit n) ds).2.flatten) := by
  induction ds generalizing c n with
  | nil =>
    rw [List.flatMap_nil, List.append_nil]
    exact limited_of_eq rfl rfl
  | cons d ds ih =>
    have hreceive : Limited o c.session (c.pending ++ d.2) n (c.receive o d.1 d.2)
        ((c.limit n).receive o d.1 d.2) := drain_limited (c := c.extend d.2) hw false n
    have hwritable : (c.receive o d.1 d.2).1.writable = none :=
      drain_writable (c := c.extend d.2) hw false
    rw [List.flatMap_cons, ← List.append_assoc]
    exact hreceive.append (fun c => ((deliver o c ds).1, (deliver o c ds).2.flatten))
      (ds.flatMap Prod.snd) (fun k => ih hwritable k) fun hended => deliver_of_ended hended ds

theorem deliver_writable (hw : c.writable = none) (ds : List Delivery) :
    (deliver o c ds).1.writable = none := by
  induction ds generalizing c with
  | nil => exact hw
  | cons d ds ih => exact ih (drain_writable (c := c.extend d.2) hw false)

/-- A whole stream and its end, with the two writers. -/
theorem finish_limited (o : Options) (ds : List Delivery) (w : World) (n : Nat) :
    Limited o (.start o) (ds.flatMap Prod.snd) n
      ((converse o none ds w).1, (converse o none ds w).2.flatten)
      ((converse o (some n) ds w).1, (converse o (some n) ds w).2.flatten) := by
  have hconverse (writable : Option Nat) : (converse o writable ds w).2.flatten =
      (deliver o (start o writable) ds).2.flatten ++
        ((deliver o (start o writable) ds).1.finish o w).2 := by
    simp only [converse, List.flatten_append, List.flatten_singleton]
  have hstart : (start o none).writable = none := rfl
  have hpieces := deliver_limited (o := o) hstart ds n
  have hlimited := hpieces.append (fun c => c.finish o w) [] (fun k => ?_) fun hended => ?_
  · rw [List.append_nil] at hlimited
    rw [hconverse, hconverse]
    exact hlimited
  · rw [List.append_nil]
    exact drain_limited (deliver_writable hstart ds) true k
  · rw [extend_nil]
    exact drain_of_ended o w true hended

/-- **A writer that fails.**  Serve the same stream once with a working writer and once with one
that takes `n` messages and fails from then on.  The messages written the second time are the first
`n` ones of the first time.  If there are no more than these, all else is the same: the tool calls,
the state, and how the connection ends.  If there are more, the second connection fails with the
text of a write that failed.  What it had done by then is what the first one had done in front of
its message `n + 1`, which belongs to the step for some message `a` of the editor; and it has not
read beyond the frame of `a`. -/
theorem converse_limited (o : Options) (ds : List Delivery) (w : World) (n : Nat) :
    let full := converse o none ds w
    let cut := converse o (some n) ds w
    let messages := written full.2.flatten
    written cut.2.flatten = messages.take n ∧
    (messages.length ≤ n → cut.2.flatten = full.2.flatten ∧ cut.1.session = full.1.session ∧
      cut.1.ending = full.1.ending ∧ full.1.ending.isSome = true) ∧
    (n < messages.length → cut.1.ending.bind Ending.failure? = some "writing frame" ∧
      (∃ m rest, full.2.flatten = cut.2.flatten ++ .write m :: rest) ∧
      ∃ before a after,
        (full.1.session, full.2.flatten) = Session.run o (.start o) (before ++ a :: after) ∧
        (written (Session.run o (.start o) before).2).length ≤ n ∧
        n < (written (Session.run o (.start o) (before ++ [a])).2).length ∧
        Arrived (ds.flatMap Prod.snd) (before ++ [a]) cut.1.pending) := by
  intro full cut messages
  cases finish_limited o ds w n with
  | whole as ran arrived fits same =>
    obtain ⟨hconnection, heffects⟩ := Prod.mk.inj same
    have hended : full.1.ending.isSome = true := drain_ended o w _
    refine ⟨?_, fun _ => ⟨heffects, ?_, ?_, hended⟩, fun hlt => absurd fits (Nat.not_le.2 hlt)⟩
    · rw [heffects]
      exact (List.take_of_length_le fits).symm
    · rw [hconnection]
      rfl
    · rw [hconnection]
      rfl
  | broken before after a ran arrived fits breaks short spent ended =>
    obtain ⟨m, rest, hrest⟩ := short
    have hmessages : messages = written cut.2.flatten ++ m :: written rest := by
      rw [← written_write, ← written_append]
      exact congrArg written hrest
    refine ⟨?_, fun hle => ?_, fun _ => ⟨?_, ⟨m, rest, hrest⟩, before, a, after, ran, fits, breaks,
      arrived⟩⟩
    · rw [hmessages, ← spent, List.take_left]
    · have hspent : (written cut.2.flatten).length = n := spent
      rw [hmessages, List.length_append, List.length_cons] at hle
      omega
    · rw [ended]
      rfl

/-- Two announcements of the end, of which one is answered. -/
theorem converse_limited_shutdown :
    let o : Options := { cwd := .ofString "/" }
    let w : World := .still []
    let message : Json := .object [("id", .number (.int 1)), ("method", .string "shutdown")]
    let ds : List Delivery := [(w, Frame.encode message), (w, Frame.encode message)]
    1 < (written (converse o none ds w).2.flatten).length ∧
      (converse o (some 1) ds w).1.ending.bind Ending.failure? = some "writing frame" ∧
      written (converse o (some 1) ds w).2.flatten = [.response (.number 1) .null] := by
  intro o w message ds
  have hencodable : Frame.Encodable message := by
    refine ⟨.object (by decide) fun m hm => ?_, by decide +kernel⟩
    rcases List.mem_pair.1 hm with rfl | rfl
    · exact .int (by decide) (by decide)
    · exact .string _
  have hcomplete (rest : Bytes) : Frame.complete true (Frame.encode message ++ rest) =
      message :: Frame.complete true rest := by
    rw [Frame.complete, Frame.next_encode hencodable true rest]
  have hstream : Frame.complete true ((start o none).extend
      [Frame.encode message, Frame.encode message].flatten).pending = [message, message] := by
    rw [List.flatten_cons, List.flatten_cons, List.flatten_nil, extend, start, List.nil_append,
      hcomplete, hcomplete, Frame.complete, Frame.next, Frame.header]
    rfl
  have heffects : (converse o none ds w).2.flatten =
      [.write (.response (.number 1) .null), .write (.response (.number 1) .null)] := by
    have hflatten := converse_flatten o w none [Frame.encode message, Frame.encode message]
    refine (congrArg Prod.snd hflatten).trans ?_
    refine (congrArg Prod.snd (drain_eq_run o w true _ rfl rfl)).trans ?_
    rw [hstream]
    rfl
  obtain ⟨htake, -, hfails⟩ := converse_limited o ds w 1
  rw [heffects] at htake hfails
  exact ⟨by rw [heffects]; decide, (hfails (by decide)).1, htake⟩

end Connection

end HamlServer
