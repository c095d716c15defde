import HamlServer.Session.Handle

/-!
A step of a session: one message from the editor.

Before the first request has opened the project, only that request, the announcement of the end and
methods that are not known pass; all others are refused.  A request whose parameters cannot be read
is reported to the user and changes nothing.
-/

namespace HamlServer

namespace Session

/-- The code for a request in front of the first one. -/
def notOpenedCode : Int := -32002

/-- The code for a second first request. -/
def invalidRequestCode : Int := -32600

/-- What a method meets at the state of a session. -/
inductive Gate where
  | pass
  | refuse (code : Int) (reason : String)
  deriving DecidableEq

/-- The gate for a method. -/
def gate (s : Session) : Method → Gate
  | .setup => if s.opened.isSome then .refuse invalidRequestCode "Server already initialized" else .pass
  | .shutdown => .pass
  | .exit => .pass
  | .other _ => .pass
  | _ =>
    if s.opened.isSome then .pass else .refuse notOpenedCode "Server not initialized"

/-- Handles a request of an open project. -/
def handleOpened (s : Session) (o : Options) (w : World) (opened : Opened) : Request → Handled
  | .ready => s.ready w opened.project
  | .opened uri text => (s.tidy w).sync o w opened.corrector uri text
  | .changed uri text => s.sync o w opened.corrector uri text
  | .saved uri (some text) => s.sync o w opened.corrector uri (some text)
  | .saved uri none =>
    let (s, found) := s.document w uri
    s.sync o w opened.corrector uri (found.map (·.content))
  | .closed uri => s.close o uri
  | .format uri => s.format w opened.corrector uri
  | .complete uri position => s.complete w opened.project uri position
  | .define uri position => s.define w opened.project uri position
  | .actions uri range diagnostics => s.offer o w uri range diagnostics
  | .resolve action => s.resolve w opened.corrector action
  | _ => { session := s }

/-- Handles a request. -/
def handle (s : Session) (o : Options) (w : World) : Request → Handled
  | .setup rootUri rootPath => s.setup o w rootUri rootPath
  | .shutdown => { session := { s with ended := true }, result := some .null }
  | request =>
    match s.opened with
    | some opened => s.handleOpened o w opened request
    | none => { session := s }

/-- The answer to a request, if it is one and has a result. -/
def answer (id : Option RequestId) (result : Option Json) : List Effect :=
  match id, result with
  | some id, some result => [.write (.response id result)]
  | _, _ => []

/-- The report of a request whose parameters cannot be read. -/
def badParams (method : String) : Effect :=
  tell (Notice.alert .error s!"HAML LSP error: invalid params for {method}")

/-- Handles the request of a method that has passed its gate. -/
def dispatch (s : Session) (o : Options) (w : World) (id : Option RequestId) (method : Method)
    (params : Json) : Session × List Effect :=
  match Request.read? method params with
  | none => (s, [badParams method.name])
  | some request =>
    let h := s.handle o w request
    (h.session, h.effects ++ answer id h.result)

/-- Handles a message.  One without a method answers a request of the server, and nothing comes of
it. -/
def step (s : Session) (o : Options) (w : World) (m : Incoming) : Session × List Effect :=
  match m.method with
  | none => (s, [])
  | some name =>
    let method := Method.ofName name
    match s.gate method with
    | .refuse code reason => (s, (m.id.map fun id => Effect.write (.error id code reason)).toList)
    | .pass => s.dispatch o w m.id method m.params

/-- Whether a message ends the session. -/
def isExit (m : Incoming) : Bool := m.method.any fun name => Method.ofName name == .exit

end Session

end HamlServer
