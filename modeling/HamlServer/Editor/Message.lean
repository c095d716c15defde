import HamlServer.Json.Record

/-!
Messages between the editor and the server.

A message from the editor is read leniently: an identifier or a method of the wrong kind counts as
absent, and parameters that are neither an object nor an array count as an empty object.  What the
server sends is one of four shapes.

* `RequestId.ofJson?_toJson`: an identifier that came from the editor is read back from its answer.
* `Method.name_ofName`: no name is lost when it is read as a method.
-/

namespace HamlServer

/-- The name of a request, by which its answer is known. -/
inductive RequestId where
  | number (n : Int64)
  | name (s : String)
  deriving DecidableEq

namespace RequestId

/-- An identifier as JSON. -/
def toJson : RequestId → Json
  | .number n => .int n.toInt
  | .name s => .string s

/-- Reads an identifier: an integer of 64 bits with a sign, or a string. -/
def ofJson? : Json → Option RequestId
  | .number (.int n) =>
    if Int64.minValue.toInt ≤ n ∧ n ≤ Int64.maxValue.toInt then some (.number (Int64.ofInt n))
    else none
  | .string s => some (.name s)
  | _ => none

/-- An identifier as text. -/
def display : RequestId → String
  | .number n => toString n.toInt
  | .name s => s

theorem ofJson?_toJson (id : RequestId) : ofJson? id.toJson = some id := by
  cases id with
  | name s => rfl
  | number n =>
    have h : Int64.minValue.toInt ≤ n.toInt ∧ n.toInt ≤ Int64.maxValue.toInt :=
      ⟨Int64.minValue_le_toInt n, Int64.toInt_le n⟩
    simp only [toJson, Json.int, ofJson?, h, and_self, if_true, Int64.ofInt_toInt]

end RequestId

/-- A message from the editor.  A request has an identifier and a method, a notification only a
method, and the answer to a request of the server only an identifier. -/
structure Incoming where
  id : Option RequestId
  method : Option String
  params : Json
  deriving Inhabited

namespace Incoming

/-- Parameters as they are handed on: anything but an object or an array counts as an empty
object. -/
def normalParams : Option Json → Json
  | some (.object ms) => .object ms
  | some (.array vs) => .array vs
  | _ => .object []

/-- Reads a message; this never fails. -/
def ofJson (v : Json) : Incoming where
  id := (v.get? "id").bind RequestId.ofJson?
  method := (v.get? "method").bind Json.text
  params := normalParams (v.get? "params")

end Incoming

/-- A message to the editor. -/
inductive Outgoing where
  | response (id : RequestId) (result : Json)
  | error (id : RequestId) (code : Int) (message : String)
  | notification (method : String) (params : Json)
  | request (id : RequestId) (method : String) (params : Json)

namespace Outgoing

/-- The version of the message format. -/
def version : String × Json := ("jsonrpc", .string "2.0")

/-- A message as JSON. -/
def toJson : Outgoing → Json
  | .response id result => .ofMembers [version, ("id", id.toJson), ("result", result)]
  | .error id code message =>
    .ofMembers [version, ("id", id.toJson),
      ("error", .ofMembers [("code", .int code), ("message", .string message)])]
  | .notification method params =>
    .ofMembers [version, ("method", .string method), ("params", params)]
  | .request id method params =>
    .ofMembers [version, ("id", id.toJson), ("method", .string method), ("params", params)]

/-- The request that an answer belongs to, if the message is an answer. -/
def answers? : Outgoing → Option RequestId
  | .response id _ => some id
  | .error id _ _ => some id
  | _ => none

end Outgoing

/-- What a message from the editor is about. -/
inductive Method where
  | setup
  | ready
  | didOpen
  | didChange
  | didSave
  | didClose
  | formatting
  | completion
  | definition
  | codeAction
  | resolve
  | shutdown
  | exit
  | other (name : String)
  deriving DecidableEq

namespace Method

/-- The method with a name. -/
def ofName (name : String) : Method :=
  match name with
  | "initialize" => .setup
  | "initialized" => .ready
  | "textDocument/didOpen" => .didOpen
  | "textDocument/didChange" => .didChange
  | "textDocument/didSave" => .didSave
  | "textDocument/didClose" => .didClose
  | "textDocument/formatting" => .formatting
  | "textDocument/completion" => .completion
  | "textDocument/definition" => .definition
  | "textDocument/codeAction" => .codeAction
  | "codeAction/resolve" => .resolve
  | "shutdown" => .shutdown
  | "exit" => .exit
  | name => .other name

/-- The name of a method. -/
def name : Method → String
  | .setup => "initialize"
  | .ready => "initialized"
  | .didOpen => "textDocument/didOpen"
  | .didChange => "textDocument/didChange"
  | .didSave => "textDocument/didSave"
  | .didClose => "textDocument/didClose"
  | .formatting => "textDocument/formatting"
  | .completion => "textDocument/completion"
  | .definition => "textDocument/definition"
  | .codeAction => "textDocument/codeAction"
  | .resolve => "codeAction/resolve"
  | .shutdown => "shutdown"
  | .exit => "exit"
  | .other name => name

theorem name_ofName (s : String) : (ofName s).name = s := by
  unfold ofName
  split <;> rfl

end Method

end HamlServer
