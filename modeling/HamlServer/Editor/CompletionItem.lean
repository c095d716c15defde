import HamlServer.Json.Basic

/-!
Completion items: one candidate in the editor's list.
-/

namespace HamlServer

/-- What a candidate stands for. -/
inductive ItemKind where
  | text
  | method
  | function
  | field
  | variable
  | property
  | value
  | keyword
  | snippet
  | file
  deriving DecidableEq, Repr

namespace ItemKind

/-- The number of a kind on the wire. -/
def toNat : ItemKind → Nat
  | .text => 1
  | .method => 2
  | .function => 3
  | .field => 5
  | .variable => 6
  | .property => 10
  | .value => 12
  | .keyword => 14
  | .snippet => 15
  | .file => 17

end ItemKind

/-- What is inserted for a candidate: plain text, or a snippet with places to fill in. -/
inductive Insertion where
  | plain (text : String)
  | snippet (text : String)
  deriving DecidableEq, Repr

namespace Insertion

/-- The inserted text. -/
def text : Insertion → String
  | .plain s => s
  | .snippet s => s

/-- The number of the format on the wire. -/
def format : Insertion → Nat
  | .plain _ => 1
  | .snippet _ => 2

end Insertion

/-- A candidate. -/
structure CompletionItem where
  label : String
  kind : ItemKind
  detail : Option String := none
  documentation : Option String := none
  insertion : Option Insertion := none
  sortText : Option String := none
  filterText : Option String := none
  preselect : Bool := false
  deriving DecidableEq, Repr

namespace CompletionItem

/-- A candidate as JSON; what is absent is left out, and so is a preselection that is not made. -/
def toJson (i : CompletionItem) : Json :=
  .ofOptional [("label", some (.string i.label)), ("kind", some (.nat i.kind.toNat)),
    ("detail", i.detail.map .string), ("documentation", i.documentation.map .string),
    ("insertText", i.insertion.map (.string ·.text)),
    ("insertTextFormat", i.insertion.map (.nat ·.format)),
    ("sortText", i.sortText.map .string), ("filterText", i.filterText.map .string),
    ("preselect", if i.preselect then some (.bool true) else none)]

end CompletionItem

end HamlServer
