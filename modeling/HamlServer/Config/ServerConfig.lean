import HamlServer.Files.Tree
import HamlServer.Toml.Document
import HamlServer.Tool.Launch

/-!
The configuration of the server.

Every field has a default, so an empty file is a configuration.  A file that does not exist is none.
The groups of fields are tables; an array counts as the fields of its table in their order.
-/

namespace HamlServer

/-- The configuration of the server. -/
structure ServerConfig where
  lintEnabled : Bool := false
  useBundle : Bool := false
  maxDocuments : Nat := 100
  ttlSeconds : Nat := 3600
  lintCommand : String := "haml-lint"
  convertCommand : String := "html2haml"
  deriving DecidableEq, Repr, Inhabited

namespace ServerConfig

/-- How the tools are launched. -/
def launcher (c : ServerConfig) : Launcher := ⟨c.lintCommand, c.convertCommand, c.useBundle⟩

/-! ## Reading values -/

open Toml

/-- A truth value. -/
def truth? : Value → Option Bool
  | .boolean b => some b
  | _ => none

/-- A natural number that fits a word of 64 bits. -/
def word? : Value → Option Nat
  | .integer n => if 0 ≤ n ∧ n < twoPow 64 then some n.toNat else none
  | _ => none

/-- A text. -/
def text? : Value → Option String
  | .string s => some s
  | _ => none

/-- What a value says about fields.  Other entries of a table are passed over, if they can be read;
a moment is a value that says nothing about them. -/
def fields? (names : List String) : Value → Option Entries
  | .table _ entries =>
    if entries.all fun (k, v) => names.contains k || v.isReadable then some entries else none
  | .array items => some (names.zip items)
  | .tables items => some (names.zip items)
  | .moment _ => some []
  | _ => none

/-- The value of a field, or its default if nothing is said about it. -/
def fieldOr {α : Type} (entries : Entries) (name : String) (read : Value → Option α)
    (default : α) : Option α :=
  match entries.lookup name with
  | none => some default
  | some v => read v

/-- The fields of a group. -/
def group (entries : Entries) (name : String) (names : List String) : Option Entries :=
  fieldOr entries name (fields? names) []

/-- The configuration that the entries of a file give. -/
def ofEntries? (entries : Entries) : Option ServerConfig := do
  let top ← fields? ["enable_lint", "use_bundle", "store", "lint", "convert"]
    (.table .header entries)
  let store ← group top "store" ["max_documents", "ttl_seconds"]
  let lint ← group top "lint" ["command"]
  let convert ← group top "convert" ["command"]
  let d : ServerConfig := {}
  return {
    lintEnabled := ← fieldOr top "enable_lint" truth? d.lintEnabled
    useBundle := ← fieldOr top "use_bundle" truth? d.useBundle
    maxDocuments := ← fieldOr store "max_documents" word? d.maxDocuments
    ttlSeconds := ← fieldOr store "ttl_seconds" word? d.ttlSeconds
    lintCommand := ← fieldOr lint "command" text? d.lintCommand
    convertCommand := ← fieldOr convert "command" text? d.convertCommand }

/-- The configuration that a text gives. -/
def ofToml? (s : String) : Option ServerConfig := (Toml.parse? s).bind ofEntries?

/-! ## The file -/

/-- Why a file gives no configuration. -/
inductive LoadError where
  | unreadable
  | malformed
  deriving DecidableEq, Repr

/-- The configuration in the file at a path, `none` when nothing is there. -/
def load (d : Directory) (path : Path) : Except LoadError (Option ServerConfig) :=
  if d.exists? path then
    match d.readText? path with
    | none => .error .unreadable
    | some text =>
      match ofToml? text with
      | none => .error .malformed
      | some c => .ok (some c)
  else .ok none

end ServerConfig

end HamlServer
