import HamlServer.Files.Tree
import HamlServer.KeyedList
import HamlServer.Yaml.Value

/-!
The configuration of the linters.

Every linter is enabled or not and has options.  The project's file is laid over the built-in
settings: what it says about a linter or an option holds, and all else stays as it was.  The file is
the first that exists among four places; if it cannot be read, the built-in settings hold, but the
file is still the one that the external linter is told of.
-/

namespace HamlServer

/-- The settings of a linter. -/
structure Linter where
  enabled : Bool := true
  options : List (String × Yaml.Value) := []

/-- What a file says about a linter. -/
structure LinterEntry where
  enabled : Option Bool := none
  options : List (String × Yaml.Value) := []

namespace Linter

/-- The settings with what a file says laid over them. -/
def overlay (l : Linter) (e : LinterEntry) : Linter where
  enabled := e.enabled.getD l.enabled
  options := e.options.foldl (fun acc (k, v) => setKey k v acc) l.options

end Linter

/-- The configuration of the linters, and the file that it comes from. -/
structure LintConfig where
  path : Option Path
  linters : List (String × Linter)

namespace LintConfig

/-- The built-in linters. -/
def builtin : List (String × Linter) := [
  ("TrailingWhitespace", {}),
  ("ClassesBeforeIds", { options := [("EnforcedStyle", .string "class")] }),
  ("SpaceBeforeScript", {}),
  ("LeadingCommentSpace", {}),
  ("HtmlAttributes", {}),
  ("Indentation", { options := [("character", .string "space"), ("width", .int 2)] }),
  ("TrailingEmptyLines", {}),
  ("FinalNewline", { options := [("present", .bool true)] })]

/-- The built-in configuration. -/
def default : LintConfig := ⟨none, builtin⟩

instance : Inhabited LintConfig := ⟨default⟩

/-- The settings of a linter. -/
def linter? (c : LintConfig) (name : String) : Option Linter := c.linters.lookup name

/-- Whether a linter is enabled; one that nothing is known of is not. -/
def isEnabled (c : LintConfig) (name : String) : Bool := (c.linter? name).any (·.enabled)

/-- The option of a linter. -/
def option? (c : LintConfig) (name key : String) : Option Yaml.Value :=
  (c.linter? name).bind (·.options.lookup key)

/-- The option of a linter, if it is a string. -/
def string? (c : LintConfig) (name key : String) : Option String :=
  (c.option? name key).bind Yaml.Value.string?

/-- The option of a linter, if it is a natural number. -/
def nat? (c : LintConfig) (name key : String) : Option Nat :=
  (c.option? name key).bind Yaml.Value.nat?

/-- The option of a linter, if it is a truth value. -/
def bool? (c : LintConfig) (name key : String) : Option Bool :=
  (c.option? name key).bind Yaml.Value.bool?

/-- The linters with what a file says about one of them laid over; a linter that is not built in is
disabled unless the file enables it. -/
def overlayEntry (linters : List (String × Linter)) (name : String) (e : LinterEntry) :
    List (String × Linter) :=
  setKey name (((linters.lookup name).getD { enabled := false }).overlay e) linters

/-- The built-in linters with what a file says laid over them. -/
def ofEntries (entries : List (String × LinterEntry)) : LintConfig :=
  ⟨none, entries.foldl (fun acc (name, e) => overlayEntry acc name e) builtin⟩

/-! ## The file -/

open Yaml

/-- The number of collections that may stand inside each other in a file. -/
def maxNesting : Nat := 128

/-- The number of aliases that may be followed for each event of a document. -/
def aliasesPerEvent : Nat := 100

/-- The text of a key: any scalar as it is written. -/
def keyText (d : Document) (key : Node) : Reading String := do
  match ← d.resolve key with
  | .scalar text _ _ => return text
  | _ => failure

/-- The entries of a map; nothing written counts as a map without entries. -/
def mapEntries (d : Document) (n : Node) : Reading (List (String × Node)) := do
  match ← d.resolve n with
  | .map entries _ => entries.mapM fun (k, v) => do return (← keyText d k, v)
  | .scalar "" .plain _ => return []
  | _ => failure

/-- Whether a plain scalar is null, by its text and its tag. -/
def isNullScalar (text : String) : Option String → Option Bool
  | none => some (text.isEmpty || isNull text)
  | some tag =>
    if tag = standardTag "null" then (if isNull text then some true else none) else some false

/-- A truth value that may be null. -/
def optionalTruth (d : Document) (n : Node) : Reading (Option Bool) := do
  match ← d.resolve n with
  | .scalar text style tag =>
    if style = .plain then
      match isNullScalar text tag with
      | none => failure
      | some true => return none
      | some false => return some (← StateT.lift (truth? text))
    else if style = .literal && tag == some (standardTag "bool") then
      return some (← StateT.lift (truth? text))
    else failure
  | _ => failure

/-- What the entries of a map say about a linter: `enabled` at most once, and of two options with
the same name the later. -/
def readLinter (d : Document) (depth : Nat) : LinterEntry → Bool → List (String × Node) →
    Reading LinterEntry
  | e, _, [] => return e
  | e, seen, ("enabled", v) :: rest => do
    if seen then failure
    readLinter d depth { e with enabled := ← optionalTruth d v } true rest
  | e, seen, (key, v) :: rest => do
    readLinter d depth { e with options := setKey key (← d.value depth v) e.options } seen rest

/-- What a map says about each linter; of two entries for the same linter the later holds. -/
def readLinters (d : Document) (depth : Nat) (n : Node) : Reading (List (String × LinterEntry)) := do
  (← mapEntries d n).foldlM (fun acc (name, v) => do
    return setKey name (← readLinter d depth {} false (← mapEntries d v)) acc) []

/-- What a document says about the linters: its entry `linters`, which may stand once.  All other
entries are passed over. -/
def readDocument (d : Document) : Reading (List (String × LinterEntry)) := do
  let some root := d.root | return []
  if let .scalar text .plain tag := root then
    match isNullScalar text tag with
    | none => failure
    | some true => return []
    | some false => pure ()
  let found := (← mapEntries d root).filter (·.1 == "linters")
  match found with
  | [] => return []
  | [(_, v)] => readLinters d (maxNesting - 3) v
  | _ => failure

/-- Reads a file and lays it over the built-in settings. -/
def ofYaml? (s : String) : Option LintConfig := do
  let d ← Document.parse? s
  let (entries, _) ← (readDocument d).run (aliasesPerEvent * d.size)
  return ofEntries entries

/-! ## Discovery -/

/-- The names of the file, taken from a directory. -/
def fileNames : List String := [".haml-lint.yml", "config/haml-lint.yml"]

/-- The places of the file: in the root of the project, then in the working directory. -/
def candidates (root : Option Path) (cwd : Path) : List Path :=
  (root.toList ++ [cwd]).flatMap fun base => fileNames.map base.child

/-- Why a file gives no configuration. -/
inductive LoadError where
  | unreadable
  | malformed
  deriving DecidableEq, Repr

/-- Reads the file at a path. -/
def load (d : Directory) (path : Path) : Except LoadError LintConfig :=
  match d.readText? path with
  | none => .error .unreadable
  | some text =>
    match ofYaml? text with
    | none => .error .malformed
    | some c => .ok { c with path := some path }

/-- The configuration of a project. -/
def discover (d : Directory) (root : Option Path) (cwd : Path) : LintConfig :=
  match (candidates root cwd).find? d.isFile with
  | none => default
  | some path =>
    match load d path with
    | .ok c => c
    | .error _ => { default with path := some path }

end LintConfig

end HamlServer
