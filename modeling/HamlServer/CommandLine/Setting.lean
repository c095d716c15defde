import HamlServer.Files.Path
import HamlServer.Text.Digits

/-!
The settings that can be made when the server is started.

A setting is made by an option of the command line or by a variable of the environment, each at most
once.  Its text is read by the kind of the setting.
-/

namespace HamlServer

/-- A setting. -/
inductive Setting where
  | config
  | root
  | lintEnabled
  | useBundle
  | maxDocuments
  | ttlSeconds
  | logFile
  | stdio
  deriving DecidableEq, Repr

namespace Setting

/-- The settings in the order of the help text. -/
def all : List Setting :=
  [.config, .root, .lintEnabled, .useBundle, .maxDocuments, .ttlSeconds, .logFile, .stdio]

/-- The name of the option that makes a setting. -/
def optionName : Setting → String
  | .config => "config"
  | .root => "root"
  | .lintEnabled => "enable-lint"
  | .useBundle => "use-bundle"
  | .maxDocuments => "max-documents"
  | .ttlSeconds => "ttl-seconds"
  | .logFile => "log-file"
  | .stdio => "stdio"

/-- The setting that an option makes. -/
def ofOptionName? (name : String) : Option Setting := all.find? fun s => s.optionName == name

/-- The variable that makes a setting; the transport has none. -/
def environmentName? : Setting → Option String
  | .config => some "HAML_LS_CONFIG"
  | .root => some "HAML_LS_ROOT"
  | .lintEnabled => some "HAML_LS_ENABLE_LINT"
  | .useBundle => some "HAML_LS_USE_BUNDLE"
  | .maxDocuments => some "HAML_LS_MAX_DOCUMENTS"
  | .ttlSeconds => some "HAML_LS_TTL_SECONDS"
  | .logFile => some "HAML_LS_LOG_FILE"
  | .stdio => none

/-- Whether the option of a setting stands alone; all others take a value. -/
def isFlag : Setting → Bool
  | .lintEnabled | .useBundle | .stdio => true
  | _ => false

/-- What a setting is for. -/
def purpose : Setting → String
  | .config => "Server settings file (TOML)"
  | .root => "Workspace root. Takes precedence over the root sent by the editor"
  | .lintEnabled => "Run haml-lint on open, change and save and publish diagnostics"
  | .useBundle => "Run external tools through the bundle of the project"
  | .maxDocuments => "Maximum number of open documents kept in memory"
  | .ttlSeconds => "Seconds an untouched document stays in memory"
  | .logFile => "Write logs to this file instead of stderr"
  | .stdio => "Speak over the standard streams, as always"

/-- Every setting is found by the name of its option. -/
theorem ofOptionName?_optionName (s : Setting) : ofOptionName? s.optionName = some s := by
  cases s <;> decide

end Setting

/-- Why the server does not start to serve. -/
inductive Halt where
  | helpAsked
  | versionAsked
  | unknownWord (word : String)
  | missingValue (s : Setting)
  | needlessValue (option : String)
  | repeated (s : Setting)
  | emptyPath (s : Setting)
  | badTruth (s : Setting) (text : String)
  | badNumber (s : Setting) (text : String)
  deriving DecidableEq, Repr

/-- The exit code: only a question that was answered is no failure. -/
def Halt.exitCode : Halt → Nat
  | .helpAsked => 0
  | .versionAsked => 0
  | _ => 2

/-- What was said about the settings. -/
structure Overrides where
  config : Option Path := none
  root : Option Path := none
  lintEnabled : Option Bool := none
  useBundle : Option Bool := none
  maxDocuments : Option Nat := none
  ttlSeconds : Option Nat := none
  logFile : Option Path := none
  stdio : Option Bool := none
  deriving DecidableEq, Repr, Inhabited

namespace Overrides

/-- Whether something was said about a setting. -/
def has (o : Overrides) : Setting → Bool
  | .config => o.config.isSome
  | .root => o.root.isSome
  | .lintEnabled => o.lintEnabled.isSome
  | .useBundle => o.useBundle.isSome
  | .maxDocuments => o.maxDocuments.isSome
  | .ttlSeconds => o.ttlSeconds.isSome
  | .logFile => o.logFile.isSome
  | .stdio => o.stdio.isSome

/-- A path, which must not be empty. -/
def readPath (s : Setting) (text : String) : Except Halt Path :=
  if text.isEmpty then .error (.emptyPath s) else .ok (.ofString text)

/-- A truth value, in one spelling each. -/
def readTruth (s : Setting) (text : String) : Except Halt Bool :=
  if text = "true" then .ok true
  else if text = "false" then .ok false
  else .error (.badTruth s text)

/-- A number that fits a word of 64 bits. -/
def readNumber (s : Setting) (text : String) : Except Halt Nat :=
  match Text.word? text.toList with
  | some n => .ok n
  | none => .error (.badNumber s text)

/-- Takes the text of a setting. -/
def put (o : Overrides) (s : Setting) (text : String) : Except Halt Overrides :=
  match s with
  | .config => (readPath s text).map fun p => { o with config := some p }
  | .root => (readPath s text).map fun p => { o with root := some p }
  | .lintEnabled => (readTruth s text).map fun b => { o with lintEnabled := some b }
  | .useBundle => (readTruth s text).map fun b => { o with useBundle := some b }
  | .maxDocuments => (readNumber s text).map fun n => { o with maxDocuments := some n }
  | .ttlSeconds => (readNumber s text).map fun n => { o with ttlSeconds := some n }
  | .logFile => (readPath s text).map fun p => { o with logFile := some p }
  | .stdio => (readTruth s text).map fun b => { o with stdio := some b }

/-- Takes the text of a setting that nothing was said about. -/
def add (o : Overrides) (s : Setting) (text : String) : Except Halt Overrides :=
  if o.has s then .error (.repeated s) else o.put s text

/-- Fills the gaps from the environment.  A variable counts only for a setting that nothing was said
about before. -/
def fill (o : Overrides) (environment : List (String × String)) : Except Halt Overrides :=
  Setting.all.foldlM (fun o s =>
    match s.environmentName?.bind (environment.lookup ·) with
    | some text => if o.has s then .ok o else o.put s text
    | none => .ok o) o

end Overrides

end HamlServer
