import HamlServer.CommandLine.Words
import HamlServer.Config.ServerConfig
import HamlServer.Editor.Manifest
import HamlServer.Session.State

/-!
How the server starts.

The words of the command line come first, then the environment, then the file that they name, and
last the defaults.  A flag can only be switched on: one that is off leaves what the file says.
-/

namespace HamlServer

namespace ServerConfig

/-- The configuration with what was said about the settings laid over it. -/
def overlay (c : ServerConfig) (o : Overrides) : ServerConfig :=
  { c with
    lintEnabled := c.lintEnabled || o.lintEnabled.getD false
    useBundle := c.useBundle || o.useBundle.getD false
    maxDocuments := o.maxDocuments.getD c.maxDocuments
    ttlSeconds := o.ttlSeconds.getD c.ttlSeconds }

/-- The options of a session in a working directory. -/
def options (c : ServerConfig) (root : Option Path) (cwd : Path) : Options where
  lintEnabled := c.lintEnabled
  root := root
  maxDocuments := c.maxDocuments
  ttl := c.ttlSeconds * tenPow 9
  cwd := cwd

end ServerConfig

namespace Overrides

/-- What the words of the command line and the environment say. -/
def read (words : List String) (environment : List (String × String)) : Except Halt Overrides := do
  (← ofWords words).fill environment

/-- The configuration that the settings and their file give; an error comes with the path of the
file.  A file that does not exist leaves the defaults. -/
def serverConfig (o : Overrides) (d : Directory) :
    Except (Path × ServerConfig.LoadError) ServerConfig :=
  match o.config with
  | none => .ok (ServerConfig.overlay {} o)
  | some path =>
    match ServerConfig.load d path with
    | .ok c => .ok ((c.getD {}).overlay o)
    | .error e => .error (path, e)

/-- The files once the log has been opened. -/
def openLog (o : Overrides) (d : Directory) : Directory :=
  match o.logFile with
  | some path => d.touch path
  | none => d

end Overrides

/-- The text that answers a question for the version. -/
def versionText : String := "haml-ls " ++ Manifest.version ++ "\n"

/-- The line of the help text about an option. -/
def Setting.helpLine (s : Setting) : String :=
  let value := if s.isFlag then "" else " <VALUE>"
  let origin := match s.environmentName? with
    | some name => " [env: " ++ name ++ "]"
    | none => ""
  "      --" ++ s.optionName ++ value ++ "  " ++ s.purpose ++ origin ++ "\n"

/-- The text that answers a question for help; the option that changes nothing is not told of. -/
def helpText : String :=
  "Language server for HAML templates\n\nUsage: haml-ls [OPTIONS]\n\nOptions:\n" ++
    String.join ((Setting.all.filter (· ≠ .stdio)).map Setting.helpLine) ++
    "  -h, --help  Print help\n  -V, --version  Print version\n"

/-- What the server says about a start that fails. -/
def Halt.message : Halt → String
  | .helpAsked => helpText
  | .versionAsked => versionText
  | .unknownWord word => "unexpected argument " ++ word
  | .missingValue s => "a value is required for --" ++ s.optionName
  | .needlessValue option => "no value is expected for --" ++ option
  | .repeated s => "--" ++ s.optionName ++ " cannot be used multiple times"
  | .emptyPath s => "a path is required for --" ++ s.optionName
  | .badTruth s text => "--" ++ s.optionName ++ " is true or false, not " ++ text
  | .badNumber s text => "--" ++ s.optionName ++ " is a number, not " ++ text

end HamlServer
