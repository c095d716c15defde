import HamlServer.Text.Blank
import HamlServer.Tool.Report
import HamlServer.Tool.Invocation

/-!
The external tools: the linter, the converter and the route lister.

Each tool is a command line and a way to read what the program leaves behind.  A tool may be run
through the bundle of the project.
-/

namespace HamlServer

/-- How the commands of the tools are formed. -/
structure Launcher where
  lintCommand : String := "haml-lint"
  convertCommand : String := "html2haml"
  useBundle : Bool := false
  deriving DecidableEq, Repr

/-- A document as it is given to the linter: its path and text, the configuration of the linter, and
the directory that the linter runs in. -/
structure LintJob where
  path : Path
  content : String
  config : Option Path
  root : Option Path
  deriving DecidableEq, Repr

namespace Launcher

/-- A command line, run through the bundle where that is asked for. -/
def words (l : Launcher) (command : List String) : List String :=
  (if l.useBundle then ["bundle", "exec"] else []) ++ command

/-- The command line of the linter in one of its modes. -/
def lintWords (l : Launcher) (mode : List String) (job : LintJob) : List String :=
  l.words ([l.lintCommand] ++ mode ++ ["--stdin", job.path.display] ++
    match job.config with
    | some config => ["--config", config.display]
    | none => [])

/-- A run of the linter. -/
def lintRun (l : Launcher) (mode : List String) (job : LintJob) : Invocation :=
  ⟨l.lintWords mode job, some (Utf8.encode job.content), job.root⟩

/-- The run that lists the findings of a document. -/
def findingsRun (l : Launcher) (job : LintJob) : Invocation :=
  l.lintRun ["--reporter", "json"] job

/-- The run that corrects a document. -/
def correctionRun (l : Launcher) (job : LintJob) : Invocation :=
  l.lintRun ["--auto-correct-only", "--stderr"] job

/-- The run that converts a fragment of markup. -/
def conversionRun (l : Launcher) (source : String) : Invocation :=
  ⟨l.words [l.convertCommand, "--erb"], some (Utf8.encode source), none⟩

/-- The run that lists the routes of a project. -/
def listingRun (l : Launcher) (root : Path) : Invocation :=
  ⟨l.words ["rails", "routes", "--expanded"], none, some root⟩

end Launcher

/-- The failure of a program, with what it wrote as errors. -/
def Finished.failure (f : Finished) (i : Invocation) : ToolError :=
  .failed i.commandLine f.status (some (Text.trimString (Utf8.decodeLossy f.errors)))

/-- What the linter found.  A report counts whatever the exit status; only a blank output of a
program that failed is a failure of it. -/
def Finished.findings (f : Finished) (i : Invocation) : Except ToolError (List Diagnostic) :=
  if Text.isBlankText f.text.toList && !f.isSuccess then .error (f.failure i)
  else match Report.parse? f.text with
    | some ds => .ok ds
    | none => .error (.badOutput i.commandLine)

/-- The corrected text; a program that succeeds and writes nothing leaves the text as it was. -/
def Finished.correction (f : Finished) (i : Invocation) (content : String) :
    Except ToolError String :=
  if f.output.isEmpty then (if f.isSuccess then .ok content else .error (f.failure i))
  else .ok f.text

/-- The converted text, without white space at its end. -/
def Finished.conversion (f : Finished) (i : Invocation) : Except ToolError String :=
  if f.isSuccess then .ok (Text.trimEndString f.text) else .error (f.failure i)

/-- The listing of the routes. -/
def Finished.listing (f : Finished) (i : Invocation) : Except ToolError String :=
  if f.isSuccess then .ok f.text else .error (.failed i.commandLine f.status none)

/-- The tools that the server relies on, as functions of what they are given. -/
structure Tools where
  findings : LintJob → Except ToolError (List Diagnostic)
  correction : LintJob → Except ToolError String
  conversion : String → Except ToolError String
  listing : Path → Except ToolError String

/-- The tools as external programs. -/
def Tools.external (l : Launcher) (run : Runner) : Tools where
  findings job := do (← run (l.findingsRun job)).findings (l.findingsRun job)
  correction job := do (← run (l.correctionRun job)).correction (l.correctionRun job) job.content
  conversion source := do
    (← run (l.conversionRun source)).conversion (l.conversionRun source)
  listing root := do (← run (l.listingRun root)).listing (l.listingRun root)

/-- What is asked of a tool. -/
inductive ToolCall where
  | findings (job : LintJob)
  | correction (job : LintJob)
  | conversion (source : String)
  | listing (root : Path)
  deriving DecidableEq, Repr

/-- The run that answers a call. -/
def ToolCall.run (l : Launcher) : ToolCall → Invocation
  | .findings job => l.findingsRun job
  | .correction job => l.correctionRun job
  | .conversion source => l.conversionRun source
  | .listing root => l.listingRun root

end HamlServer
