import HamlServer.Files.Tree

/-!
Runs of external programs.

An invocation is a command line with what the program reads and the directory it runs in.  Running
one either gives a finished program, with its exit status and what it wrote, or fails before the
program starts.
-/

namespace HamlServer

/-- A program to run: the words of the command line, what it reads, and the directory it runs in,
unless that is the working directory of the server. -/
structure Invocation where
  words : List String
  input : Option Bytes
  directory : Option Path
  deriving DecidableEq, Repr

namespace Invocation

/-- The command line as it is shown. -/
def commandLine (i : Invocation) : String := " ".intercalate i.words

/-- The word that names the program. -/
def program (i : Invocation) : String := i.words.headD ""

end Invocation

/-- A program that has ended: its exit status, and what it wrote to its two outputs. -/
structure Finished where
  status : Nat
  output : Bytes
  errors : Bytes
  deriving DecidableEq, Repr

namespace Finished

/-- A program succeeds when its exit status is zero. -/
def isSuccess (f : Finished) : Bool := f.status == 0

/-- What was written to the output, as text. -/
def text (f : Finished) : String := Utf8.decodeLossy f.output

end Finished

/-- Why a program does not start. -/
inductive StartError where
  | files (e : LookupError)
  | nulOctet
  deriving DecidableEq, Repr

namespace StartError

/-- The words for it. -/
def message : StartError → String
  | .files e => e.message
  | .nulOctet => "nul byte found in provided data"

end StartError

/-- Why a tool gives no result. -/
inductive ToolError where
  | notFound (program : String)
  | notStarted (commandLine : String) (cause : StartError)
  | failed (commandLine : String) (status : Nat) (errors : Option String)
  | badOutput (commandLine : String)
  deriving DecidableEq, Repr

namespace ToolError

/-- The text of an error.  Of an output that cannot be read, only the command line is told. -/
def message : ToolError → String
  | .notFound program => s!"{program} not found in PATH"
  | .notStarted commandLine cause =>
    let cause := cause.message
    s!"failed to spawn {commandLine}: {cause}"
  | .failed commandLine status none => s!"{commandLine} exited with exit status: {status}"
  | .failed commandLine status (some errors) =>
    s!"{commandLine} exited with exit status: {status}: {errors}"
  | .badOutput commandLine => commandLine

end ToolError

/-- The means to run a program. -/
abbrev Runner := Invocation → Except ToolError Finished

end HamlServer
