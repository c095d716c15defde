import HamlServer.Tool.Invocation

/-!
A machine that runs programs: files, some of which are programs, and the directories in which
programs are looked up by name.

A program that is named with more than one component is taken from the path it names; any other name
is looked up in the directories of the search path, in their order.
-/

namespace HamlServer

/-- A program: what it does with what it reads. -/
abbrev Program := Bytes → Finished

/-- A machine. -/
structure Machine where
  directory : Directory
  programs : List (Place × Program)
  searchPath : List Path

namespace Machine

/-- The program that a path leads to. -/
def programAt? (m : Machine) (p : Path) : Option (Place × Program) :=
  match m.directory.tree.lookup m.directory.cwd p with
  | .ok (.file place _) => (m.programs.lookup place).map (place, ·)
  | _ => none

/-- The program that a word names. -/
def find? (m : Machine) (word : String) : Option (Place × Program) :=
  let p := Path.ofString word
  if word.isEmpty then none
  else if 1 < p.components.length then m.programAt? p
  else m.searchPath.findSome? fun dir => m.programAt? (dir.join p)

/-- The place of the directory that a program runs in. -/
def workingPlace (m : Machine) : Option Path → Except LookupError Place
  | none => .ok m.directory.cwd
  | some p =>
    match m.directory.tree.lookup m.directory.cwd p with
    | .ok (.directory place) => .ok place
    | .ok (.file _ _) => .error .notDirectory
    | .error e => .error e

/-- Whether some word of a command line holds an octet that ends it. -/
def hasNul (i : Invocation) : Bool :=
  i.words.any (fun w => w.toList.contains '\x00') ||
    i.directory.any fun p => p.octets.contains 0

/-- A run that took place: the program, its directory, and how it ended. -/
structure Run where
  program : Place
  directory : Place
  finished : Finished

/-- Starts a program and waits for its end. -/
def start (m : Machine) (i : Invocation) : Except ToolError Run :=
  match m.find? i.program with
  | none => .error (.notFound i.program)
  | some (program, behaviour) =>
    if hasNul i then .error (.notStarted i.commandLine .nulOctet)
    else match m.workingPlace i.directory with
      | .error e => .error (.notStarted i.commandLine (.files e))
      | .ok directory => .ok ⟨program, directory, behaviour (i.input.getD [])⟩

/-- The means to run the programs of a machine. -/
def runner (m : Machine) : Runner := fun i => (m.start i).map (·.finished)

end Machine

end HamlServer
