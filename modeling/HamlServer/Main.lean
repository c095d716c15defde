import HamlServer.CommandLine.Startup
import HamlServer.Session.Connection

/-!
The program: a session on the standard streams.

Files are read anew for every message.  No programs are run here, so every tool counts as one that
is not installed.
-/

namespace HamlServer.Program

/-- The directories of a project that are looked into. -/
def consulted : List String := ["app", "config", "public", "vendor"]

/-- The place of an absolute path. -/
def placeOf (path : String) : Place :=
  ((Path.ofString path).octets.splitOn slash).foldl stepPlace []
where
  stepPlace := FileTree.stepPlace

/-- Adds a file of the disk to a tree. -/
def addFile (t : FileTree) (place : Place) (path : String) : IO FileTree := do
  try
    let content ← IO.FS.readBinFile path
    return t.write place content.toList
  catch _ => return t

/-- Adds a directory of the disk to a tree, down to a depth. -/
def addDirectory : Nat → FileTree → Place → IO.FS.DirEntry → IO FileTree
  | 0, t, _, _ => return t
  | depth + 1, t, place, entry => do
    try
      let t := t.makeDirectory place
      (← entry.path.readDir).foldlM (fun t e => do
        let place := place ++ [Utf8.encode e.fileName]
        match (← e.path.metadata).type with
        | .dir => addDirectory depth t place e
        | .file => addFile t place e.path.toString
        | _ => return t) t
    catch _ => return t

/-- The depth to which directories are read. -/
def maxDepth : Nat := 64

/-- The files of a project: those at its top, and those of the directories that are looked into. -/
def addProject (t : FileTree) (root : String) : IO FileTree := do
  let t ← addTop t
  consulted.foldlM (fun t name =>
    addDirectory maxDepth t (placeOf (root ++ "/" ++ name)) ⟨root, name⟩) t
where
  addTop (t : FileTree) : IO FileTree := do
    let t := t.makeDirectory (placeOf root)
    try
      let top : IO.FS.DirEntry := ⟨root, ""⟩
      (← top.path.readDir).foldlM (fun t e => do
        match (← e.path.metadata).type with
        | .file => addFile t (placeOf (root ++ "/" ++ e.fileName)) e.path.toString
        | _ => return t) t
    catch _ => return t

/-- An absolute path for one that may be relative. -/
def absolute (cwd : String) (p : Path) : String :=
  ((Path.ofString cwd).join p).display

/-- The files that the server sees from a working directory. -/
def files (o : Overrides) (cwd : String) : IO Directory := do
  let t ← addProject .empty cwd
  let t ← match o.root with
    | some root => addProject t (absolute cwd root)
    | none => pure t
  let t ← match o.config with
    | some config => addFile t (placeOf (absolute cwd config)) (absolute cwd config)
    | none => pure t
  return ⟨t, placeOf cwd⟩

/-- The environment, as far as it makes settings. -/
def environment : IO (List (String × String)) :=
  (Setting.all.filterMap Setting.environmentName?).filterMapM fun name => do
    return (← IO.getEnv name).map (name, ·)

/-- Opens the log. -/
def openLog (o : Overrides) (cwd : String) : IO Unit := do
  if let some path := o.logFile then
    try
      let _ ← IO.FS.Handle.mk (absolute cwd path) .append
    catch _ => IO.eprintln "the log file cannot be opened"

/-- Writes the messages of a step. -/
def send (output : IO.FS.Stream) (effects : List Effect) : IO Unit := do
  for e in effects do
    if let .write m := e then
      output.write ⟨(Frame.encode m.toJson).toArray⟩
  output.flush

/-- What a session meets at this moment. -/
def world (launcher : Launcher) (d : Directory) : IO World := do
  let now ← IO.monoNanosNow
  return ⟨d, .external launcher fun i => .error (.notFound i.program), fun k => now + k⟩

/-- Serves until the session ends, and gives the exit code. -/
partial def converse (look : IO World) (o : Options) (input output : IO.FS.Stream)
    (c : Connection) : IO UInt32 := do
  match c.ending with
  | some (.exit code) => return UInt32.ofNat code
  | some _ => return 1
  | none =>
    let octets ← input.read (USize.ofNat (Frame.missing c.pending))
    let c := { c with pending := c.pending ++ octets.toList }
    if !octets.isEmpty && Frame.isUnfinished c.pending then converse look o input output c
    else
      let w ← look
      let (c, effects) := if octets.isEmpty then c.finish o w else c.receive o w []
      send output effects
      converse look o input output c

/-- Starts the server with the words of the command line. -/
def run (words : List String) : IO UInt32 := do
  match Overrides.read words (← environment) with
  | .error h =>
    if h.exitCode = 0 then IO.print h.message else IO.eprintln h.message
    return UInt32.ofNat h.exitCode
  | .ok o =>
    let cwd := (← IO.currentDir).toString
    openLog o cwd
    match o.serverConfig (← files o cwd) with
    | .error (path, _) =>
      IO.eprintln ("the settings cannot be read: " ++ path.display)
      return 1
    | .ok config =>
      let look := do world config.launcher (← files o cwd)
      let options := config.options o.root (.ofString cwd)
      converse look options (← IO.getStdin) (← IO.getStdout) (.start options none)

end HamlServer.Program

/-- The server on the standard streams. -/
def main (words : List String) : IO UInt32 := do
  try HamlServer.Program.run words
  catch _ => return 1
