/-!
The path of a URL.

A path is built segment by segment.  `.` and `..`, also with their dots percent-encoded, are carried
out while it is built.  A Windows drive letter is never left by `..`; directly under the root of a
file URL its second character becomes a colon.
-/

namespace HamlServer.Url

/-- The kinds of scheme that differ in how the rest is read. -/
inductive Scheme where
  | file
  | special
  | other
  deriving DecidableEq, Repr

namespace Scheme

/-- The kind of a scheme given in lower case. -/
def ofName (name : String) : Scheme :=
  if name = "file" then .file
  else if ["http", "https", "ws", "wss", "ftp"].contains name then .special
  else .other

/-- Special schemes read a backslash as a slash. -/
def isSpecial : Scheme → Bool
  | .other => false
  | _ => true

/-- Whether a character separates segments. -/
def isSlash (s : Scheme) (c : Char) : Bool := c == '/' || (s.isSpecial && c == '\\')

/-- Whether a character ends the part of a URL in front of the path. -/
def endsAuthority (s : Scheme) (c : Char) : Bool := s.isSlash c || c == '?' || c == '#'

end Scheme

/-- Tabs and line ends, which do not count anywhere in a URL. -/
def isPassedOver (c : Char) : Bool := c == '\t' || c == '\n' || c == '\r'

/-- A letter and a colon or a bar, and nothing else. -/
def isDriveLetter : List Char → Bool
  | [a, b] => a.isAlpha && (b == ':' || b == '|')
  | _ => false

/-- Whether a text starts with a drive letter that something ends. -/
def startsWithDriveLetter : List Char → Bool
  | a :: b :: r =>
    a.isAlpha && (b == ':' || b == '|') &&
      (match r with
        | [] => true
        | c :: _ => c == '/' || c == '\\' || c == '?' || c == '#')
  | _ => false

/-- What the dots of a segment mean. -/
inductive Dots where
  | none
  | single
  | double
  deriving DecidableEq

/-- A segment with its encoded dots written as dots. -/
def decodeDots : List Char → List Char
  | '%' :: '2' :: 'e' :: r => '.' :: decodeDots r
  | '%' :: '2' :: 'E' :: r => '.' :: decodeDots r
  | c :: r => c :: decodeDots r
  | [] => []

/-- What a segment says about the directory. -/
def dots (segment : List Char) : Dots :=
  match decodeDots segment with
  | ['.'] => .single
  | ['.', '.'] => .double
  | _ => .none

/-- The part of a path up to and with its last slash. -/
def upToSlash (path : List Char) : List Char := (path.reverse.dropWhile (· != '/')).reverse

/-- The part of a path behind its last slash. -/
def behindSlash (path : List Char) : List Char := (path.reverse.takeWhile (· != '/')).reverse

/-- Leaves the last directory of a path that ends with a slash; the root and a drive letter are not
left. -/
def leaveDirectory (path : List Char) : List Char :=
  let closed := path.dropLast
  if closed.contains '/' && !startsWithDriveLetter (behindSlash closed ++ ['/']) then
    upToSlash closed
  else path

/-- A path with a slash at its end. -/
def ensureSlash (path : List Char) : List Char :=
  if path.getLast? = some '/' then path else path ++ ['/']

/-- A path under construction, and whether the URL has a host. -/
structure PathState where
  built : List Char
  hasHost : Bool

/-- Adds an ordinary segment.  Directly under the root of a file URL a drive letter gets its colon
and takes the host away. -/
def PathState.push (scheme : Scheme) (s : PathState) (segment : List Char) (slash : Bool) :
    PathState :=
  let tail := if slash then ['/'] else []
  match segment with
  | [a, b] =>
    if scheme = .file ∧ s.built.length = 1 ∧ isDriveLetter [a, b] then
      ⟨s.built ++ [a, ':'] ++ tail, false⟩
    else ⟨s.built ++ segment ++ tail, s.hasHost⟩
  | _ => ⟨s.built ++ segment ++ tail, s.hasHost⟩

/-- Adds a segment; `slash` says whether a slash ends it. -/
def PathState.add (scheme : Scheme) (s : PathState) (segment : List Char) (slash : Bool) :
    PathState :=
  match dots segment with
  | .double =>
    let path := leaveDirectory s.built
    { s with built := if slash then ensureSlash path else path }
  | .single => { s with built := ensureSlash s.built }
  | .none => s.push scheme segment slash

/-- Whether a segment, read backwards, is a drive letter with a colon directly under the root of a
file URL. -/
def PathState.isAtDrive (scheme : Scheme) (s : PathState) : List Char → Bool
  | [':', a] => scheme == .file && s.built.length == 1 && a.isAlpha
  | _ => false

/-- Reads the segments up to a query or fragment; `segment` is the part of a segment that has been
read, backwards.  What does not count in a URL parts a drive letter from what follows it in its
segment, as a slash does: `parted` tells that it stands in front. -/
def readPath (scheme : Scheme) (s : PathState) (parted : Bool) (segment : List Char) :
    List Char → PathState
  | [] => s.add scheme segment.reverse false
  | c :: r =>
    if isPassedOver c then readPath scheme s true segment r
    else if scheme.isSlash c then readPath scheme (s.add scheme segment.reverse true) false [] r
    else if c == '?' || c == '#' then s.add scheme segment.reverse false
    else
      let segment := if parted && s.isAtDrive scheme segment then '/' :: segment else segment
      readPath scheme s false (c :: segment) r

/-- The path of a file URL starts with one slash. -/
def oneSlash (path : List Char) : List Char := '/' :: path.dropWhile (· == '/')

/-- Reads a path that continues `built`. -/
def parsePath (scheme : Scheme) (built : List Char) (hasHost : Bool) (input : List Char) :
    PathState :=
  let s := readPath scheme ⟨built, hasHost⟩ false [] input
  if scheme = .file then { s with built := oneSlash s.built } else s

end HamlServer.Url
