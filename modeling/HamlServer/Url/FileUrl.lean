import HamlServer.Decimal.Power
import HamlServer.Files.Path
import HamlServer.Text.Line
import HamlServer.Url.Host
import HamlServer.Url.PathState

/-!
File URLs and the paths they name.

`ofPath?` writes the URL of an absolute path.  `toPath?` reads a URL as the URL standard lays down
and gives the path that it names on this machine: a URL with a host other than `localhost`, or whose
path does not start at the root, names none.  `documentPath` takes any other document identifier as
a plain path.
-/

namespace HamlServer.Url

/-- The URL of an absolute path; a relative path has none. -/
def ofPath? (p : Path) : Option String :=
  if p.isAbsolute then
    let segments := (p.components.drop 1).map fun c => '/' :: Percent.encodeSegment c.octets
    let path := if segments.isEmpty then ['/'] else segments.flatten
    some (String.ofList ("file://".toList ++ path))
  else none

/-- A URL without the controls and spaces around it. -/
def strip (s : List Char) : List Char :=
  let outer (c : Char) : Bool := c.toNat ≤ 0x20
  ((s.dropWhile outer).reverse.dropWhile outer).reverse

/-- The characters of a URL that count. -/
def clean (s : List Char) : List Char := s.filter fun c => !isPassedOver c

/-- The first character of a URL that counts, and what follows. -/
def next? (s : List Char) : Option (Char × List Char) :=
  match s.dropWhile isPassedOver with
  | c :: r => some (c, r)
  | [] => none

/-- The characters of a scheme after the first. -/
def isSchemeChar (c : Char) : Bool := c.isAlphanum || c == '+' || c == '-' || c == '.'

/-- The scheme in lower case, and what follows its colon. -/
def scheme? (s : List Char) : Option (String × List Char) :=
  let name := s.takeWhile fun c => isSchemeChar c || isPassedOver c
  match clean name, s.drop name.length with
  | c :: r, ':' :: rest =>
    if c.isAlpha then some (String.ofList ((c :: r).map Char.toLower), rest) else none
  | _, _ => none

/-- The path of a file URL behind its two slashes: its host, if it has one, must be this machine,
unless a drive letter follows it. -/
def filePathAfterSlashes (s : List Char) : Option (List Char) := do
  let authority := s.takeWhile fun c => !Scheme.endsAuthority .file c
  let rest := s.drop authority.length
  let host := clean authority
  if isDriveLetter host then return (parsePath .file ['/'] false s).built
  if host.isEmpty then return (parsePath .file [] false rest).built
  if (← Host.parse? host).isThisMachine then return (parsePath .file [] false rest).built
  let rest := match rest with
    | c :: r => if Scheme.isSlash .file c then r else c :: r
    | [] => []
  let state := parsePath .file ['/'] true rest
  if state.hasHost then none else return state.built

/-- The path of a file URL. -/
def filePath (s : List Char) : Option (List Char) :=
  match next? s with
  | some (a, r) =>
    if Scheme.isSlash .file a then
      match next? r with
      | some (b, r) =>
        if Scheme.isSlash .file b then filePathAfterSlashes r
        else some (parsePath .file [] false s).built
      | none => some (parsePath .file [] false s).built
    else some (parsePath .file ['/'] false s).built
  | none => some (parsePath .file ['/'] false s).built

/-- The part of an authority behind the user and password, and whether it names any; `none` when
they stand without a host. -/
def dropUser (scheme : Scheme) (s : List Char) : Option (Bool × List Char) :=
  let authority := s.takeWhile fun c => !scheme.endsAuthority c
  let rest := s.drop authority.length
  match Text.cutAtLast '@' authority with
  | none => some (false, s)
  | some (user, host) =>
    if user.isEmpty && host.isEmpty && !rest.isEmpty then none
    else some (!(user == [] || user == [':']), host ++ rest)

/-- The part of a URL behind a port; the port has to be a number below `2 ^ 16`. -/
def dropPort (s : List Char) : Option (List Char) :=
  match s with
  | ':' :: r =>
    let port := r.takeWhile Char.isDigit
    let rest := r.drop port.length
    let fits := port.foldl (fun n c => 10 * n + (c.toNat - 48)) 0 < twoPow 16
    let ends := match rest with
      | [] => true
      | c :: _ => c == '/' || c == '\\' || c == '?' || c == '#'
    if fits && ends then some rest else none
  | s => some s

/-- The path behind an authority that names no host or this machine. -/
def pathAfterAuthority (scheme : Scheme) (s : List Char) : Option (List Char) := do
  let (user, s) ← dropUser scheme s
  let host := s.takeWhile fun c => !scheme.endsAuthority c && c != ':'
  let rest := s.drop host.length
  if host.isEmpty then
    if scheme.isSpecial || user || rest.head? == some ':' then none
  else if scheme.isSpecial then
    if !(Host.parse? host).any Host.isThisMachine then none
  else if host != Host.thisMachine then none
  let rest ← dropPort rest
  if scheme.isSpecial then
    let rest := match rest with
      | c :: r => if scheme.isSlash c then r else c :: r
      | [] => []
    return (parsePath scheme ['/'] true rest).built
  else match rest with
    | [] => none
    | '?' :: _ => none
    | '#' :: _ => none
    | '/' :: _ => return (parsePath scheme [] true rest).built
    | _ => return (parsePath scheme ['/'] true rest).built

/-- The path part of a URL that names a place on this machine. -/
def localPath? (s : List Char) : Option (List Char) := do
  let (name, rest) ← scheme? (strip s)
  let scheme := Scheme.ofName name
  match scheme with
  | .file => filePath rest
  | .special => pathAfterAuthority scheme ((clean rest).dropWhile scheme.isSlash)
  | .other =>
    match clean rest with
    | '/' :: '/' :: r => pathAfterAuthority scheme r
    | '/' :: r => some (parsePath scheme ['/'] false r).built
    | _ => none

/-- A path that ends with a drive letter gets a slash behind it. -/
def closeDriveLetter (b : Bytes) : Bytes :=
  match b.reverse with
  | mark :: letter :: _ :: _ =>
    let isLetter := (65 ≤ letter && letter ≤ 90) || (97 ≤ letter && letter ≤ 122)
    if isLetter && (mark == 58 || mark == 124) then b ++ [slash] else b
  | _ => b

/-- The path that a URL names on this machine. -/
def toPath? (uri : String) : Option Path :=
  (localPath? uri.toList).map fun path =>
    ⟨closeDriveLetter (Percent.decode (Utf8.encode (String.ofList path)))⟩

/-- The path of a document: that of its URL, or the identifier itself. -/
def documentPath (uri : String) : Path := (toPath? uri).getD (.ofString uri)

end HamlServer.Url
