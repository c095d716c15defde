import HamlServer.Editor.CompletionItem
import HamlServer.Rails.Asset
import HamlServer.Template.Call

/-!
Candidates for assets.

Behind a call of an asset helper, the assets of its families are offered whose names go on from what
has been typed.  Scripts and style sheets are bundles: only files that lie directly in a directory
are offered, and without their extensions.
-/

namespace HamlServer.Suggest

open Text Template Rails

/-- The helpers of assets. -/
def assetHelpers : List String :=
  [AssetFamily.image, .javascript, .stylesheet, .video, .audio].flatMap (·.helpers)

/-- The argument of a call, which stands behind the name of the helper.  It is bare, and where
nothing else stands behind an opening parenthesis, the parenthesis itself counts as it. -/
def bareArgument? (s : List Char) : Option (List Char) :=
  match trimStart s with
  | '(' :: r => (bareText? (trimStart r)).orElse fun _ => bareText? ('(' :: r)
  | r => bareText? r

/-- A call of an asset helper with a quoted argument. -/
def quotedCallAt? (s : List Char) : Option (String × List Char) := do
  let (helper, r) ← callAt? assetHelpers s
  return (helper, ← openText? r)

/-- A call of an asset helper with a bare argument. -/
def bareCallAt? (s : List Char) : Option (String × List Char) := do
  let (helper, r) ← nameAt? assetHelpers s
  return (helper, ← bareArgument? r)

/-- The asset helper that a line calls and what has been typed of its argument.  A quoted argument
of an output line goes before a bare one, and that before a quoted one anywhere else. -/
def assetCall? (line : List Char) : Option (String × List Char) :=
  (findMatch (outputAt? quotedCallAt?) line).orElse fun _ =>
    (findMatch (outputAt? bareCallAt?) line).orElse fun _ => findWord quotedCallAt? false line

/-- The directories in which the assets of a helper are looked for. -/
def assetDirectories (helper : String) : List String :=
  firstOccurrences ((AssetFamily.servedBy helper).flatMap (·.directories))

/-- The extensions that the assets of a helper may have. -/
def assetExtensions (helper : String) : List String :=
  (AssetFamily.servedBy helper).flatMap (·.extensions)

/-- Whether a helper loads bundles. -/
def loadsBundles (helper : String) : Bool :=
  AssetFamily.javascript.helpers.contains helper || AssetFamily.stylesheet.helpers.contains helper

/-- The assets of a helper, by their paths in the directories. -/
def assetPaths (d : Directory) (root : Path) (helper : String) : List (List Char) :=
  firstOccurrences <| (assetDirectories helper).flatMap fun dir =>
    ((d.filesUnder (root.child dir) (!loadsBundles helper)).filter
      (hasExtension (assetExtensions helper))).map (·.relative)

/-- The name of an asset as the helper takes it. -/
def assetName (helper : String) (path : List Char) : List Char :=
  if loadsBundles helper then
    let file := (path.splitOn '/').getLastD []
    match cutAtLast '.' file with
    | some (stem, _) => if stem.isEmpty then file else stem
    | none => file
  else path

/-- What the assets of a helper are. -/
def assetKind (helper : String) : Option String :=
  if helper = AssetFamily.commonHelper then none
  else match AssetFamily.servedBy helper with
    | .image :: _ => some "Image"
    | .javascript :: _ => some "JavaScript"
    | .stylesheet :: _ => some "Stylesheet"
    | .audio :: _ => some "Audio"
    | .video :: _ => some "Video"
    | [] => none

/-- The candidate for an asset. -/
def assetItem (helper : String) (path : List Char) : CompletionItem :=
  let label := String.ofList path
  { label
    kind := .file
    detail := some <| match assetKind helper with
      | some kind => s!"{kind} asset: {label}"
      | none => s!"Asset: {label}"
    documentation := some s!"**File:** `{label}`"
    insertion := some (.plain (String.ofList (assetName helper path)))
    sortText := some label }

/-- The assets whose names begin with what has been typed, behind a call of an asset helper. -/
def assetItems (d : Directory) (root : Path) (line : List Char) : List CompletionItem :=
  match assetCall? line with
  | none => []
  | some (helper, typed) =>
    ((assetPaths d root helper).filter fun p => typed.isPrefixOf (assetName helper p)).map
      (assetItem helper)

end HamlServer.Suggest
