import HamlServer.Rails.Asset
import HamlServer.Template.Call

/-!
The files of an asset that a helper names.

A name with an extension, and any image, may lie at any depth of a directory, and then also the end
of a path is enough.  Other names get each extension of their family in turn.
-/

namespace HamlServer.Locate

open Text Template Rails

/-- The families whose helpers lead to files. -/
def linkedFamilies : List AssetFamily := [.javascript, .stylesheet, .image]

/-- A call of a helper with a quoted name, at the front of a text. -/
def assetReferenceAt? (s : List Char) : Option (AssetFamily × List Char) := do
  let (helper, r) ← callAt? (linkedFamilies.flatMap (·.helpers)) s
  let name ← closedText? r
  let family ← linkedFamilies.find? fun f => f.helpers.contains helper
  return (family, name)

/-- The asset that a line names; an output line goes before any other call. -/
def assetReference? (line : List Char) : Option (AssetFamily × List Char) :=
  (findMatch (outputAt? assetReferenceAt?) line).orElse fun _ =>
    findWord assetReferenceAt? false line

/-- The characters of an extension, in either case; the long s and the sign of the kelvin are other
cases of two of them. -/
def isExtensionChar (c : Char) : Bool :=
  c.isAlphanum || c == '\u017F' || c == '\u212A'

/-- Whether a name ends with a dot and an extension. -/
def endsWithExtension (name : List Char) : Bool :=
  let ext := name.reverse.takeWhile isExtensionChar
  !ext.isEmpty && (name.reverse.drop ext.length).head? == some '.'

/-- A path and what remains of it behind each of its slashes. -/
def pathEnds (path : List Char) : List (List Char) :=
  path :: match path with
    | [] => []
    | c :: r => if c = '/' then pathEnds r else (pathEnds r).tail

/-- The first file at any depth of a directory that a test of its path's ends accepts. -/
def firstFile? (d : Directory) (dir : Path) (accepts : List Char → Bool) : Option Path :=
  ((d.filesUnder dir true).find? fun f => (pathEnds f.relative).any accepts).map (·.path)

/-- The names that a name stands for, one for each extension of a family. -/
def withExtensions (family : AssetFamily) (name : List Char) : List (List Char) :=
  family.extensions.map fun ext => name ++ '.' :: ext.toList

/-- The file of an asset in a directory. -/
def assetIn? (d : Directory) (family : AssetFamily) (name : List Char) (dir : Path) :
    Option Path :=
  if !d.isDirectory dir then none
  else if endsWithExtension name then firstFile? d dir (· == name)
  else if family = .image then firstFile? d dir (withExtensions family name).contains
  else ((withExtensions family name).map fun n => dir.child (String.ofList n)).find? d.isFile

/-- The files of the asset that a line names, one for each directory that has it. -/
def assetFiles (d : Directory) (root : Path) (line : List Char) : List Path :=
  match assetReference? line with
  | none => []
  | some (family, name) =>
    (family.directories.map root.child).filterMap (assetIn? d family name)

end HamlServer.Locate
