import HamlServer.Files.Scan
import HamlServer.Text.Line

/-!
Assets: files that templates refer to through helpers.

Helpers come in families; a family has directories that are searched in order, and extensions that
its files have.
-/

namespace HamlServer.Rails

open Text

/-- A family of assets. -/
inductive AssetFamily where
  | image
  | javascript
  | stylesheet
  | audio
  | video
  deriving DecidableEq, Repr

namespace AssetFamily

/-- The directories of a family, taken from the root. -/
def directories : AssetFamily → List String
  | .image => ["app/assets/images", "app/javascript/images", "public/images", "public/assets",
    "vendor/assets/images"]
  | .javascript => ["app/assets/javascripts", "app/javascript", "app/javascript/packs",
    "app/frontend", "app/frontend/javascripts", "public/javascripts", "public/assets",
    "vendor/assets/javascripts"]
  | .stylesheet => ["app/assets/stylesheets", "app/javascript/stylesheets",
    "app/javascript/styles", "app/frontend", "app/frontend/stylesheets", "public/stylesheets",
    "public/assets", "vendor/assets/stylesheets"]
  | .audio => ["app/assets/audios", "public/audios", "public/assets"]
  | .video => ["app/assets/videos", "public/videos", "public/assets"]

/-- The extensions of a family. -/
def extensions : AssetFamily → List String
  | .image => ["png", "jpg", "jpeg", "gif", "svg", "webp", "ico"]
  | .javascript => ["js", "coffee", "ts", "jsx", "tsx", "mjs", "es6"]
  | .stylesheet => ["css", "scss", "sass", "less", "stylus"]
  | .audio => ["mp3", "wav", "ogg", "m4a"]
  | .video => ["mp4", "webm", "ogv", "avi"]

/-- The helpers of a family. -/
def helpers : AssetFamily → List String
  | .image => ["asset_path", "image_path", "image_url", "image_tag"]
  | .javascript => ["javascript_include_tag", "javascript_pack_tag", "vite_javascript_tag"]
  | .stylesheet => ["stylesheet_link_tag", "stylesheet_pack_tag", "vite_stylesheet_tag"]
  | .audio => ["audio_tag", "audio_path", "audio_url"]
  | .video => ["video_tag", "video_path", "video_url"]

/-- All families. -/
def all : List AssetFamily := [.image, .javascript, .stylesheet, .audio, .video]

/-- The helper that serves every family. -/
def commonHelper : String := "asset_path"

/-- The families that a helper serves. -/
def servedBy (helper : String) : List AssetFamily :=
  if helper = commonHelper then all else all.filter fun f => f.helpers.contains helper

end AssetFamily

/-- The parts of a list, each at its first place. -/
def firstOccurrences {α : Type} [DecidableEq α] (as : List α) : List α :=
  as.foldl (fun found a => if a ∈ found then found else found ++ [a]) []

/-- The extension of a file's name: what follows the last dot, unless that dot comes first. -/
def extension? (name : Bytes) : Option Bytes :=
  let ext := name.reverse.takeWhile (· != 46)
  if name.length ≤ ext.length + 1 then none else some ext.reverse

/-- Whether a file has one of some extensions. -/
def hasExtension (extensions : List String) (f : Scanned) : Bool :=
  match (extension? f.fileName).bind Utf8.decode? with
  | some ext => extensions.contains ext
  | none => false

end HamlServer.Rails
