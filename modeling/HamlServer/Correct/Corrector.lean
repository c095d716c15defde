import HamlServer.Correct.Document
import HamlServer.Tool.Launch

/-!
The corrector: the corrections of this library, and then those of the external linter.

When the external linter fails, the text stays as the own corrections left it.
-/

namespace HamlServer

/-- What the corrector of a project needs to know: the configuration of the linters and the root of
the project. -/
structure Corrector where
  config : LintConfig
  root : Option Path

namespace Corrector

/-- A document as the external linter gets it. -/
def job (k : Corrector) (path : Path) (content : String) : LintJob :=
  ⟨path, content, k.config.path, k.root⟩

/-- The document that the external linter gets to correct. -/
def correctionJob (k : Corrector) (path : Path) (content : String) : LintJob :=
  k.job path (Correct.correctString k.config content)

/-- Corrects a document. -/
def correct (k : Corrector) (tools : Tools) (path : Path) (content : String) : String :=
  let job := k.correctionJob path content
  match tools.correction job with
  | .ok text => text
  | .error _ => job.content

end Corrector

end HamlServer
