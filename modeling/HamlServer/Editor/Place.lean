import HamlServer.Json.Record
import HamlServer.Text.Position

/-!
Positions, ranges and locations as the editor writes and reads them.
-/

namespace HamlServer

namespace Position

/-- A position as JSON. -/
def toJson (p : Position) : Json :=
  .ofMembers [("line", .nat p.line.toNat), ("character", .nat p.character.toNat)]

/-- Reads a position. -/
def ofJson? (v : Json) : Option Position := do
  let fields ← Json.record ["line", "character"] v
  return ⟨← Json.required Json.word32 fields "line", ← Json.required Json.word32 fields "character"⟩

end Position

namespace Range

/-- A range as JSON. -/
def toJson (r : Range) : Json :=
  .ofMembers [("start", r.start.toJson), ("end", r.stop.toJson)]

/-- Reads a range. -/
def ofJson? (v : Json) : Option Range := do
  let fields ← Json.record ["start", "end"] v
  return ⟨← Json.required Position.ofJson? fields "start",
    ← Json.required Position.ofJson? fields "end"⟩

end Range

/-- A range in a document. -/
structure Location where
  uri : String
  range : Range
  deriving DecidableEq, Repr

namespace Location

/-- A location as JSON. -/
def toJson (l : Location) : Json := .ofMembers [("uri", .string l.uri), ("range", l.range.toJson)]

end Location

end HamlServer
