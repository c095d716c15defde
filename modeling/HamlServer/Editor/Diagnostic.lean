import HamlServer.Editor.Place

/-!
Diagnostics: lint findings attached to a document.
-/

namespace HamlServer

/-- How severe a finding is. -/
inductive Severity where
  | error
  | warning
  | information
  | hint
  deriving DecidableEq, Repr

namespace Severity

/-- The number of a severity on the wire. -/
def toNat : Severity → Nat
  | .error => 1
  | .warning => 2
  | .information => 3
  | .hint => 4

/-- The severity of a number; numbers outside 1 to 4 stand for none. -/
def ofNat? : Nat → Option Severity
  | 1 => some .error
  | 2 => some .warning
  | 3 => some .information
  | 4 => some .hint
  | _ => none

/-- The word for a severity. -/
def label : Severity → String
  | .error => "error"
  | .warning => "warning"
  | .information => "info"
  | .hint => "hint"

theorem ofNat?_eq_some_iff {n : Nat} {s : Severity} : ofNat? n = some s ↔ n = s.toNat := by
  constructor
  · intro h
    unfold ofNat? at h
    split at h <;> simp_all <;> subst h <;> rfl
  · rintro rfl
    cases s <;> rfl

end Severity

/-- A lint finding: where it is, how severe, what it says, which rule it comes from and which tool
reported it. -/
structure Diagnostic where
  range : Range
  severity : Severity := .warning
  message : String
  code : Option String := none
  source : String := ""
  deriving DecidableEq, Repr

namespace Diagnostic

/-- The name of the tool whose findings can be corrected automatically. -/
def correctableSource : String := "rubocop"

/-- Only findings of one tool can be corrected automatically. -/
def isCorrectable (d : Diagnostic) : Bool := d.source == correctableSource

/-- The findings that can be corrected automatically, in their order. -/
def correctable (ds : List Diagnostic) : List Diagnostic := ds.filter isCorrectable

/-- A diagnostic as JSON; an absent rule is left out. -/
def toJson (d : Diagnostic) : Json :=
  .ofOptional [("range", some d.range.toJson), ("severity", some (.nat d.severity.toNat)),
    ("message", some (.string d.message)), ("code", d.code.map .string),
    ("source", some (.string d.source))]

/-- The names of the fields in their order. -/
def fieldNames : List String := ["range", "severity", "message", "code", "source"]

/-- Reads a diagnostic; severity and source may be absent. -/
def ofJson? (v : Json) : Option Diagnostic := do
  let fields ← Json.record fieldNames v
  return {
    range := ← Json.required Range.ofJson? fields "range"
    severity := ← Json.defaulted .warning (fun v => Json.word64 v >>= Severity.ofNat?) fields
      "severity"
    message := ← Json.required Json.text fields "message"
    code := ← Json.optional Json.text fields "code"
    source := ← Json.defaulted "" Json.text fields "source" }

end Diagnostic

end HamlServer
