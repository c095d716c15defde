import HamlServer.Editor.Diagnostic
import HamlServer.Json.Written

/-!
The linter's report.

A report lists files, and for each file its offenses.  It is read field by field from the written
text: a field that is not asked for may hold anything, but one that is asked for may stand only
once.  A record may also be written as an array of its fields.
-/

namespace HamlServer.Report

open Json

/-- The value of a string. -/
def stringOf? : Written → Option String
  | .string ps => text? ps
  | _ => none

/-- The fields of a record: those of `names`, each at most once.  Every name has to be a text. -/
def fields? (names : List String) : Written → Option (List (String × Written))
  | .object ms => do
    let ms ← ms.mapM fun (k, v) => do return (← text? k, v)
    let ms := ms.filter fun (k, _) => names.contains k
    if (ms.map (·.1)).Nodup then some ms else none
  | .array vs => if vs.length ≤ names.length then some (names.zip vs) else none
  | _ => none

/-- The items of a field that is an array; nothing if it is absent. -/
def listField? {α : Type} (read : Written → Option α) (fields : List (String × Written))
    (name : String) : Option (List α) :=
  match fields.lookup name with
  | none => some []
  | some (.array vs) => vs.mapM read
  | some _ => none

/-- A line number: an integer from 0 below `2 ^ 32`. -/
def lineNumber? : Written → Option UInt32
  | .number n =>
    match n.value? with
    | some (.int k) => if 0 ≤ k ∧ k < twoPow 32 then some (UInt32.ofNat k.toNat) else none
    | _ => none
  | _ => none

/-- The severity that a word of the linter stands for. -/
def severity (word : String) : Severity :=
  if word = "warning" then .warning
  else if word = "error" ∨ word = "fatal" then .error
  else .information

/-- The rule whose findings come from the embedded Ruby checker. -/
def rubyRule : String := "RuboCop"

/-- The tool that a rule belongs to. -/
def toolOf (rule : String) : String :=
  if rule = rubyRule then Diagnostic.correctableSource else "haml_lint"

/-- The finding of a rule at a line, counted from one; line zero counts as the first. -/
def finding (word message : String) (line : UInt32) (rule : String) : Diagnostic where
  range := .lineStart (if line = 0 then 0 else line - 1)
  severity := severity word
  message := message
  code := some rule
  source := toolOf rule

/-- Reads an offense. -/
def offense? (v : Written) : Option Diagnostic := do
  let fields ← fields? ["severity", "message", "location", "linter_name"] v
  let word ← match fields.lookup "severity" with
    | none => some ""
    | some w => stringOf? w
  let message ← (fields.lookup "message").bind stringOf?
  let location ← (fields.lookup "location").bind (fields? ["line"])
  let line ← (location.lookup "line").bind lineNumber?
  let rule ← (fields.lookup "linter_name").bind stringOf?
  return finding word message line rule

/-- Reads the offenses of a file. -/
def file? (v : Written) : Option (List Diagnostic) := do
  listField? offense? (← fields? ["offenses"] v) "offenses"

/-- Reads a report: the findings of all its files, in their order. -/
def parse? (s : String) : Option (List Diagnostic) := do
  let report ← Written.parse s.toList
  let files ← listField? file? (← fields? ["files"] report) "files"
  return files.flatten

end HamlServer.Report
