import HamlServer.Json.Basic

/-!
Records in JSON.

A record is written as an object of its fields, or as an array of them in their order.  Members that
are no field are passed over.  A field that may be absent is either optional, and then `null` says
the same as its absence, or has a default, and then `null` is a value like any other.
-/

namespace HamlServer.Json

/-- The fields of a record by name.  An array gives the first fields of `names`, and no more. -/
def record (names : List String) : Json → Option (List (String × Json))
  | .object ms => some ms
  | .array vs => if vs.length ≤ names.length then some (names.zip vs) else none
  | _ => none

/-- A field that must be there. -/
def required {α : Type} (read : Json → Option α) (fields : List (String × Json)) (name : String) :
    Option α :=
  (fields.lookup name).bind read

/-- A field that has a default. -/
def defaulted {α : Type} (default : α) (read : Json → Option α) (fields : List (String × Json))
    (name : String) : Option α :=
  match fields.lookup name with
  | none => some default
  | some v => read v

/-- A value that may be `null`. -/
def nullable {α : Type} (read : Json → Option α) : Json → Option (Option α)
  | .null => some none
  | v => (read v).map some

/-- A field that may be absent or `null`. -/
def optional {α : Type} (read : Json → Option α) (fields : List (String × Json)) (name : String) :
    Option (Option α) :=
  defaulted none (nullable read) fields name

/-- A string. -/
def text : Json → Option String
  | .string s => some s
  | _ => none

/-- A truth value. -/
def flag : Json → Option Bool
  | .bool b => some b
  | _ => none

/-- An integer from 0 below `2 ^ 64`. -/
def word64 : Json → Option Nat
  | .number (.int n) => if 0 ≤ n ∧ n < twoPow 64 then some n.toNat else none
  | _ => none

/-- An integer from 0 below `2 ^ 32`. -/
def word32 : Json → Option UInt32
  | .number (.int n) => if 0 ≤ n ∧ n < twoPow 32 then some (UInt32.ofNat n.toNat) else none
  | _ => none

/-- An array of values of one kind. -/
def list {α : Type} (read : Json → Option α) : Json → Option (List α)
  | .array vs => vs.mapM read
  | _ => none

/-- Any value. -/
def any (v : Json) : Option Json := some v

end HamlServer.Json
