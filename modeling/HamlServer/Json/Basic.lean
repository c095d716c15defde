import HamlServer.Json.Number

/-!
JSON values.

The members of an object are kept in the order of their names, each name once; `ofMembers` brings
any list of members into that form, a later member of the same name winning.
-/

namespace HamlServer

/-- A JSON value. -/
inductive Json where
  | null
  | bool (b : Bool)
  | number (n : Json.Number)
  | string (s : String)
  | array (items : List Json)
  | object (members : List (String × Json))
  deriving Inhabited

namespace Json

/-- Adds a member in the place of its name, replacing one of the same name. -/
def insertMember (key : String) (value : Json) : List (String × Json) → List (String × Json)
  | [] => [(key, value)]
  | (k, v) :: rest =>
    if k = key then (key, value) :: rest
    else if key < k then (key, value) :: (k, v) :: rest
    else (k, v) :: insertMember key value rest

/-- The object of a list of members; of two with the same name the later one stays. -/
def ofMembers (ms : List (String × Json)) : Json :=
  .object (ms.foldl (fun acc (k, v) => insertMember k v acc) [])

/-- The member of an object with a given name. -/
def get? (key : String) : Json → Option Json
  | .object ms => ms.lookup key
  | _ => none

/-- An integer. -/
def int (n : Int) : Json := .number (.int n)

/-- A natural number. -/
def nat (n : Nat) : Json := .number (.int n)

/-- The object without the members that are absent. -/
def ofOptional (ms : List (String × Option Json)) : Json :=
  ofMembers (ms.filterMap fun (k, v) => v.map (k, ·))

end Json

end HamlServer
