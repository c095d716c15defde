import HamlServer.Json.Basic

/-!
The compact text of a JSON value: no space, members in their order, and in strings only quotes,
backslashes and controls escaped.
-/

namespace HamlServer.Json

/-- The escape of a control by its code point. -/
def controlEscape (n : Nat) : List Char :=
  ['\\', 'u', '0', '0', Text.hexChar (n / 16), Text.hexChar (n % 16)]

/-- A character as it stands between quotes. -/
def escapeChar (c : Char) : List Char :=
  if c = '"' then ['\\', '"']
  else if c = '\\' then ['\\', '\\']
  else if c = '\x08' then ['\\', 'b']
  else if c = '\x0C' then ['\\', 'f']
  else if c = '\n' then ['\\', 'n']
  else if c = '\r' then ['\\', 'r']
  else if c = '\t' then ['\\', 't']
  else if c.toNat < 0x20 then controlEscape c.toNat
  else [c]

/-- A string between quotes. -/
def quote (s : String) : List Char := '"' :: s.toList.flatMap escapeChar ++ ['"']

mutual

/-- The characters of the compact text of a value. -/
def chars : Json → List Char
  | .null => "null".toList
  | .bool true => "true".toList
  | .bool false => "false".toList
  | .number n => n.render.toList
  | .string s => quote s
  | .array [] => ['[', ']']
  | .array (v :: vs) => '[' :: chars v ++ itemChars vs
  | .object [] => ['\x7b', '\x7d']
  | .object (m :: ms) => '\x7b' :: memberChars m ++ restChars ms
termination_by structural v => v

/-- The items after the first, and the closing bracket. -/
def itemChars : List Json → List Char
  | [] => [']']
  | v :: vs => ',' :: chars v ++ itemChars vs
termination_by structural vs => vs

/-- A member: its name and its value. -/
def memberChars : String × Json → List Char
  | (k, v) => quote k ++ ':' :: chars v
termination_by structural m => m

/-- The members after the first, and the closing brace. -/
def restChars : List (String × Json) → List Char
  | [] => ['\x7d']
  | m :: ms => ',' :: memberChars m ++ restChars ms
termination_by structural ms => ms

end

/-- The compact text of a value. -/
def render (v : Json) : String := String.ofList (chars v)

end HamlServer.Json
