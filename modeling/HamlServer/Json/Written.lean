import HamlServer.Json.Basic

/-!
JSON texts as they are written.

A `Written` keeps what a text says before any value is given to it: repeated members in their
order, numerals digit by digit, and escapes of single UTF-16 units that may have no partner.
`Written.parse` accepts exactly the JSON grammar; `Written.toJson?` gives the value, and fails on a
numeral that is too large, on a lone surrogate, and on containers nested too deeply.
-/

namespace HamlServer.Json

/-- A part of a written string: a character, or a UTF-16 unit given by its number. -/
inductive Piece where
  | char (c : Char)
  | unit (n : Nat)
  deriving DecidableEq, Repr

/-- A JSON text: its grammar tree. -/
inductive Written where
  | null
  | bool (b : Bool)
  | number (n : Numeral)
  | string (pieces : List Piece)
  | array (items : List Written)
  | object (members : List (List Piece × Written))
  deriving Inhabited

/-- The characters that may stand between the parts of a text. -/
def isSpace (c : Char) : Bool := c == ' ' || c == '\n' || c == '\t' || c == '\r'

/-- A text without the space in front. -/
def skipSpace (s : List Char) : List Char := s.dropWhile isSpace

/-- The number of four hexadecimal digits. -/
def hexUnit? (a b c d : Char) : Option Nat := do
  return Text.ofDigits 16 [← Text.hexDigit? a, ← Text.hexDigit? b, ← Text.hexDigit? c,
    ← Text.hexDigit? d]

/-- The character that a one-letter escape stands for. -/
def escape? : Char → Option Char
  | '"' => some '"'
  | '\\' => some '\\'
  | '/' => some '/'
  | 'b' => some '\x08'
  | 'f' => some '\x0C'
  | 'n' => some '\n'
  | 'r' => some '\r'
  | 't' => some '\t'
  | _ => none

/-- A string after its opening quote, and what follows its closing quote. -/
def stringBody : List Char → Option (List Piece × List Char)
  | [] => none
  | '"' :: r => some ([], r)
  | '\\' :: 'u' :: a :: b :: c :: d :: r => do
    let n ← hexUnit? a b c d
    let (ps, rest) ← stringBody r
    return (.unit n :: ps, rest)
  | '\\' :: c :: r => do
    let c ← escape? c
    let (ps, rest) ← stringBody r
    return (.char c :: ps, rest)
  | c :: r =>
    if c.toNat < 0x20 ∨ c = '\\' then none
    else (stringBody r).map fun (ps, rest) => (.char c :: ps, rest)

/-- The digits at the front of a text, and what follows. -/
def digitRun (s : List Char) : List Nat × List Char :=
  ((s.takeWhile Char.isDigit).map fun c => c.toNat - 48, s.dropWhile Char.isDigit)

/-- The part of a numeral behind the point, and what follows; a point needs a digit behind it. -/
def fractionPart : List Char → Option (Option (List Nat) × List Char)
  | '.' :: r =>
    let (ds, rest) := digitRun r
    if ds = [] then none else some (some ds, rest)
  | s => some (none, s)

/-- The sign of an exponent, set for a minus, and what follows. -/
def exponentSign : List Char → Bool × List Char
  | '+' :: r => (false, r)
  | '-' :: r => (true, r)
  | s => (false, s)

/-- The exponent of a numeral, and what follows; a letter needs a digit behind it. -/
def exponentPart : List Char → Option (Option (Bool × List Nat) × List Char)
  | c :: r =>
    if c = 'e' ∨ c = 'E' then
      let (negative, r) := exponentSign r
      let (ds, rest) := digitRun r
      if ds = [] then none else some (some (negative, ds), rest)
    else some (none, c :: r)
  | [] => some (none, [])

/-- A numeral, and what follows; a zero in front stands alone. -/
def numeral (s : List Char) : Option (Numeral × List Char) := do
  let (negative, s) := match s with
    | '-' :: r => (true, r)
    | s => (false, s)
  let (whole, s) := digitRun s
  if whole = [] ∨ (whole.head? = some 0 ∧ 1 < whole.length) then none
  let (fraction, s) ← fractionPart s
  let (exponent, s) ← exponentPart s
  return (⟨negative, whole, fraction, exponent⟩, s)

namespace Written

mutual

/-- A value, and what follows it. -/
def value : Nat → List Char → Option (Written × List Char)
  | 0, _ => none
  | fuel + 1, s =>
    match skipSpace s with
    | 'n' :: 'u' :: 'l' :: 'l' :: r => some (.null, r)
    | 't' :: 'r' :: 'u' :: 'e' :: r => some (.bool true, r)
    | 'f' :: 'a' :: 'l' :: 's' :: 'e' :: r => some (.bool false, r)
    | '"' :: r => (stringBody r).map fun (ps, r) => (.string ps, r)
    | '[' :: r =>
      match skipSpace r with
      | ']' :: r => some (.array [], r)
      | r => (items fuel r).map fun (vs, r) => (.array vs, r)
    | '\x7b' :: r =>
      match skipSpace r with
      | '\x7d' :: r => some (.object [], r)
      | r => (members fuel r).map fun (ms, r) => (.object ms, r)
    | s => (numeral s).map fun (n, r) => (.number n, r)

/-- The items of an array that has some, up to its closing bracket. -/
def items : Nat → List Char → Option (List Written × List Char)
  | 0, _ => none
  | fuel + 1, s => do
    let (v, r) ← value fuel s
    match skipSpace r with
    | ',' :: r => (items fuel r).map fun (vs, r) => (v :: vs, r)
    | ']' :: r => some ([v], r)
    | _ => none

/-- The members of an object that has some, up to its closing brace. -/
def members : Nat → List Char → Option (List (List Piece × Written) × List Char)
  | 0, _ => none
  | fuel + 1, s =>
    match skipSpace s with
    | '"' :: r => do
      let (k, r) ← stringBody r
      match skipSpace r with
      | ':' :: r => do
        let (v, r) ← value fuel r
        match skipSpace r with
        | ',' :: r => (members fuel r).map fun (ms, r) => ((k, v) :: ms, r)
        | '\x7d' :: r => some ([(k, v)], r)
        | _ => none
      | _ => none
    | _ => none

end

/-- Reads one JSON text, with nothing but space around it. -/
def parse (s : List Char) : Option Written := do
  let (v, r) ← value (2 * s.length + 2) s
  if skipSpace r = [] then some v else none

end Written

/-- The character of a leading and a trailing surrogate. -/
def ofSurrogates (lead trail : Nat) : Char :=
  Char.ofNat (0x10000 + (lead - 0xD800) * 0x400 + (trail - 0xDC00))

/-- The characters of a written string: units that are surrogates must come in pairs. -/
def characters : List Piece → Option (List Char)
  | [] => some []
  | .char c :: r => (characters r).map (c :: ·)
  | .unit n :: .unit m :: r =>
    if 0xD800 ≤ n ∧ n < 0xDC00 then
      if 0xDC00 ≤ m ∧ m < 0xE000 then (characters r).map (ofSurrogates n m :: ·) else none
    else if 0xDC00 ≤ n ∧ n < 0xE000 then none
    else (characters (.unit m :: r)).map (Char.ofNat n :: ·)
  | .unit n :: r =>
    if 0xD800 ≤ n ∧ n < 0xE000 then none else (characters r).map (Char.ofNat n :: ·)

/-- The string of a written string. -/
def text? (ps : List Piece) : Option String := (characters ps).map String.ofList

namespace Written

mutual

/-- The value of a written text whose containers are nested at most so deep. -/
def toJson? : Nat → Written → Option Json
  | _, .null => some .null
  | _, .bool b => some (.bool b)
  | _, .number n => n.value?.map .number
  | _, .string ps => (text? ps).map .string
  | 0, .array _ => none
  | depth + 1, .array vs => (itemsToJson? depth vs).map .array
  | 0, .object _ => none
  | depth + 1, .object ms => (membersToJson? depth ms).map ofMembers
termination_by structural _ v => v

/-- The values of the items of an array. -/
def itemsToJson? : Nat → List Written → Option (List Json)
  | _, [] => some []
  | depth, v :: vs => do return (← toJson? depth v) :: (← itemsToJson? depth vs)
termination_by structural _ vs => vs

/-- The name and value of a member. -/
def memberToJson? : Nat → List Piece × Written → Option (String × Json)
  | depth, (k, v) => do return (← text? k, ← toJson? depth v)
termination_by structural _ m => m

/-- The names and values of the members of an object. -/
def membersToJson? : Nat → List (List Piece × Written) → Option (List (String × Json))
  | _, [] => some []
  | depth, m :: ms => do return (← memberToJson? depth m) :: (← membersToJson? depth ms)
termination_by structural _ ms => ms

end

end Written

/-- The number of containers that may stand inside each other in a message. -/
def maxNesting : Nat := 127

/-- Reads a JSON text into a value; `nesting` bounds the containers that stand inside each other. -/
def parse? (nesting : Nat) (s : String) : Option Json :=
  (Written.parse s.toList).bind (Written.toJson? nesting)

end HamlServer.Json
