import HamlServer.Text.Digits

/-!
Quoted texts of TOML.

Between double quotes a backslash starts an escape; between single quotes every character stands
for itself.  A text between three quotes may go over several lines; a line break right behind the
opening quotes does not count, and up to two quotes may stand before the closing ones.
-/

namespace HamlServer.Toml

/-- The characters that may stand in a quoted text or a comment: all but the controls, though the
tab is allowed. -/
def isTextChar (c : Char) : Bool := c == '\t' || (0x20 ≤ c.toNat && c.toNat != 0x7F)

/-- A space or a tab. -/
def isBlank (c : Char) : Bool := c == ' ' || c == '\t'

/-- The character that an escape of one letter stands for. -/
def escape? : Char → Option Char
  | 'b' => some '\x08'
  | 't' => some '\t'
  | 'n' => some '\n'
  | 'f' => some '\x0C'
  | 'r' => some '\r'
  | 'e' => some '\x1B'
  | '"' => some '"'
  | '\\' => some '\\'
  | _ => none

/-- The number of hexadecimal digits behind the letter of an escape. -/
def escapeDigits? : Char → Option Nat
  | 'x' => some 2
  | 'u' => some 4
  | 'U' => some 8
  | _ => none

/-- The character of an escape behind its backslash, and what follows. -/
def takeEscape : List Char → Option (Char × List Char)
  | [] => none
  | c :: r =>
    match escapeDigits? c with
    | some n => if r.length < n then none else (Text.charOfHex? (r.take n)).map (·, r.drop n)
    | none => (escape? c).map (·, r)

/-- The line break at the front of a text as it is written, and what follows. -/
def takeBreak : List Char → Option (List Char × List Char)
  | '\n' :: r => some (['\n'], r)
  | '\r' :: '\n' :: r => some (['\r', '\n'], r)
  | _ => none

/-- A text without the white space and the line breaks in front. -/
def skipBreaks : List Char → List Char
  | '\r' :: '\n' :: r => skipBreaks r
  | c :: r => if isBlank c || c == '\n' then skipBreaks r else c :: r
  | [] => []

/-- A text on one line between double quotes, behind the opening quote. -/
def basicText : Nat → List Char → Option (List Char × List Char)
  | 0, _ => none
  | _, [] => none
  | _, '"' :: r => some ([], r)
  | fuel + 1, '\\' :: r => do
    let (c, r) ← takeEscape r
    let (text, r) ← basicText fuel r
    return (c :: text, r)
  | fuel + 1, c :: r =>
    if isTextChar c then (basicText fuel r).map fun (text, r) => (c :: text, r) else none

/-- A text on one line between single quotes, behind the opening quote. -/
def literalText : List Char → Option (List Char × List Char)
  | [] => none
  | '\'' :: r => some ([], r)
  | c :: r =>
    if isTextChar c then (literalText r).map fun (text, r) => (c :: text, r) else none

/-- The end of a text between three quotes: the quotes that belong to the text, and what follows. -/
def takeClosing (quote : Char) (s : List Char) : Option (List Char × List Char) :=
  let run := ((s.take 5).takeWhile (· == quote)).length
  if run < 3 then none else some (List.replicate (run - 3) quote, s.drop run)

/-- A text between three double quotes, behind the opening ones.  A backslash at the end of a line
joins what follows, without the white space and the line breaks between. -/
def longBasicText : Nat → List Char → Option (List Char × List Char)
  | 0, _ => none
  | fuel + 1, s =>
    match takeClosing '"' s, s with
    | some closed, _ => some closed
    | none, [] => none
    | none, '\\' :: r =>
      match takeBreak (r.dropWhile isBlank) with
      | some (_, r) => longBasicText fuel (skipBreaks r)
      | none => do
        let (c, r) ← takeEscape r
        let (text, r) ← longBasicText fuel r
        return (c :: text, r)
    | none, c :: r =>
      match takeBreak (c :: r) with
      | some (written, r) => (longBasicText fuel r).map fun (text, r) => (written ++ text, r)
      | none =>
        if isTextChar c then (longBasicText fuel r).map fun (text, r) => (c :: text, r) else none

/-- A text between three single quotes, behind the opening ones. -/
def longLiteralText : Nat → List Char → Option (List Char × List Char)
  | 0, _ => none
  | fuel + 1, s =>
    match takeClosing '\'' s, s with
    | some closed, _ => some closed
    | none, [] => none
    | none, c :: r =>
      match takeBreak (c :: r) with
      | some (written, r) => (longLiteralText fuel r).map fun (text, r) => (written ++ text, r)
      | none =>
        if isTextChar c then (longLiteralText fuel r).map fun (text, r) => (c :: text, r) else none

/-- A text without the line break in front. -/
def dropBreak (s : List Char) : List Char := ((takeBreak s).map (·.2)).getD s

/-- A quoted text on one line. -/
def takeShortText : List Char → Option (List Char × List Char)
  | '"' :: r => basicText (r.length + 1) r
  | '\'' :: r => literalText r
  | _ => none

/-- A quoted text. -/
def takeText : List Char → Option (List Char × List Char)
  | '"' :: '"' :: '"' :: r => longBasicText (r.length + 1) (dropBreak r)
  | '\'' :: '\'' :: '\'' :: r => longLiteralText (r.length + 1) (dropBreak r)
  | s => takeShortText s

end HamlServer.Toml
