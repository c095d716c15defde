import HamlServer.Text.Digits
import HamlServer.Toml.Value

/-!
Values of TOML that are written without quotes: truth values, numbers, dates and times.

Single underscores may stand between digits.  A number in base ten has no needless zero in front,
and the bases two, eight and sixteen take no sign.
-/

namespace HamlServer.Toml

/-! ## Numbers -/

/-- Digits of a base, with single underscores between them. -/
def digits? (base : Nat) : List Char → Option (List Nat)
  | [] => none
  | [c] => (Text.digitIn? base c).map ([·])
  | c :: '_' :: r => do return (← Text.digitIn? base c) :: (← digits? base r)
  | c :: r => do return (← Text.digitIn? base c) :: (← digits? base r)

/-- A number of a base. -/
def naturalIn? (base : Nat) (s : List Char) : Option Nat :=
  (digits? base s).map (Text.ofDigits base)

/-- A number in base ten without a needless zero in front. -/
def decimal? (s : List Char) : Option Nat :=
  if s.head? = some '0' ∧ 1 < s.length then none else naturalIn? 10 s

/-- A sign in front of a text, as whether it is negative, and what follows. -/
def takeSign : List Char → Bool × List Char
  | '+' :: r => (false, r)
  | '-' :: r => (true, r)
  | r => (false, r)

/-- An integer. -/
def integer? (s : List Char) : Option Int :=
  match s with
  | '0' :: 'x' :: r => (naturalIn? 16 r).map Int.ofNat
  | '0' :: 'o' :: r => (naturalIn? 8 r).map Int.ofNat
  | '0' :: 'b' :: r => (naturalIn? 2 r).map Int.ofNat
  | s =>
    let (negative, r) := takeSign s
    (decimal? r).map fun n => if negative then -(n : Int) else n

/-- The value of an integer; one that fits no word of 128 bits is too large to be held. -/
def ofInteger (n : Int) : Value :=
  if -(twoPow 127) ≤ n ∧ n < twoPow 128 then .integer n else .immense

/-- The exponent of a number, behind its letter. -/
def exponent? (s : List Char) : Option Int :=
  let (negative, r) := takeSign s
  (naturalIn? 10 r).map fun n => if negative then -(n : Int) else n

/-- A number with a point or an exponent, as its digits, the power of ten that they count, and
whether it is negative. -/
def scientific? (s : List Char) : Option (Nat × Int × Bool) := do
  let (negative, r) := takeSign s
  let isMark (c : Char) : Bool := c == 'e' || c == 'E'
  let mantissa := r.takeWhile fun c => !isMark c
  let whole := mantissa.takeWhile (· ≠ '.')
  let point := mantissa.drop whole.length
  let high ← decimal? whole
  let low ← match point with
    | [] => some []
    | _ :: fraction => digits? 10 fraction
  let e ← match r.drop mantissa.length with
    | [] => if point = [] then none else some 0
    | _ :: power => exponent? power
  return (low.foldl (fun n d => 10 * n + d) high, e - low.length, negative)

/-- A floating-point number. -/
def real? (s : List Char) : Option Value :=
  let (negative, r) := takeSign s
  if r = "inf".toList then some (.real (.infinite negative))
  else if r = "nan".toList then some (.real .notANumber)
  else (scientific? s).map fun (digits, e, negative) =>
    match Binary64.Magnitude.ofDecimal? digits e with
    | some m => .real (.finite (.ofMagnitude negative m))
    | none => .immense

/-! ## Dates and times -/

/-- A number of two digits, at most `greatest`, and what follows. -/
def twoDigits? (greatest : Nat) : List Char → Option (Nat × List Char)
  | a :: b :: r => do
    let n ← Text.natural? 10 [a, b]
    if n ≤ greatest then some (n, r) else none
  | _ => none

/-- What follows a character that has to be there. -/
def after? (c : Char) : List Char → Option (List Char)
  | d :: r => if d = c then some r else none
  | [] => none

/-- The number of days of a month. -/
def daysIn (year month : Nat) : Nat :=
  if month = 2 then
    if (year % 4 = 0 ∧ year % 100 ≠ 0) ∨ year % 400 = 0 then 29 else 28
  else if [4, 6, 9, 11].contains month then 30
  else 31

/-- What follows a date. -/
def date? (s : List Char) : Option (List Char) := do
  let (century, r) ← twoDigits? 99 s
  let (year, r) ← twoDigits? 99 r
  let (month, r) ← twoDigits? 12 (← after? '-' r)
  let (day, r) ← twoDigits? (daysIn (100 * century + year) month) (← after? '-' r)
  if month = 0 ∨ day = 0 then none else some r

/-- What follows a time of the day: hours and minutes, perhaps seconds, and these perhaps with a
fraction. -/
def time? (s : List Char) : Option (List Char) := do
  let (_, r) ← twoDigits? 23 s
  let (_, r) ← twoDigits? 59 (← after? ':' r)
  match r with
  | ':' :: r =>
    let (_, r) ← twoDigits? 60 r
    match r with
    | '.' :: r => if r.head?.any Char.isDigit then some (r.dropWhile Char.isDigit) else none
    | r => some r
  | r => some r

/-- Whether a text is the offset of a time, or nothing. -/
def isOffset : List Char → Bool
  | [] => true
  | c :: r =>
    if c = 'Z' ∨ c = 'z' then r == []
    else if c = '+' ∨ c = '-' then
      match twoDigits? 23 r with
      | some (_, ':' :: r) => (twoDigits? 59 r).any (·.2 == [])
      | _ => false
    else false

/-- Whether a text is a date, a time, or both. -/
def isMoment (s : List Char) : Bool :=
  match date? s with
  | some [] => true
  | some (c :: r) => (c == 'T' || c == 't' || c == ' ') && (time? r).any isOffset
  | none => time? s == some []

/-! ## Reading -/

/-- The characters of a value without quotes. -/
def isUnquoted (c : Char) : Bool := c.isAlphanum || "+-_.:".toList.contains c

/-- The value that a text without quotes spells. -/
def unquoted? (s : List Char) : Option Value :=
  if s = "true".toList then some (.boolean true)
  else if s = "false".toList then some (.boolean false)
  else if isMoment s then some (.moment (String.ofList s))
  else ((integer? s).map ofInteger).or (real? s)

/-- A value without quotes at the front of a text.  One blank may stand between a date and a
time. -/
def takeUnquoted (s : List Char) : Option (Value × List Char) :=
  let word := s.takeWhile isUnquoted
  let rest := s.drop word.length
  let time := rest.tail.takeWhile isUnquoted
  if date? word = some [] ∧ rest.head? = some ' ' ∧ time.head?.any Char.isDigit then
    (unquoted? (word ++ ' ' :: time)).map (·, rest.tail.drop time.length)
  else (unquoted? word).map (·, rest)

end HamlServer.Toml
