import HamlServer.Decimal.Binary64
import HamlServer.Yaml.Node

/-!
Values of YAML nodes.

A plain scalar is null, a truth value, an integer or a floating-point number when it is written like
one, and otherwise a string; a quoted scalar is a string.  Two keys of a map must not have the same
value.
-/

namespace HamlServer.Yaml

/-- A value.  Zero has no sign, so equal numbers are one value. -/
inductive Value where
  | null
  | bool (b : Bool)
  | int (n : Int)
  | real (x : Double)
  | string (s : String)
  | list (items : List Value)
  | map (entries : List (Value × Value))
  deriving Inhabited

namespace Value

mutual

/-- Whether two values are the same; the order of the entries of a map does not count. -/
def same : Value → Value → Bool
  | .null, .null => true
  | .bool a, .bool b => a == b
  | .int a, .int b => a == b
  | .real a, .real b => decide (a = b)
  | .string a, .string b => a == b
  | .list as, .list bs => as.length == bs.length && sameItems as bs
  | .map as, .map bs => as.length == bs.length && entriesIn as bs
  | _, _ => false
termination_by structural v => v

/-- Whether the items of two lists are the same one by one. -/
def sameItems : List Value → List Value → Bool
  | a :: as, b :: bs => same a b && sameItems as bs
  | _, _ => true
termination_by structural as => as

/-- Whether an entry is among others. -/
def entryIn : Value × Value → List (Value × Value) → Bool
  | (k, v), bs => bs.any fun (k', v') => same k k' && same v v'
termination_by structural e => e

/-- Whether all entries are among others. -/
def entriesIn : List (Value × Value) → List (Value × Value) → Bool
  | [], _ => true
  | e :: es, bs => entryIn e bs && entriesIn es bs
termination_by structural es => es

end

/-- The string of a value. -/
def string? : Value → Option String
  | .string s => some s
  | _ => none

/-- The natural number of a value. -/
def nat? : Value → Option Nat
  | .int n => if 0 ≤ n then some n.toNat else none
  | _ => none

/-- The truth value of a value. -/
def bool? : Value → Option Bool
  | .bool b => some b
  | _ => none

/-- A map, unless two of its keys are the same. -/
def ofEntries? (entries : List (Value × Value)) : Option Value :=
  let rec distinct : List (Value × Value) → Bool
    | [] => true
    | (k, _) :: rest => !rest.any (fun (k', _) => same k k') && distinct rest
  if distinct entries then some (.map entries) else none

end Value

/-! ## Plain scalars -/

/-- The spellings of null. -/
def isNull (s : String) : Bool := ["null", "Null", "NULL", "~"].contains s

/-- The spellings of the truth values. -/
def truth? (s : String) : Option Bool :=
  if ["true", "True", "TRUE"].contains s then some true
  else if ["false", "False", "FALSE"].contains s then some false
  else none

/-- Digits with a needless zero in front; they spell no number. -/
def isPadded (s : List Char) : Bool :=
  match s with
  | '0' :: r => r != [] && r.all Char.isDigit
  | _ => false

/-- A natural number in base ten, or behind the mark of another base. -/
def magnitude? (s : List Char) : Option Nat :=
  match s with
  | '0' :: 'x' :: r => Text.natural? 16 r
  | '0' :: 'o' :: r => Text.natural? 8 r
  | '0' :: 'b' :: r => Text.natural? 2 r
  | _ => if isPadded s then none else Text.natural? 10 s

/-- An integer: a natural number, perhaps behind a sign. -/
def integer? (s : List Char) : Option Int :=
  match s with
  | '+' :: r => (magnitude? r).map Int.ofNat
  | '-' :: r => (magnitude? r).map fun n => -(n : Int)
  | _ => (magnitude? s).map Int.ofNat

/-- The exponent behind a number, with an optional sign. -/
def exponent? (s : List Char) : Option Int :=
  match s with
  | [] => some 0
  | c :: r =>
    if c = 'e' ∨ c = 'E' then
      match r with
      | '+' :: r => (Text.natural? 10 r).map Int.ofNat
      | '-' :: r => (Text.natural? 10 r).map fun n => -(n : Int)
      | r => (Text.natural? 10 r).map Int.ofNat
    else none

/-- The magnitude of a decimal: digits with an optional point and an optional exponent. -/
def decimal? (s : List Char) : Option Binary64.Magnitude := do
  let whole := s.takeWhile Char.isDigit
  let rest := s.drop whole.length
  let (behind, rest) := match rest with
    | '.' :: r => (r.takeWhile Char.isDigit, r.dropWhile Char.isDigit)
    | r => ([], r)
  let ds := whole ++ behind
  let e ← exponent? rest
  let n ← Text.natural? 10 ds
  Binary64.Magnitude.ofDecimal? n (e - behind.length)

/-- The finite number with a sign and a magnitude. -/
def signed (negative : Bool) (m : Binary64.Magnitude) : Double :=
  .finite (.ofMagnitude (negative && m.significand != 0) m)

/-- A floating-point number. -/
def real? (s : List Char) : Option Double :=
  let isInfinity (r : List Char) : Bool := [".inf", ".Inf", ".INF"].contains (String.ofList r)
  if [".nan", ".NaN", ".NAN"].contains (String.ofList s) then some .notANumber
  else match s with
    | '+' :: r => if isInfinity r then some (.infinite false) else (decimal? r).map (signed false)
    | '-' :: r => if isInfinity r then some (.infinite true) else (decimal? r).map (signed true)
    | _ => if isInfinity s then some (.infinite false) else (decimal? s).map (signed false)

/-- The least integer of 64 bits with a sign, and the greatest without. -/
def isWord (n : Int) : Bool := -(twoPow 63) ≤ n && n < twoPow 64

/-- The integers of 128 bits, which are read but no value. -/
def isLong (n : Int) : Bool := -(twoPow 127) ≤ n && n < twoPow 128

/-- An integer as a value; one that fits no word of 64 bits but one of 128 is refused, and a larger
one is no integer. -/
def integerValue? (s : List Char) : Option (Option Value) :=
  match integer? s with
  | none => none
  | some n => if isWord n then some (some (.int n)) else if isLong n then some none else none

/-- The value of a plain scalar without a tag. -/
def plainValue? (s : String) : Option Value :=
  let cs := s.toList
  if cs = [] || isNull s then some .null
  else match truth? s with
    | some b => some (.bool b)
    | none =>
      match integerValue? cs with
      | some v => v
      | none =>
        let unsigned := match cs with
          | '+' :: r => r
          | '-' :: r => r
          | r => r
        if isPadded unsigned then some (.string s)
        else some (((real? cs).map .real).getD (.string s))

/-- The name of a standard tag. -/
def standardTag (name : String) : String := "tag:yaml.org,2002:" ++ name

/-- A tag of the document's own. -/
def isOwnTag (tag : Option String) : Bool := tag.any fun t => t.toList.head? == some '!'

/-- The value of a scalar: its tag decides, and without one its style. -/
def scalarValue? (text : String) (style : Style) : Option String → Option Value
  | none => if style = .plain then plainValue? text else some (.string text)
  | some tag =>
    if tag = standardTag "bool" then (truth? text).map .bool
    else if tag = standardTag "int" then (integerValue? text.toList).join
    else if tag = standardTag "float" then (real? text.toList).map .real
    else if tag = standardTag "null" then if isNull text then some .null else none
    else if isOwnTag (some tag) then none
    else some (.string text)

/-! ## Reading nodes -/

/-- Reading follows aliases, and fails when it has followed too many; the state is the number that
is left. -/
abbrev Reading := StateT Nat Option

/-- The node itself, or the one that an alias stands for. -/
def Document.resolve (d : Document) : Node → Reading Node
  | .alias n => do
    let left ← get
    match left, d.anchored.lookup n with
    | left + 1, some target =>
      set left
      return target
    | _, _ => failure
  | n => return n

/-- The value of a node whose collections are nested at most so deep.  Nodes with a tag of the
document's own have none. -/
def Document.value (d : Document) : Nat → Node → Reading Value
  | 0, n => do
    match ← d.resolve n with
    | .scalar text style tag => StateT.lift (scalarValue? text style tag)
    | _ => failure
  | depth + 1, n => do
    match ← d.resolve n with
    | .scalar text style tag => StateT.lift (scalarValue? text style tag)
    | .list items tag =>
      if isOwnTag tag then failure else return .list (← items.mapM (d.value depth))
    | .map entries tag =>
      if isOwnTag tag then failure
      else do
        let entries ← entries.mapM fun (k, v) => do
          return (← d.value depth k, ← d.value depth v)
        StateT.lift (Value.ofEntries? entries)
    | .alias _ => failure

end HamlServer.Yaml
