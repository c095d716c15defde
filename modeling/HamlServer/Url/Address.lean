import HamlServer.Decimal.Power
import HamlServer.Text.Digits

/-!
Addresses that stand for a host.

An address of four octets is written as up to four numbers with points between them, the last of
which stands for all the octets that are left.  An address of eight groups is written in
hexadecimal with colons; two colons stand for groups of zeros, and the last two groups may be
written as four octets.
-/

namespace HamlServer.Url

/-- A number of an address: hexadecimal behind `0x`, where it may be missing, octal behind a zero,
and otherwise decimal. -/
def addressNumber? (s : List Char) : Option Nat :=
  match s with
  | ['0', 'x'] => some 0
  | '0' :: 'x' :: r => Text.natural? 16 r
  | '0' :: c :: r => Text.natural? 8 (c :: r)
  | _ => Text.natural? 10 s

/-- The parts of a text between points; a point at its end does not count. -/
def pointParts (s : List Char) : List (List Char) :=
  let parts := s.splitOn '.'
  if parts.getLast? = some [] then parts.dropLast else parts

/-- Whether a host ends like an address of four octets, so that it has to be one. -/
def endsInNumber (s : List Char) : Bool :=
  (pointParts s).getLast?.any fun part =>
    (part != [] && part.all Char.isDigit) || (addressNumber? part).isSome

/-- Whether a host is an address of four octets. -/
def isOctetAddress (s : List Char) : Bool :=
  let parts := pointParts s
  match parts.mapM addressNumber? with
  | none => false
  | some numbers =>
    parts.length ≤ 4 && numbers.dropLast.all (· < 256) &&
      numbers.getLast?.any (· < twoPow (8 * (5 - numbers.length)))

/-- Whether a text is a decimal number below 256 without a needless zero. -/
def isOctet (s : List Char) : Bool :=
  (s == ['0'] || s.head? != some '0') && (Text.natural? 10 s).any (· < 256)

/-- The number of groups that a part of an address between colons stands for; only at its end it may
be four octets. -/
def groupCount? (isLast : Bool) (part : List Char) : Option Nat :=
  if (Text.natural? 16 part).isSome && part.length ≤ 4 then some 1
  else if isLast && (part.splitOn '.').length == 4 && (part.splitOn '.').all isOctet then some 2
  else none

/-- The number of groups of parts of an address; `isLast` says whether the address ends with
them. -/
def groupsCount? (isLast : Bool) : List (List Char) → Option Nat
  | [] => some 0
  | [part] => groupCount? isLast part
  | part :: parts => do return (← groupCount? false part) + (← groupsCount? isLast parts)

/-- The parts of an address between colons. -/
def colonParts (s : List Char) : List (List Char) := if s = [] then [] else s.splitOn ':'

/-- What stands in front of the first two colons, and what behind them. -/
def cutAtColons : List Char → Option (List Char × List Char)
  | ':' :: ':' :: r => some ([], r)
  | c :: r => (cutAtColons r).map fun (front, behind) => (c :: front, behind)
  | [] => none

/-- Whether a text is an address of eight groups. -/
def isGroupAddress (s : List Char) : Bool :=
  match cutAtColons s with
  | none => groupsCount? true (colonParts s) == some 8
  | some (front, behind) =>
    match groupsCount? false (colonParts front), groupsCount? true (colonParts behind) with
    | some m, some n => m + n < 8
    | _, _ => false

end HamlServer.Url
