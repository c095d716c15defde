import HamlServer.DomainName.Direction
import HamlServer.DomainName.Joining
import HamlServer.DomainName.Mapping
import HamlServer.DomainName.Punycode

/-!
Domain names.

`ofText?` reads a domain name as it may be typed and gives the one form of it that is compared: it
is folded and composed, and its encoded labels are decoded.  A name is refused when it holds
anything that cannot be told apart from something else, or that changes its order.
-/

namespace HamlServer.DomainName

/-- The characters of ASCII that no domain name holds. -/
def isForbidden (c : Char) : Bool :=
  c.toNat ≤ 0x20 || c.toNat == 0x7F || "#/:<>?@[\\]^|%".toList.contains c

/-- What an encoded label begins with. -/
def encodedOpening : List Char := "xn--".toList

/-- The greatest number of characters of an encoded label behind its opening. -/
def maxEncoded : Nat := 2000

/-- The greatest number of characters of a label that has to be encoded. -/
def maxDecoded : Nat := 1000

/-- The text of an encoded label behind its opening: it holds a character outside ASCII, and it is
folded and composed. -/
def decodeLabel? (s : List Char) : Option (List Char) := do
  if !s.all (·.toNat < 0x80) || maxEncoded < s.length then none
  if s = [] || s.getLast? == some '-' then none
  let text ← Punycode.decode? s
  if text.all isFolded && compose text == text && !encodedOpening.isPrefixOf text then some text
  else none

/-- The text of a label. -/
def readLabel? (label : List Char) : Option (List Char) :=
  if encodedOpening.isPrefixOf label then decodeLabel? (label.drop encodedOpening.length)
  else if label.all (·.toNat < 0x80) || label.length ≤ maxDecoded then some label
  else none

/-- Whether a label begins with a character that can, and its joiners do something. -/
def isLabel (label : List Char) : Bool := !label.head?.any isMark && joinersCount [] label

/-- The form of a domain name that is compared. -/
def ofText? (s : List Char) : Option (List Char) := do
  let text := compose (← fold? s)
  if text.any isForbidden then none
  let labels ← (text.splitOn '.').mapM readLabel?
  if !labels.all isLabel then none
  if labels.any turns && !labels.all keepsOrder then none
  return List.intercalate ['.'] labels

end HamlServer.DomainName
