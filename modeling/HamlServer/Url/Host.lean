import HamlServer.DomainName.Basic
import HamlServer.Text.Utf8
import HamlServer.Url.Address
import HamlServer.Url.Percent

/-!
Hosts of URLs.

A host is an address or a domain name.  A domain name may be percent-encoded; one that ends like an
address has to be an address.
-/

namespace HamlServer.Url

/-- A host. -/
inductive Host where
  | address
  | name (text : List Char)
  deriving DecidableEq, Repr

namespace Host

/-- Reads a host that is not in brackets. -/
def ofName? (s : List Char) : Option Host := do
  let text := Utf8.decodeLossy (Percent.decode (Utf8.encode (String.ofList s)))
  let name ← DomainName.ofText? text.toList
  if name = [] then none
  else if endsInNumber name then
    if isOctetAddress name then some .address else none
  else some (.name name)

/-- Reads a host. -/
def parse? (s : List Char) : Option Host :=
  match s with
  | '[' :: r =>
    if r.getLast? = some ']' && isGroupAddress r.dropLast then some .address else none
  | _ => ofName? s

/-- The name that stands for this machine. -/
def thisMachine : List Char := "localhost".toList

/-- Whether a host stands for this machine. -/
def isThisMachine (h : Host) : Bool := h == .name thisMachine

end Host

end HamlServer.Url
