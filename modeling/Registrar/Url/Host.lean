import Registrar.DomainName
import Registrar.Url.Fault
import Registrar.Url.Ipv4
import Registrar.Url.Ipv6
import Registrar.Url.Percent

namespace Registrar.Url

/-!
# Hosts

* `Host` — what an address is at: a name, four bytes or sixteen bytes;
* `Host.ofName` — the host of an address of the web or of a file, whose name is a domain
  name;
* `Host.ofPlain` — the host of any other address, whose name is kept as it is;
* `Host.text` — the host as it is written.
-/

/-- What an address is at. -/
inductive Host where
  | empty
  | name (text : List Char)
  | ipv4 (bytes : Vector UInt8 4)
  | ipv6 (pieces : Vector UInt16 8)
deriving DecidableEq

namespace Host

/-- The host as it is written. -/
def text : Host → List Char
  | empty => []
  | name text => text
  | ipv4 bytes => Ipv4.text bytes
  | ipv6 pieces => '[' :: Ipv6.text pieces ++ [']']

/-- The host that stands between brackets, without the opening one. -/
def ofBracketed (rest : List Char) : Except UrlFault Host :=
  match rest.getLast?, Ipv6.parse? rest.dropLast with
  | some ']', some pieces => .ok (ipv6 pieces)
  | _, _ => .error .badBracketedHost

/-- Whether no domain name holds the character. -/
def isForbidden (c : Char) : Bool :=
  c.toNat ≤ 0x20 || c.toNat = 0x7F || "#%/:<>?@[\\]^|".toList.contains c

/-- The host that a domain name stands for. -/
def ofDomain (domain : List Char) : Except UrlFault Host :=
  if domain.isEmpty then .error .emptyHost
  else if Ipv4.isNumeric domain then
    match Ipv4.parse? domain with
    | some bytes => .ok (ipv4 bytes)
    | none => .error .badNumericHost
  else .ok (name domain)

/-- The host of an address of the web or of a file. -/
def ofName (written : List Char) : Except UrlFault Host :=
  match written with
  | '[' :: rest => ofBracketed rest
  | written =>
    match (decode? written).bind (DomainName.toAscii? isForbidden) with
    | some domain => ofDomain domain
    | none => .error .badName

/-- Whether no host holds the character. -/
def isForbiddenPlain (c : Char) : Bool := "\x00\t\n\r #/:<>?@[\\]^|".toList.contains c

/-- The host of any other address. -/
def ofPlain (written : List Char) : Except UrlFault Host :=
  match written with
  | [] => .ok empty
  | '[' :: rest => ofBracketed rest
  | written =>
    if written.any isForbiddenPlain then .error .badCharacter
    else .ok (name (encode .plainPath written))

end Host

end Registrar.Url
