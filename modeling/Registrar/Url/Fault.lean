namespace Registrar

/-!
# Faults of addresses

* `UrlFault` — why a text is no address, or why no path can stand below an address;
* `UrlFault.message` — what a user is told.
-/

/-- Why a text is no address, or why no path can stand below an address. -/
inductive UrlFault where
  /-- No scheme stands in front. -/
  | noScheme
  /-- No host stands where one has to. -/
  | emptyHost
  /-- The port is no number below 65536. -/
  | badPort
  /-- The host is no domain name. -/
  | badName
  /-- The host holds a character that no host has. -/
  | badCharacter
  /-- The host ends in a number but is not one of four bytes. -/
  | badNumericHost
  /-- The host begins with a bracket but is not one of sixteen bytes. -/
  | badBracketedHost
  /-- The address has no path that another one could stand below. -/
  | noPath
deriving DecidableEq

/-- What a user is told about the fault. -/
def UrlFault.message : UrlFault → String
  | noScheme => "relative URL without a base"
  | emptyHost => "empty host"
  | badPort => "invalid port number"
  | badName => "invalid international domain name"
  | badCharacter => "invalid domain character"
  | badNumericHost => "invalid IPv4 address"
  | badBracketedHost => "invalid IPv6 address"
  | noPath => "relative URL with a cannot-be-a-base base"

end Registrar
