import Registrar.Address
import Registrar.Json.Record

namespace Registrar.Address

/-!
# Addresses in JSON

* `ofJson`, `toJson` — an address as a JSON text.
-/

/-- The address that a JSON value holds as a text. -/
def ofJson : Json → Except Json.Mismatch Address := Json.readParsed parse Fault.message

/-- The text of an address as a JSON text. -/
def toJson (address : Address) : Json := .string address.toText

end Registrar.Address
