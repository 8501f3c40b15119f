import Registrar.Bytes
import Registrar.Json.Record
import Registrar.Text.Numeral

namespace Registrar.Cli

/-!
# Prices quoted by a node

* `PriceQuote` — an amount and its unit;
* `PriceQuote.ofJson` / `PriceQuote.toJson` — the JSON form, in which the amount
  may be a numeral in a text or a number of 64 bits, and is written as a number.
-/

/-- An amount and its unit. -/
structure PriceQuote where
  units : String
  amount : BitVec 128
deriving DecidableEq

namespace PriceQuote

/-- An amount, as a numeral in a text or as a number of 64 bits. -/
def readAmount : Json → Except Json.Mismatch (BitVec 128)
  | .string text =>
    match Text.parseNatural (Bytes.capacity 16) text with
    | .ok amount => .ok (BitVec.ofNat 128 amount)
    | .error fault => .error (.content fault.message)
  | json =>
    match json.readWord with
    | .ok amount => .ok (BitVec.ofNat 128 amount.toNat)
    | .error _ => .error (.noAlternative "Amount")

/-- The quote that a JSON value stands for. -/
def ofJson (json : Json) : Except Json.Mismatch PriceQuote := do
  let values ← json.readFields "struct NamePrice"
    [.of "units" Json.readText, .of "amount" readAmount]
  match values with
  | [some units, some amount] => return ⟨← units.readText, ← readAmount amount⟩
  | _ => throw (.missingField "units")

/-- The quote in JSON. -/
def toJson (quote : PriceQuote) : Json :=
  .object [("units", .string quote.units), ("amount", .integer quote.amount.toNat)]

end PriceQuote

end Registrar.Cli
