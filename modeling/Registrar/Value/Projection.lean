import Registrar.Json.Basic
import Registrar.Value.TypeName

namespace Registrar.Value

/-!
# Values as JSON

* `toJson` — the type of a value and its content: numbers as decimal texts,
  buffers in hexadecimal after `0x`, and whether a response is committed.
-/

/-- The members of a projection in key order: the type and the content. -/
def typed (value : Value) (content : Json) : Json :=
  .object [("type", .string value.typeName), ("value", content)]

mutual

/-- The type and the content of a value. -/
def toJson : Value → Json
  | int number => typed (int number) (.string (toString number.toInt))
  | uint number => typed (uint number) (.string (toString number.toNat))
  | bool flag => typed (bool flag) (.bool flag)
  | buffer bytes => typed (buffer bytes) (.string ("0x" ++ Hex.encode bytes))
  | principal p => typed (principal p) (.string p.toText)
  | none => typed none .null
  | some value => typed (some value) (toJson value)
  | response committed data =>
    .object [("success", .bool committed), ("type", .string (response committed data).typeName),
      ("value", toJson data)]
  | list items => typed (list items) (.array (itemsToJson items))
  | tuple ⟨keys, sorted, value⟩ =>
    typed (tuple ⟨keys, sorted, value⟩) (.object ((List.finRange keys.length).map fun i =>
      (keys[i].text, toJson (value i))))
  | ascii text => typed (ascii text) (.string text)
  | utf8 text => typed (utf8 text) (.string text)
termination_by structural v => v

/-- The projections of the items of a list. -/
def itemsToJson : List Value → List Json
  | [] => []
  | item :: items => toJson item :: itemsToJson items
termination_by structural items => items

end

end Registrar.Value
