import Registrar.Digest
import Registrar.Fault
import Registrar.Json.Record

namespace Registrar.Digest

/-!
# Digests as text

* `ofBytes` — a digest of a given size from as many bytes;
* `ofHex`, `toHex` — the same with two digits for each byte;
* `ofJson`, `toJson` — the same within a JSON text.
-/

/-- The digest that the bytes are, if there are as many as it has. -/
def ofBytes (size : Nat) (bytes : Bytes) : Except Fault (Vector UInt8 size) :=
  match Bytes.block? size bytes with
  | some digest => .ok digest
  | none => .error .digestLength

/-- The digest that a text of digits writes. -/
def ofHex (size : Nat) (text : String) : Except Fault (Vector UInt8 size) := do
  let bytes ← (Hex.decode text).mapError .hex
  ofBytes size bytes

/-- The digits of a digest. -/
def toHex {size : Nat} (digest : Vector UInt8 size) : String := Hex.encode digest.toList

/-- The digest that a JSON value holds as a text of digits. -/
def ofJson (size : Nat) : Json → Except Json.Mismatch (Vector UInt8 size) :=
  Json.readParsed (ofHex size) Fault.message

/-- The digits of a digest as a JSON text. -/
def toJson {size : Nat} (digest : Vector UInt8 size) : Json := .string (toHex digest)

end Registrar.Digest
