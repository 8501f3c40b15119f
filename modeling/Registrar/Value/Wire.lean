import Registrar.Value.Basic

namespace Registrar.Value

/-!
# The wire form of values

A value is its type tag and its content. Values inside a value are written and
read with one level of nesting less to spare, so nesting ends at the limit for
writing and for reading alike.

* `encodeContent`, `decodeContent` — what follows the type tag;
* `encodeWithin`, `decodeWithin` — with a number of levels to spare;
* the instance of `Wire.Format` — with all levels that a value may have.
-/

/-- Bytes after their number. -/
def encodeCounted (bytes : Bytes) : Except Wire.EncodeFault Bytes :=
  Wire.joined [Wire.encodeLength bytes.length, .ok bytes]

/-- Bytes after their number. -/
def decodeCounted : Wire.Decoder Bytes := do
  let count ← Wire.decodeLength
  Wire.Decoder.bytes count

/-- A text after the number of its bytes. The fault of a text is reported at its
    length. -/
def decodeText (ascii : Bool) : Wire.Decoder String := do
  let start ← Wire.Decoder.position
  let bytes ← decodeCounted
  if ascii && !Text.isAscii bytes then Wire.Decoder.fail (.invalidData start .notAscii)
  else match Text.ofBytes bytes with
    | .ok text => return text
    | .error fault => Wire.Decoder.fail (.invalidData start (.notUtf8 fault))

/-! ### Writing -/

/-- An entry of a tuple with the given writer for its value. -/
def encodeEntry (encodeValue : Value → Except Wire.EncodeFault Bytes)
    (entry : Tuple.Entry Value) : Except Wire.EncodeFault Bytes :=
  Wire.joined [Wire.encode entry.1, encodeValue entry.2]

/-- What follows the type tag of a value, with a writer for the values inside it. -/
def encodeContent (encodeValue : Value → Except Wire.EncodeFault Bytes) :
    Value → Except Wire.EncodeFault Bytes
  | int number => .ok (Bytes.ofNat 16 number.toNat)
  | uint number => .ok (Bytes.ofNat 16 number.toNat)
  | bool _ => .ok []
  | buffer bytes => encodeCounted bytes
  | principal p => p.body
  | response _ data => encodeValue data
  | none => .ok []
  | some value => encodeValue value
  | list items => Wire.joined (Wire.encodeLength items.length :: items.map encodeValue)
  | tuple entries =>
    Wire.joined (Wire.encodeLength entries.size :: entries.toList.map (encodeEntry encodeValue))
  | ascii text =>
    if Text.isAscii (Text.bytes text) then encodeCounted (Text.bytes text)
    else .error .notAscii
  | utf8 text => encodeCounted (Text.bytes text)

/-- The wire form of a value with a number of levels of nesting to spare. -/
def encodeWithin : (levels : Nat) → Value → Except Wire.EncodeFault Bytes
  | 0, _ => .error .tooDeep
  | levels + 1, value =>
    Wire.joined [.ok [Wire.code value.kind], encodeContent (encodeWithin levels) value]

/-! ### Reading -/

/-- Reads an entry of a tuple with the given reader for its value. -/
def decodeEntry (decodeValue : Wire.Decoder Value) : Wire.Decoder (Tuple.Entry Value) := do
  let key ← Wire.decode
  let value ← decodeValue
  return (key, value)

/-- Reads what follows a type tag at an offset, with a reader for the values inside.
    A key given twice is reported at the tag of its tuple. -/
def decodeContent (decodeValue : Wire.Decoder Value) (offset : Nat) : Kind → Wire.Decoder Value
  | .int => return int (BitVec.ofNat 128 (← Wire.Decoder.natural 16))
  | .uint => return uint (BitVec.ofNat 128 (← Wire.Decoder.natural 16))
  | .buffer => return buffer (← decodeCounted)
  | .boolTrue => return bool true
  | .boolFalse => return bool false
  | .principalAccount => return principal (← Principal.decodeBody false)
  | .principalContract => return principal (← Principal.decodeBody true)
  | .responseOk => return response true (← decodeValue)
  | .responseErr => return response false (← decodeValue)
  | .optionalNone => return none
  | .optionalSome => return some (← decodeValue)
  | .list => do
    let count ← Wire.decodeLength
    return list (← Wire.Decoder.times count decodeValue)
  | .tuple => do
    let count ← Wire.decodeLength
    let entries ← Wire.Decoder.times count (decodeEntry decodeValue)
    match Tuple.ofEntries entries with
    | .ok entries => return tuple entries
    | .error key => Wire.Decoder.fail (.invalidData offset (.duplicateKey key.text))
  | .ascii => return ascii (← decodeText true)
  | .utf8 => return utf8 (← decodeText false)

/-- Reads a value with a number of levels of nesting to spare. -/
def decodeWithin : (levels : Nat) → Wire.Decoder Value
  | 0 => Wire.Decoder.fail (.depthExceeded Wire.maxDepth)
  | levels + 1 => do
    let offset ← Wire.Decoder.position
    let tag ← Wire.Decoder.byte
    let kind ← Wire.Decoder.require (.unknownTypeTag tag offset) (Wire.ofCode? tag)
    decodeContent (decodeWithin levels) offset kind

instance : Wire.Format Value where
  encode := encodeWithin Wire.maxDepth
  decode := decodeWithin Wire.maxDepth

end Registrar.Value
