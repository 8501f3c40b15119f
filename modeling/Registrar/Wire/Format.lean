import Registrar.Fault
import Registrar.Wire.Decoder

namespace Registrar.Wire

/-!
# Wire formats

* `Format` — a type's wire form: how values are written and how they are read;
* `Enumeration` — types whose values are single bytes;
* `ofBytes`, `ofHex`, `toHex` — whole byte strings and hexadecimal texts, which
  hold one value and nothing after it;
* integers are written most significant byte first, lists as their length in
  four bytes and then their items.
-/

/-- A type's wire form: how values are written and how they are read. -/
class Format (α : Type) where
  encode : α → Except EncodeFault Bytes
  decode : Decoder α

export Format (encode decode)

/-- The parts one after another; the first part without a wire form decides. -/
def joined : List (Except EncodeFault Bytes) → Except EncodeFault Bytes
  | [] => .ok []
  | part :: parts => do
    let front ← part
    let back ← joined parts
    return front ++ back

/-- A length in four bytes. -/
def encodeLength (length : Nat) : Except EncodeFault Bytes :=
  if length < Bytes.capacity 4 then .ok (Bytes.ofNat 4 length) else .error (.tooLong length)

/-- A length in four bytes. -/
def decodeLength : Decoder Nat := Decoder.natural 4

/-! ### Integers, blocks and lists -/

instance : Format UInt8 where
  encode n := .ok [n]
  decode := Decoder.byte

instance : Format UInt16 where
  encode n := .ok (Bytes.ofNat 2 n.toNat)
  decode := return UInt16.ofNat (← Decoder.natural 2)

instance : Format UInt32 where
  encode n := .ok (Bytes.ofNat 4 n.toNat)
  decode := return UInt32.ofNat (← Decoder.natural 4)

instance : Format UInt64 where
  encode n := .ok (Bytes.ofNat 8 n.toNat)
  decode := return UInt64.ofNat (← Decoder.natural 8)

instance (n : Nat) : Format (Vector UInt8 n) where
  encode block := .ok block.toList
  decode := Decoder.block n

instance {α : Type} [Format α] : Format (List α) where
  encode items := joined (encodeLength items.length :: items.map encode)
  decode := do
    let count ← decodeLength
    Decoder.times count decode

/-! ### Enumerations -/

/-- A type whose values are written as one byte each. -/
class Enumeration (α : Type) where
  /-- What messages call the enumeration. -/
  title : String
  all : List α
  code : α → UInt8
  mem_all : ∀ a, a ∈ all
  code_injective : ∀ a b, code a = code b → a = b

export Enumeration (code)

/-- The value with a code, if there is one. -/
def ofCode? {α : Type} [Enumeration α] (byte : UInt8) : Option α :=
  Enumeration.all.find? fun a => code a == byte

theorem ofCode?_eq_some_iff {α : Type} [Enumeration α] {byte : UInt8} {a : α} :
    ofCode? byte = some a ↔ code a = byte := by
  constructor
  · intro h
    simpa using List.find?_some h
  · intro h
    cases hfound : ofCode? (α := α) byte with
    | none =>
      have := List.find?_eq_none.1 hfound a (Enumeration.mem_all a)
      simp [h] at this
    | some b =>
      have : code b = byte := by simpa using List.find?_some hfound
      rw [Enumeration.code_injective b a (this.trans h.symm)]

instance {α : Type} [Enumeration α] : Format α where
  encode a := .ok [code a]
  decode := do
    let offset ← Decoder.position
    let byte ← Decoder.byte
    Decoder.require (.invalidData offset (.unknownCode (Enumeration.title α) byte)) (ofCode? byte)

/-! ### Whole inputs -/

variable {α : Type} [Format α]

/-- The one value that the bytes hold. -/
def ofBytes (input : Bytes) : Except DecodeFault α :=
  match (decode : Decoder α).run (.start input) with
  | (.error fault, _) => .error fault
  | (.ok a, cursor) => if cursor.rest = [] then .ok a else .error (.trailingBytes cursor.remaining)

/-- The one value that a hexadecimal text holds, with or without `0x` in front. -/
def ofHex (text : String) : Except Fault α := do
  let input ← (Hex.decodeTagged text).mapError .hex
  (ofBytes input).mapError .decode

/-- The wire form in hexadecimal. -/
def toHex (a : α) : Except Fault String :=
  match encode a with
  | .ok bytes => .ok (Hex.encode bytes)
  | .error fault => .error (.encode fault)

end Registrar.Wire
