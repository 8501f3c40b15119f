import Registrar.Text.Quoted
import Registrar.Text.Utf8

namespace Registrar.Hex

/-!
# Hexadecimal text

* `encode` — two lower-case digits per byte;
* `decode` — digits of either case, an even number of them;
* `decodeTagged` — the same after at most one leading `0x`;
* `numeral` — a number in lower-case digits, padded to a width.
-/

/-- Why a text is no hexadecimal text. -/
inductive Fault where
  /-- The text has an odd number of bytes. -/
  | oddLength
  /-- The byte at a position is no digit. -/
  | badDigit (byte : UInt8) (position : Nat)
deriving DecidableEq

/-- What a user is told about the fault. -/
def Fault.message : Fault → String
  | oddLength => "Odd number of digits"
  | badDigit byte position =>
    s!"Invalid character {Text.quotedChar (Char.ofNat byte.toNat)} at position {position}"

/-! ### Writing -/

/-- The lower-case digit for a number below sixteen. -/
def digit (n : UInt8) : Char :=
  Char.ofNat (if n < 10 then 48 + n.toNat else 87 + n.toNat)

/-- The two digits of a byte. -/
def digits (byte : UInt8) : List Char := [digit (byte / 16), digit (byte % 16)]

/-- The digits of all the bytes in order. -/
def encode (bytes : Bytes) : String := String.ofList (bytes.flatMap digits)

/-- A number in lower-case digits, padded with zeros to `width`, after `0x`. -/
def numeral (width n : Nat) : String :=
  let text := Nat.toDigits 16 n
  "0x" ++ String.ofList (List.replicate (width - text.length) '0' ++ text)

/-! ### Reading -/

/-- The number that a digit of either case stands for. -/
def value? (byte : UInt8) : Option UInt8 :=
  if 48 ≤ byte && byte ≤ 57 then some (byte - 48)
  else if 97 ≤ byte && byte ≤ 102 then some (byte - 87)
  else if 65 ≤ byte && byte ≤ 70 then some (byte - 55)
  else none

/-- The value of the digit at a position. -/
def valueAt (position : Nat) (byte : UInt8) : Except Fault UInt8 :=
  match value? byte with
  | some value => .ok value
  | none => .error (.badDigit byte position)

/-- The bytes written by digits that start at a position; a digit without a
    partner is an odd one. -/
def decodeFrom (position : Nat) : Bytes → Except Fault Bytes
  | [] => .ok []
  | [_] => .error .oddLength
  | high :: low :: rest => do
    let high ← valueAt position high
    let low ← valueAt (position + 1) low
    let bytes ← decodeFrom (position + 2) rest
    return (high * 16 + low) :: bytes

/-- The bytes that a text of digits writes. An odd number of digits is
    reported before any digit is looked at. -/
def decode (text : String) : Except Fault Bytes :=
  let input := Text.bytes text
  if input.length % 2 = 1 then .error .oddLength else decodeFrom 0 input

/-- The text without one leading `0x`. -/
def untagged (text : String) : String :=
  match text.toList with
  | '0' :: 'x' :: rest => String.ofList rest
  | _ => text

/-- The bytes of a text of digits with or without a leading `0x`. -/
def decodeTagged (text : String) : Except Fault Bytes := decode (untagged text)

end Registrar.Hex
