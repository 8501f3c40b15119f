import Registrar.Bytes

namespace Registrar

/-!
# Base 32 text

Byte strings written in the 32 digits that avoid letters easily misread. The
bytes are read as one number and regrouped from bits of eight to bits of five;
zero bytes in front are kept as zero digits in front.

* `Base32.alphabet`, `Base32.value?` — the digits, and what each character is
  read as;
* `Base32.Pending`, `Base32.regroup` — moving bits from groups of one width to
  groups of another, least significant group first;
* `Base32.encode` / `Base32.decode` — bytes to text and back.
-/

namespace Base32

/-! ### Digits -/

/-- The digits in order of their value. -/
def alphabet : List Char := "0123456789ABCDEFGHJKMNPQRSTVWXYZ".toList

/-- The digit for a value below 32. -/
def digit (value : Nat) : Char := alphabet.getD value '0'

/-- The value that a character is read as: either case will do, the letter `O`
    passes for zero and the letters `I` and `L` for one. -/
def value? (c : Char) : Option Nat :=
  if c = 'O' ∨ c = 'o' then some 0
  else if c = 'I' ∨ c = 'i' ∨ c = 'L' ∨ c = 'l' then some 1
  else alphabet.idxOf? c.toUpper

/-- Why a text is no base 32 text, or why it does not name an address. -/
inductive Fault where
  /-- The text holds a character outside ASCII, or too few digits. -/
  | malformed
  /-- A character stands for no digit. -/
  | badCharacter (c : Char)
  /-- The checksum in the text is not the one of its content. -/
  | badChecksum (computed found : Bytes)
  /-- The text does not have the form of an address. -/
  | notAddress (text : String)
  /-- The version of an address is none of those in use. -/
  | unknownVersion (version : UInt8)
deriving DecidableEq

/-- The bytes as a list of decimal numbers. -/
def numbers (bytes : Bytes) : String :=
  "[" ++ ", ".intercalate (bytes.map fun byte => toString byte.toNat) ++ "]"

/-- What a user is told about the fault. -/
def Fault.message : Fault → String
  | malformed => "Invalid C32 string"
  | badCharacter c => s!"Invalid C32 character: {c}"
  | badChecksum computed found =>
    s!"Invalid C32 checksum - expected {numbers computed}, got {numbers found}"
  | notAddress text => s!"Invalid C32 address: {text}"
  | unknownVersion version => s!"Invalid C32 address version: {version.toNat}"

/-! ### Regrouping bits -/

/-- Bits taken over from earlier groups that do not fill a group yet. -/
structure Pending where
  value : Nat
  bits : Nat
deriving DecidableEq

/-- No bits. -/
def Pending.empty : Pending := ⟨0, 0⟩

/-- The pending bits with a group of `width` bits put above them. -/
def Pending.push (width : Nat) (pending : Pending) (group : Nat) : Pending :=
  ⟨pending.value ||| group <<< pending.bits, pending.bits + width⟩

/-- The full groups of `width` bits in the pending bits, and the bits left. -/
def Pending.drain (width : Nat) (pending : Pending) : List Nat × Pending :=
  if _h : 0 < width ∧ width ≤ pending.bits then
    let (groups, rest) :=
      Pending.drain width ⟨pending.value >>> width, pending.bits - width⟩
    (pending.value % (1 <<< width) :: groups, rest)
  else ([], pending)
termination_by pending.bits
decreasing_by omega

/-- Groups of `source` bits regrouped to `target` bits, least significant group
    first. Bits left at the end make one last, partial group. -/
def regroup (source target : Nat) (pending : Pending) : List Nat → List Nat
  | [] => if 0 < pending.bits then [pending.value] else []
  | group :: rest =>
    let (groups, pending) := (pending.push source group).drain target
    groups ++ regroup source target pending rest

/-- The groups with the most significant one first and no zero in front. -/
def leading (groups : List Nat) : List Nat := groups.reverse.dropWhile (· == 0)

/-! ### Bytes to text and back -/

/-- The digits of the bytes: one zero digit for each zero byte in front, then
    the digits of the number that the bytes write. -/
def encode (bytes : Bytes) : List Char :=
  (bytes.takeWhile (· == 0)).map (fun _ => '0')
    ++ (leading (regroup 8 5 .empty (bytes.reverse.map UInt8.toNat))).map digit

/-- The values of the characters from the last to the first; the last character
    without one is reported. -/
def valuesFromEnd (text : List Char) : Except Fault (List Nat) :=
  text.reverse.mapM fun c =>
    match value? c with
    | some value => .ok value
    | none => .error (.badCharacter c)

/-- The bytes that the digits write: one zero byte for each character `0` in
    front, then the bytes of the number. -/
def decode (text : List Char) : Except Fault Bytes :=
  if text.any fun c => 0x80 ≤ c.toNat then .error .malformed
  else do
    let values ← valuesFromEnd text
    return (text.takeWhile (· == '0')).map (fun _ => 0)
      ++ (leading (regroup 5 8 .empty values)).map UInt8.ofNat

/-- The same for a text given as bytes of one character each. -/
def decodeBytes (bytes : Bytes) : Except Fault Bytes :=
  decode (bytes.map fun byte => Char.ofNat byte.toNat)

end Base32

end Registrar
