import Registrar.Hex

namespace Registrar.Url

/-!
# Characters as percent signs and digits

A character that would not be read as itself is written in an address as its bytes, each
of them a percent sign and two digits.

* `Part`, `Part.escapes` — the parts of an address, and the characters that are written
  so in each of them;
* `encode`, `decode?` — a text written in this way, and read back.
-/

/-! ### Writing -/

/-- The parts of an address. -/
inductive Part where
  /-- The user and the password. -/
  | user
  | path
  /-- A path that is no list of segments. -/
  | plainPath
  /-- The query; an apostrophe in it is escaped where hosts are domain names. -/
  | query (isSpecial : Bool)
  | fragment
deriving DecidableEq

/-- The characters between the space and `~` that are escaped in a part. -/
def Part.reserved : Part → List Char
  | user => " \"<>\x60#?\x7b\x7d/:;=@[\\]^|".toList
  | path => " \"<>\x60#?\x7b\x7d".toList
  | plainPath => []
  | query true => " \"#<>\x27".toList
  | query false => " \"#<>".toList
  | fragment => " \"<>\x60".toList

/-- Whether a character is escaped in a part. -/
def Part.escapes (part : Part) (c : Char) : Bool :=
  c.toNat < 0x20 || 0x7F ≤ c.toNat || part.reserved.contains c

/-- A byte as a percent sign and two digits. -/
def escapedByte (byte : UInt8) : List Char := '%' :: (Hex.digits byte).map Char.toUpper

/-- A part of an address with the characters escaped that have to be. A percent sign
    stays, as what stands behind it may be escaped already. -/
def encode (part : Part) (text : List Char) : List Char :=
  text.flatMap fun c =>
    if part.escapes c then (Text.bytes (String.singleton c)).flatMap escapedByte else [c]

/-! ### Reading -/

/-- The byte that two digits write. -/
def unescapedByte? (high low : Char) : Option UInt8 :=
  if high.toNat < 0x80 && low.toNat < 0x80 then do
    let high ← Hex.value? (UInt8.ofNat high.toNat)
    let low ← Hex.value? (UInt8.ofNat low.toNat)
    return high * 16 + low
  else none

/-- The bytes of a text in which bytes are escaped; a percent sign without two digits
    stands for itself. -/
def unescapedBytes : List Char → Bytes
  | [] => []
  | '%' :: high :: low :: rest =>
    match unescapedByte? high low with
    | some byte => byte :: unescapedBytes rest
    | none => 0x25 :: unescapedBytes (high :: low :: rest)
  | c :: rest => Text.bytes (String.singleton c) ++ unescapedBytes rest

/-- The text in which characters are escaped, if its bytes are one. -/
def decode? (text : List Char) : Option (List Char) :=
  (Text.ofBytes (unescapedBytes text)).toOption.map String.toList

end Registrar.Url
