import Registrar.Base32.Checked
import Registrar.Wire.Format

namespace Registrar

/-!
# Addresses

An account is known by a digest of its keys and by a version that tells the
network and whether one or several keys sign.

* `AddressVersion`, `Address` — the versions in use, and a version with a digest;
* `Address.textOf` / `Address.parse` — the checked base 32 text after an `S`;
* `Address.ofText` — the address of a text that is known to be right;
* on the wire an address is its version byte and its digest.
-/

/-- The network of an address and how many keys sign for it. -/
inductive AddressVersion where
  | mainnetSingle
  | mainnetMulti
  | testnetSingle
  | testnetMulti
deriving DecidableEq

instance : Wire.Enumeration AddressVersion where
  title := "address version"
  all := [.mainnetSingle, .mainnetMulti, .testnetSingle, .testnetMulti]
  code
    | .mainnetSingle => 22
    | .mainnetMulti => 20
    | .testnetSingle => 26
    | .testnetMulti => 21
  mem_all a := by cases a <;> decide
  code_injective a b := by cases a <;> cases b <;> decide

/-- Whether the version belongs to the main network. -/
def AddressVersion.isMainnet : AddressVersion → Bool
  | mainnetSingle | mainnetMulti => true
  | testnetSingle | testnetMulti => false

/-- An account of the chain. -/
structure Address where
  version : AddressVersion
  hash : Hash160
deriving DecidableEq

namespace Address

/-- The account of a single key, known by the digest of its short encoding. -/
def ofKey (version : AddressVersion) (key : PublicKey) : Address :=
  ⟨version, Digest.hash160 key.compressed.toList⟩

/-! ### Text -/

/-- The text for a version and data of any length. -/
def textOf (version : AddressVersion) (data : Bytes) : String :=
  String.ofList ('S' :: Base32.encodeChecked (Wire.code version) data)

/-- The version and the data that a text stands for. -/
def readText (text : String) : Except Base32.Fault (AddressVersion × Bytes) :=
  match text.toList with
  | 'S' :: checked =>
    if text.utf8ByteSize ≤ 5 then .error (.notAddress text)
    else do
      let (version, data) ← Base32.decodeChecked checked
      match Wire.ofCode? version with
      | some version => .ok (version, data)
      | none => .error (.unknownVersion version)
  | _ => .error (.notAddress text)

/-- The text of an address. -/
def toText (address : Address) : String := textOf address.version address.hash.toList

/-- The address that a text stands for. -/
def parse (text : String) : Except Fault Address := do
  let (version, data) ← (readText text).mapError .base32
  match Bytes.block? 20 data with
  | some hash => .ok ⟨version, hash⟩
  | none => .error (.argument .hashLength)

/-- The address of a text that is known to stand for one. -/
def ofText (text : String) (h : (parse text).isOk = true) : Address :=
  match parse text, h with
  | .ok address, _ => address

/-! ### Wire form -/

instance : Wire.Format Address where
  encode address := .ok (Wire.code address.version :: address.hash.toList)
  decode := do
    let offset ← Wire.Decoder.position
    let byte ← Wire.Decoder.byte
    let version ← Wire.Decoder.require
      (.invalidData offset (.unknownAddressVersion byte)) (Wire.ofCode? byte)
    let hash ← Wire.Decoder.block 20
    return ⟨version, hash⟩

end Address

end Registrar
