import Registrar.Base32
import Registrar.PublicKey
import Registrar.Wire.Fault

namespace Registrar

/-!
# Faults

* `ArgumentFault` — what is wrong with a value that a caller supplies;
* `Fault` — why building, reading or writing a value of the chain fails;
* `Fault.message`, `Fault.causes` — what a user is told, and what the fault goes
  back to.
-/

/-- What is wrong with a value that a caller supplies. -/
inductive ArgumentFault where
  /-- An address text holds a digest of another length. -/
  | hashLength
  /-- A text is no name of its kind. -/
  | badName (complaint : String)
  /-- A text for an ASCII string holds other characters. -/
  | notAscii
  /-- A text does not have the form of an asset. -/
  | badAsset
  /-- A memo is longer than its block. -/
  | longMemo
deriving DecidableEq

/-- What a user is told about the fault. -/
def ArgumentFault.message : ArgumentFault → String
  | hashLength => "Invalid hash length for address"
  | badName complaint => complaint
  | notAscii => "String is not valid ASCII"
  | badAsset => "Asset must be written as address.contract::asset"
  | longMemo => "Token transfer memo must be at most 34 bytes"

/-- Why building, reading or writing a value of the chain fails. -/
inductive Fault where
  | argument (fault : ArgumentFault)
  /-- Two entries of a tuple have one key. -/
  | duplicateKey (key : String)
  | base32 (fault : Base32.Fault)
  /-- A number is none of the address versions. -/
  | addressVersion (version : UInt8)
  /-- A digest has another number of bytes. -/
  | digestLength
  | hex (fault : Hex.Fault)
  | decode (fault : Wire.DecodeFault)
  | encode (fault : Wire.EncodeFault)
  /-- A value has another type than the one asked for. -/
  | unexpectedType (expected found : String)
  /-- Bytes encode no public key. -/
  | publicKey
deriving DecidableEq

namespace Fault

/-- The faults that this fault goes back to, the nearest first. -/
def causes : Fault → List String
  | digestLength => ["could not convert slice to array"]
  | base32 fault => [fault.message]
  | hex fault => [fault.message]
  | decode fault => [fault.message]
  | encode fault => ["Could not serialize or deserialize: " ++ fault.message, fault.message]
  | publicKey => [PublicKey.malformedMessage]
  | _ => []

/-- What a user is told about the fault. -/
def message (fault : Fault) : String :=
  let cause := fault.causes.headD ""
  match fault with
  | argument fault => "Invalid arguments: " ++ fault.message
  | duplicateKey key => "Invalid data: Duplicate tuple key " ++ key
  | base32 _ => "Could not crackford32 encode or decode: " ++ cause
  | addressVersion version => "Address version is invalid: " ++ toString version.toNat
  | digestLength => "Could not build array from slice: " ++ cause
  | hex _ => "Could not encode or decode hex: " ++ cause
  | decode _ => "Could not decode: " ++ cause
  | encode _ => "Could not serialize: " ++ cause
  | unexpectedType expected found => s!"Expected a value of type {expected}, found {found}"
  | publicKey => "Invalid public key: " ++ cause

end Fault

end Registrar
