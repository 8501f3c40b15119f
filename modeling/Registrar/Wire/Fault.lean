import Registrar.Hex

namespace Registrar.Wire

/-!
# Wire faults

* `DecodeFault` — why bytes are not the wire form of a value, and where;
* `DataFault` — what is wrong with bytes that were there to be read;
* `EncodeFault` — why a value has no wire form.
-/

/-- How many levels of nesting a value may have. -/
def maxDepth : Nat := 32

/-- What is wrong with bytes that were there to be read. -/
inductive DataFault where
  /-- A byte is none of the codes of an enumeration. -/
  | unknownCode (enumeration : String) (byte : UInt8)
  /-- A byte is none of the address versions. -/
  | unknownAddressVersion (byte : UInt8)
  /-- A type tag is not one of the two of a principal. -/
  | notPrincipal (tag : UInt8)
  /-- A text is not UTF-8. -/
  | notUtf8 (fault : Text.Utf8Fault)
  /-- An ASCII text has a byte outside ASCII. -/
  | notAscii
  /-- A name is not one of its kind. -/
  | badName (complaint : String)
  /-- Two entries of a tuple have one key. -/
  | duplicateKey (key : String)
  /-- A public key is no point of the curve. -/
  | badPublicKey (complaint : String)
deriving DecidableEq

/-- What a user is told about the fault. -/
def DataFault.message : DataFault → String
  | unknownCode enumeration byte => s!"unknown {enumeration} {Hex.numeral 2 byte.toNat}"
  | unknownAddressVersion byte => s!"unknown address version {byte.toNat}"
  | notPrincipal tag => s!"expected a principal, found type prefix {Hex.numeral 2 tag.toNat}"
  | notUtf8 fault => fault.message
  | notAscii => "ASCII string contains bytes above 0x7f"
  | badName complaint => complaint
  | duplicateKey key => s!"Invalid data: Duplicate tuple key {key}"
  | badPublicKey complaint => complaint

/-- Why bytes are not the wire form of a value. -/
inductive DecodeFault where
  /-- A read wanted more bytes than were left. -/
  | outOfBounds (offset requested remaining : Nat)
  /-- The byte at an offset is no type tag. -/
  | unknownTypeTag (tag : UInt8) (offset : Nat)
  /-- The field at an offset was read but holds nothing valid. -/
  | invalidData (offset : Nat) (fault : DataFault)
  /-- A value nests deeper than the limit. -/
  | depthExceeded (limit : Nat)
  /-- Bytes follow the value. -/
  | trailingBytes (count : Nat)
deriving DecidableEq

/-- What a user is told about the fault. -/
def DecodeFault.message : DecodeFault → String
  | outOfBounds offset requested remaining =>
    s!"Attempted to read {requested} bytes at offset {offset} with only {remaining} remaining"
  | unknownTypeTag tag offset =>
    s!"Unknown Clarity type prefix {Hex.numeral 2 tag.toNat} at offset {offset}"
  | invalidData offset fault => s!"Invalid data at offset {offset}: {fault.message}"
  | depthExceeded limit => s!"Value nesting exceeds the maximum depth of {limit}"
  | trailingBytes count => s!"{count} bytes left over after decoding"

/-- Why a value has no wire form. -/
inductive EncodeFault where
  /-- A length does not fit its four bytes. -/
  | tooLong (length : Nat)
  /-- A value nests deeper than the limit. -/
  | tooDeep
  /-- An ASCII string holds other characters. -/
  | notAscii
deriving DecidableEq

/-- What a user is told about the fault. -/
def EncodeFault.message : EncodeFault → String
  | tooLong length => s!"Length {length} does not fit in a u32 prefix"
  | tooDeep => s!"Value nests deeper than {maxDepth} levels"
  | notAscii => "ASCII string contains non ASCII characters"

end Registrar.Wire
