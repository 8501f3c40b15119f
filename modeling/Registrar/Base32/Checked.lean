import Registrar.Base32
import Registrar.Digest

namespace Registrar.Base32

/-!
# Checked base 32 text

A version digit, then base 32 digits of some data followed by a checksum over
the version and the data.

* `encodeChecked` — the digits for a version below 32 and some data;
* `decodeChecked` — the version and the data, if the checksum is right.
-/

/-- The four bytes that guard the data under a version. -/
def guard (version : UInt8) (data : Bytes) : Bytes :=
  Digest.checksum (Digest.doubleSha256 (version :: data))

/-- The version digit and the digits of the guarded data. -/
def encodeChecked (version : UInt8) (data : Bytes) : List Char :=
  digit version.toNat :: encode (data ++ guard version data)

/-- The version and the data of a checked text. A version digit that decodes to
    no byte counts as version zero. -/
def decodeChecked : List Char → Except Fault (UInt8 × Bytes)
  | [] => .error .malformed
  | first :: rest =>
    if (first :: rest).any fun c => 0x80 ≤ c.toNat then .error .malformed
    else do
      let guarded ← decode rest
      if guarded.length < 4 then .error .malformed
      else
        let data := guarded.take (guarded.length - 4)
        let found := guarded.drop (guarded.length - 4)
        let version := (← decode [first]).getLastD 0
        let computed := guard version data
        if computed = found then .ok (version, data)
        else .error (.badChecksum computed found)

end Registrar.Base32
