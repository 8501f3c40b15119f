import Registrar.Digest.Ripemd160
import Registrar.Digest.Sha2

namespace Registrar

/-!
# Digests in use

* `Digest.Algorithm` — the four digests that addresses, commitments, checksums
  and transaction ids are made with;
* `Digest.Algorithm.digest` — the digest of a message;
* `Digest.checksum` — the four bytes that guard a checked text.
-/

/-- A digest of twenty bytes, as addresses and commitments hold it. -/
abbrev Hash160 := Vector UInt8 20

namespace Digest

/-- How a message is digested. -/
inductive Algorithm where
  | sha256
  /-- SHA-256 applied twice. -/
  | doubleSha256
  /-- The half of SHA-512 with a start of its own. -/
  | sha512t256
  /-- RIPEMD-160 of SHA-256. -/
  | hash160
deriving DecidableEq

/-- The number of bytes in a digest. -/
def Algorithm.size : Algorithm → Nat
  | hash160 => 20
  | _ => 32

/-- RIPEMD-160 of SHA-256, for addresses and commitments. -/
def hash160 (message : Bytes) : Hash160 := Ripemd160.digest (Sha2.sha256 message).toList

/-- SHA-256 applied twice, for checksums. -/
def doubleSha256 (message : Bytes) : Vector UInt8 32 := Sha2.sha256 (Sha2.sha256 message).toList

/-- The digest of a message. -/
def Algorithm.digest : (algorithm : Algorithm) → Bytes → Vector UInt8 algorithm.size
  | sha256, message => Sha2.sha256 message
  | doubleSha256, message => Digest.doubleSha256 message
  | sha512t256, message => Sha2.sha512t256 message
  | hash160, message => Digest.hash160 message

/-- The first four bytes of a digest. -/
def checksum {n : Nat} (digest : Vector UInt8 n) : Bytes := digest.toList.take 4

end Digest

end Registrar
