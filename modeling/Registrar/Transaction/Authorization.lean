import Registrar.Wire.Format

namespace Registrar

/-!
# Authorization

Who signs a transaction and what they pay.

* `SingleSigner`, `MultiSigner`, `SpendingCondition` — one signer, or several of
  whom some sign;
* `SpendingCondition.cleared` — what a signature of the condition's owner covers;
* `Authorization` — the origin alone, or the origin and a sponsor;
* `Authorization.initial` — the authorization that the origin signs first.
-/

/-! ### Enumerations on the wire -/

/-- How the key of a single signer is digested. -/
inductive SingleHashMode where
  | keyHash
  | witnessKeyHash
deriving DecidableEq

instance : Wire.Enumeration SingleHashMode where
  title := "SinglesigHashMode"
  all := [.keyHash, .witnessKeyHash]
  code
    | .keyHash => 0x00
    | .witnessKeyHash => 0x02
  mem_all a := by cases a <;> decide
  code_injective a b := by cases a <;> cases b <;> decide

/-- How the script of several signers is digested. -/
inductive MultiHashMode where
  | scriptHash
  | witnessScriptHash
deriving DecidableEq

instance : Wire.Enumeration MultiHashMode where
  title := "MultisigHashMode"
  all := [.scriptHash, .witnessScriptHash]
  code
    | .scriptHash => 0x01
    | .witnessScriptHash => 0x03
  mem_all a := by cases a <;> decide
  code_injective a b := by cases a <;> cases b <;> decide

/-- How a key that belongs to a signature is encoded. -/
inductive KeyEncoding where
  | compressed
  | uncompressed
deriving DecidableEq

instance : Wire.Enumeration KeyEncoding where
  title := "TransactionPublicKeyEncoding"
  all := [.compressed, .uncompressed]
  code
    | .compressed => 0x00
    | .uncompressed => 0x01
  mem_all a := by cases a <;> decide
  code_injective a b := by cases a <;> cases b <;> decide

/-- The four forms of a field of several signers. -/
inductive AuthFieldTag where
  | key (encoding : KeyEncoding)
  | signature (encoding : KeyEncoding)
deriving DecidableEq

instance : Wire.Enumeration AuthFieldTag where
  title := "TransactionAuthFieldId"
  all := [.key .compressed, .key .uncompressed, .signature .compressed, .signature .uncompressed]
  code
    | .key .compressed => 0x00
    | .key .uncompressed => 0x01
    | .signature .compressed => 0x02
    | .signature .uncompressed => 0x03
  mem_all a := by rcases a with ⟨_ | _⟩ | ⟨_ | _⟩ <;> decide
  code_injective a b := by
    rcases a with ⟨_ | _⟩ | ⟨_ | _⟩ <;> rcases b with ⟨_ | _⟩ | ⟨_ | _⟩ <;> decide

/-- Whether a sponsor pays. -/
inductive AuthTag where
  | standard
  | sponsored
deriving DecidableEq

instance : Wire.Enumeration AuthTag where
  title := "TransactionAuthFlag"
  all := [.standard, .sponsored]
  code
    | .standard => 0x04
    | .sponsored => 0x05
  mem_all a := by cases a <;> decide
  code_injective a b := by cases a <;> cases b <;> decide

/-! ### Fields of several signers -/

/-- A signature from which the signer's key can be recovered. -/
abbrev Signature := Vector UInt8 65

/-- The signature of a transaction that is not signed yet. -/
def Signature.unsigned : Signature := Vector.replicate 65 0

/-- What one of several signers contributes: a key only, or a signature. -/
inductive AuthField where
  | key (encoding : KeyEncoding) (key : PublicKey)
  | signature (encoding : KeyEncoding) (signature : Signature)
deriving DecidableEq

instance : Wire.Format AuthField where
  encode
    | .key encoding key =>
      Wire.joined [Wire.encode (AuthFieldTag.key encoding), Wire.encode key.compressed]
    | .signature encoding signature =>
      Wire.joined [Wire.encode (AuthFieldTag.signature encoding), Wire.encode signature]
  decode := do
    let tag : AuthFieldTag ← Wire.decode
    match tag with
    | .key encoding =>
      let offset ← Wire.Decoder.position
      let bytes ← Wire.Decoder.bytes 33
      let key ← Wire.Decoder.require
        (.invalidData offset (.badPublicKey PublicKey.malformedMessage)) (PublicKey.ofBytes? bytes)
      return .key encoding key
    | .signature encoding => return .signature encoding (← Wire.decode)

/-! ### Spending conditions -/

/-- A condition that one signature meets. -/
structure SingleSigner where
  hashMode : SingleHashMode
  /-- The digest of the signer's key. -/
  signer : Hash160
  nonce : UInt64
  /-- The fee in the smallest unit. -/
  fee : UInt64
  keyEncoding : KeyEncoding
  signature : Signature
deriving DecidableEq

/-- A condition that a number of signatures meets. -/
structure MultiSigner where
  hashMode : MultiHashMode
  /-- The digest of the signers' script. -/
  signer : Hash160
  nonce : UInt64
  /-- The fee in the smallest unit. -/
  fee : UInt64
  /-- Keys and signatures in the order of the keys. -/
  fields : List AuthField
  signaturesRequired : UInt16
deriving DecidableEq

/-- Who signs and what they pay. -/
inductive SpendingCondition where
  | single (condition : SingleSigner)
  | multi (condition : MultiSigner)
deriving DecidableEq

namespace SpendingCondition

/-- The unsigned condition of a single key, whose short encoding is hashed for it. -/
def ofKey (key : PublicKey) (nonce fee : UInt64) : SpendingCondition :=
  single ⟨.keyHash, Digest.hash160 key.compressed.toList, nonce, fee, .compressed,
    Signature.unsigned⟩

/-- The condition that stands in for a sponsor who is not known yet. -/
def sentinel : SpendingCondition :=
  single ⟨.keyHash, Vector.replicate 20 0, 0, 0, .compressed, Signature.unsigned⟩

/-- The account's count of transactions so far. -/
def nonce : SpendingCondition → UInt64
  | single condition => condition.nonce
  | multi condition => condition.nonce

/-- The fee in the smallest unit. -/
def fee : SpendingCondition → UInt64
  | single condition => condition.fee
  | multi condition => condition.fee

/-- The digest of the signer's key or of the signers' script. -/
def signer : SpendingCondition → Hash160
  | single condition => condition.signer
  | multi condition => condition.signer

/-- The condition without nonce, fee and signatures. -/
def cleared : SpendingCondition → SpendingCondition
  | single condition =>
    single { condition with nonce := 0, fee := 0, signature := Signature.unsigned }
  | multi condition => multi { condition with nonce := 0, fee := 0, fields := [] }

instance : Wire.Format SpendingCondition where
  encode
    | single condition => Wire.joined [Wire.encode condition.hashMode, Wire.encode condition.signer,
        Wire.encode condition.nonce, Wire.encode condition.fee,
        Wire.encode condition.keyEncoding, Wire.encode condition.signature]
    | multi condition => Wire.joined [Wire.encode condition.hashMode, Wire.encode condition.signer,
        Wire.encode condition.nonce, Wire.encode condition.fee,
        Wire.encode condition.fields, Wire.encode condition.signaturesRequired]
  decode := do
    let offset ← Wire.Decoder.position
    let mode ← Wire.Decoder.byte
    -- no code is that of two modes, so it does not matter which ones are tried first
    match (Wire.ofCode? mode : Option SingleHashMode) with
    | some hashMode => do
      let signer ← Wire.decode
      let nonce ← Wire.decode
      let fee ← Wire.decode
      let keyEncoding ← Wire.decode
      let signature ← Wire.decode
      return single { hashMode, signer, nonce, fee, keyEncoding, signature }
    | none =>
      match (Wire.ofCode? mode : Option MultiHashMode) with
      | some hashMode => do
        let signer ← Wire.decode
        let nonce ← Wire.decode
        let fee ← Wire.decode
        let fields ← Wire.decode
        let signaturesRequired ← Wire.decode
        return multi { hashMode, signer, nonce, fee, fields, signaturesRequired }
      | none => Wire.Decoder.fail (.invalidData offset (.unknownCode "hash mode" mode))

end SpendingCondition

/-! ### Authorizations -/

/-- Who authorizes a transaction. -/
inductive Authorization where
  /-- The origin pays the fee. -/
  | standard (origin : SpendingCondition)
  /-- A sponsor pays the fee of the origin. -/
  | sponsored (origin sponsor : SpendingCondition)
deriving DecidableEq

namespace Authorization

/-- The condition of the origin. -/
def origin : Authorization → SpendingCondition
  | standard origin => origin
  | sponsored origin _ => origin

/-- The authorization that the origin signs first: its own condition cleared, and
    no particular sponsor. -/
def initial : Authorization → Authorization
  | standard origin => standard origin.cleared
  | sponsored origin _ => sponsored origin.cleared SpendingCondition.sentinel

instance : Wire.Format Authorization where
  encode
    | standard origin => Wire.joined [Wire.encode AuthTag.standard, Wire.encode origin]
    | sponsored origin sponsor =>
      Wire.joined [Wire.encode AuthTag.sponsored, Wire.encode origin, Wire.encode sponsor]
  decode := do
    let tag : AuthTag ← Wire.decode
    match tag with
    | .standard => return standard (← Wire.decode)
    | .sponsored => do
      let origin ← Wire.decode
      let sponsor ← Wire.decode
      return sponsored origin sponsor

end Authorization

end Registrar
