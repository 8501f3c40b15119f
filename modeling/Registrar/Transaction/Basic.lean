import Registrar.Transaction.Authorization
import Registrar.Transaction.Payload
import Registrar.Transaction.PostCondition

namespace Registrar

/-!
# Transactions

* `Transaction` — the chain it is made for, who authorizes it, the conditions on
  assets and what it does;
* `Transaction.id` — the digest of its wire form;
* `Transaction.initialSighash` — the digest that the origin signs first: the id
  of the transaction with its authorization in the initial form.
-/

/-! ### Enumerations on the wire -/

/-- The network that a transaction is made for. -/
inductive TransactionVersion where
  | mainnet | testnet
deriving DecidableEq

instance : Wire.Enumeration TransactionVersion where
  title := "TransactionVersion"
  all := [.mainnet, .testnet]
  code
    | .mainnet => 0x00
    | .testnet => 0x80
  mem_all a := by cases a <;> decide
  code_injective a b := by cases a <;> cases b <;> decide

/-- Which blocks may take a transaction. -/
inductive AnchorMode where
  /-- Anchored blocks only. -/
  | onChainOnly
  /-- Blocks between two anchored ones only. -/
  | offChainOnly
  | any
deriving DecidableEq

instance : Wire.Enumeration AnchorMode where
  title := "TransactionAnchorMode"
  all := [.onChainOnly, .offChainOnly, .any]
  code
    | .onChainOnly => 1
    | .offChainOnly => 2
    | .any => 3
  mem_all a := by cases a <;> decide
  code_injective a b := by cases a <;> cases b <;> decide

/-- Whether assets that no condition mentions may move. -/
inductive PostConditionMode where
  | allow | deny
deriving DecidableEq

instance : Wire.Enumeration PostConditionMode where
  title := "TransactionPostConditionMode"
  all := [.allow, .deny]
  code
    | .allow => 1
    | .deny => 2
  mem_all a := by cases a <;> decide
  code_injective a b := by cases a <;> cases b <;> decide

/-! ### Transactions -/

/-- A transaction of the chain. -/
structure Transaction where
  version : TransactionVersion
  chainId : UInt32
  authorization : Authorization
  anchorMode : AnchorMode
  postConditionMode : PostConditionMode
  /-- The conditions in the order they are checked. -/
  postConditions : List PostCondition
  payload : Payload
deriving DecidableEq

namespace Transaction

instance : Wire.Format Transaction where
  encode transaction := Wire.joined
    [Wire.encode transaction.version, Wire.encode transaction.chainId,
      Wire.encode transaction.authorization, Wire.encode transaction.anchorMode,
      Wire.encode transaction.postConditionMode, Wire.encode transaction.postConditions,
      Wire.encode transaction.payload]
  decode := do
    let version ← Wire.decode
    let chainId ← Wire.decode
    let authorization ← Wire.decode
    let anchorMode ← Wire.decode
    let postConditionMode ← Wire.decode
    let postConditions ← Wire.decode
    let payload ← Wire.decode
    return ⟨version, chainId, authorization, anchorMode, postConditionMode, postConditions,
      payload⟩

/-- The digest of the wire form. -/
def id (transaction : Transaction) : Except Fault (Vector UInt8 32) :=
  match Wire.encode transaction with
  | .ok bytes => .ok (Digest.Sha2.sha512t256 bytes)
  | .error fault => .error (.encode fault)

/-- The transaction as the origin signs it first. -/
def unsigned (transaction : Transaction) : Transaction :=
  { transaction with authorization := transaction.authorization.initial }

/-- The digest that the origin signs first. -/
def initialSighash (transaction : Transaction) : Except Fault (Vector UInt8 32) :=
  transaction.unsigned.id

end Transaction

/-- A transaction and what travels beside it, such as a zone file; this is part of
    neither the wire form nor the digests. -/
structure Envelope where
  transaction : Transaction
  attachment : Option Bytes
deriving DecidableEq

end Registrar
