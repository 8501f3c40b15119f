import Registrar.Network
import Registrar.Transaction.Basic

namespace Registrar

/-!
# Drafting unsigned transactions

* `DraftOptions` — what all drafts share: the origin's key, its nonce and fee, the
  network, the modes and the conditions;
* `DraftOptions.transaction` — the unsigned transaction with a given payload;
* `draftCall`, `draftDeploy`, `draftTransfer` — drafts whose names and memo are
  checked first.
-/

/-- The version that transactions for the networks of a family have. -/
def TransactionVersion.ofFamily : NetworkFamily → TransactionVersion
  | .mainnet => .mainnet
  | .testnet => .testnet

/-- What all drafts share. -/
structure DraftOptions where
  publicKey : PublicKey
  network : Network
  nonce : UInt64 := 0
  /-- The fee in the smallest unit; with a sponsor it is left to the sponsor. -/
  fee : UInt64 := 0
  anchorMode : AnchorMode := .any
  postConditionMode : PostConditionMode := .deny
  postConditions : List PostCondition := []
  /-- Whether a sponsor will pay the fee. -/
  sponsored : Bool := false
deriving DecidableEq

namespace DraftOptions

/-- The version that transactions for the network have. -/
def version (options : DraftOptions) : TransactionVersion :=
  .ofFamily options.network.family

/-- The unsigned authorization of the origin, with room for a sponsor. -/
def authorization (options : DraftOptions) : Authorization :=
  if options.sponsored then
    .sponsored (.ofKey options.publicKey options.nonce 0) .sentinel
  else .standard (.ofKey options.publicKey options.nonce options.fee)

/-- The address of the origin on the network. -/
def sender (options : DraftOptions) : Address :=
  .ofKey options.network.family.addressVersion options.publicKey

/-- The options with more conditions behind those there are. -/
def guarded (options : DraftOptions) (conditions : List PostCondition) : DraftOptions :=
  { options with postConditions := options.postConditions ++ conditions }

/-- The unsigned transaction with a payload. -/
def transaction (options : DraftOptions) (payload : Payload) : Transaction where
  version := options.version
  chainId := options.network.chainId
  authorization := options.authorization
  anchorMode := options.anchorMode
  postConditionMode := options.postConditionMode
  postConditions := options.postConditions
  payload := payload

end DraftOptions

/-! ### Drafts -/

/-- An unsigned call of a function, both names given as texts. -/
def draftCall (deployer : Address) (contract function : String) (arguments : List Value)
    (attachment : Option Bytes) (options : DraftOptions) : Except Fault Envelope := do
  let contract ← Name.ofText contract
  let function ← Name.ofText function
  return ⟨options.transaction (.call { deployer, contract, function, arguments }), attachment⟩

/-- An unsigned deployment of a contract, name and source given as texts. -/
def draftDeploy (name code : String) (version : Option ClarityVersion) (options : DraftOptions) :
    Except Fault Envelope := do
  let name ← Name.ofText name
  let code ← Name.ofText code
  return ⟨options.transaction (.deploy name code version), none⟩

/-- An unsigned transfer with a memo of at most 34 bytes. -/
def draftTransfer (recipient : Principal) (amount : UInt64) (memo : Bytes)
    (options : DraftOptions) : Except Fault Envelope := do
  let memo ← Memo.ofBytes memo
  return ⟨options.transaction (.transfer recipient amount memo), none⟩

end Registrar
