import Registrar.Proofs.Transaction.Commitment
import Registrar.Proofs.Value.Limits
import Registrar.Transaction.Draft

namespace Registrar

open Wire

/-!
# What the origin of a draft signs

A draft is unsigned, so what its origin signs first should be the draft itself, but for the
nonce and the fee, which that signature leaves open.

* `DraftOptions.exists_encode_transaction_iff` — which drafts can be written; nonce and fee
  have no part in it;
* `DraftOptions.unsigned_transaction` — the unsigned form of a draft is the draft with nonce
  and fee zero;
* `SignsAsDrafted` — what this comes to for a way of drafting from options;
* `SignsAsDrafted.of_payload` — it holds if the options do not decide on the payload.
-/

/-! ### Lists and calls that can be written -/

/-- Items are written exactly if four bytes hold their number and each of them is written. -/
theorem Wire.exists_encode_items_iff {α : Type} [Format α] {items : List α} :
    (∃ bytes, encode items = .ok bytes) ↔
      items.length < UInt32.size ∧ ∀ item ∈ items, ∃ bytes, encode item = .ok bytes := by
  have hlength : (∃ bytes, encodeLength items.length = .ok bytes) ↔ items.length < UInt32.size := by
    rw [Value.exists_encodeLength_iff]
    exact Nat.le_sub_one_iff_lt (by decide)
  show (∃ bytes, joined (encodeLength items.length :: items.map encode) = .ok bytes) ↔ _
  rw [exists_joined_iff, List.forall_mem_cons, hlength, List.forall_mem_map]

/-- A call is written exactly if its arguments are. -/
theorem Payload.exists_encode_call_iff {c : ContractCall} :
    (∃ bytes, encode (Payload.call c) = .ok bytes) ↔ ∃ bytes, encode c.arguments = .ok bytes := by
  have htag : ∃ bytes, encode PayloadTag.call = .ok bytes := ⟨_, rfl⟩
  -- addresses and names can always be written, which leaves the arguments
  have hdeployer : ∃ bytes, encode c.deployer = .ok bytes := ⟨_, rfl⟩
  have hname : ∀ {kind : Name.Kind} (name : Name kind), ∃ bytes, encode name = .ok bytes :=
    fun name => ⟨_, rfl⟩
  have hcall : (∃ bytes, encode c = .ok bytes) ↔ ∃ bytes, encode c.arguments = .ok bytes := by
    show (∃ bytes, joined [encode c.deployer, encode c.contract, encode c.function,
      encode c.arguments] = .ok bytes) ↔ _
    rw [exists_joined_iff]
    simp only [List.forall_mem_cons, List.not_mem_nil, false_imp_iff, implies_true, hdeployer,
      hname, true_and, and_true]
  show (∃ bytes, joined [encode PayloadTag.call, encode c] = .ok bytes) ↔ _
  rw [exists_joined_iff, List.forall_mem_cons, List.forall_mem_singleton, hcall]
  exact and_iff_right htag

namespace DraftOptions

/-! ### Drafts that can be written -/

/-- The unsigned authorization can always be written, as a single key signs. -/
theorem exists_encode_authorization (options : DraftOptions) :
    ∃ bytes, encode options.authorization = .ok bytes := by
  unfold authorization
  split <;> exact ⟨_, rfl⟩

/-- **Drafts that can be written** are those with conditions and a payload that can be
    written. -/
theorem exists_encode_transaction_iff {options : DraftOptions} {payload : Payload} :
    (∃ bytes, encode (options.transaction payload) = .ok bytes) ↔
      options.postConditions.length < UInt32.size ∧
      (∀ condition ∈ options.postConditions, ∃ bytes, encode condition = .ok bytes) ∧
      ∃ bytes, encode payload = .ok bytes := by
  have hauthorization := options.exists_encode_authorization
  -- the fields of a fixed width can always be written
  have hfixed : ∀ {α : Type} [Enumeration α] (a : α),
      ∃ bytes, (encode a : Except EncodeFault Bytes) = .ok bytes := fun a => ⟨_, rfl⟩
  have hchainId : ∃ bytes, encode options.network.chainId = .ok bytes := ⟨_, rfl⟩
  show (∃ bytes, joined [encode options.version, encode options.network.chainId,
    encode options.authorization, encode options.anchorMode, encode options.postConditionMode,
    encode options.postConditions, encode payload] = .ok bytes) ↔ _
  rw [exists_joined_iff]
  simp only [List.forall_mem_cons, List.not_mem_nil, false_imp_iff, implies_true, hfixed,
    hchainId, hauthorization, exists_encode_items_iff, true_and, and_true, and_assoc]

/-! ### Nonce and fee -/

/-- The options with nonce and fee zero. -/
def zeroed (options : DraftOptions) : DraftOptions := { options with nonce := 0, fee := 0 }

/-- **The unsigned form** of a draft is the draft with nonce and fee zero. -/
theorem unsigned_transaction (options : DraftOptions) (payload : Payload) :
    (options.transaction payload).unsigned = options.zeroed.transaction payload := by
  -- only the authorization has anything to clear
  have hinitial : options.authorization.initial = options.zeroed.authorization := by
    show options.authorization.initial =
      if options.sponsored then .sponsored (.ofKey options.publicKey 0 0) .sentinel
      else .standard (.ofKey options.publicKey 0 0)
    unfold authorization
    split <;> rfl
  show { options.transaction payload with authorization := options.authorization.initial } = _
  rw [hinitial]
  rfl

/-- The fee is left to the sponsor if there is one. -/
theorem transaction_fee {options : DraftOptions} (h : options.sponsored = true) (fee : UInt64)
    (payload : Payload) :
    DraftOptions.transaction { options with fee } payload = options.transaction payload := by
  have hauthorization :
      DraftOptions.authorization { options with fee } = options.authorization := by
    simp only [authorization, h, if_true]
  simp only [transaction, hauthorization, version]

end DraftOptions

/-- Options for the test network, with one condition of the caller. -/
def DraftOptions.sample : DraftOptions where
  publicKey := Transaction.sampleKey
  network := .ofFamily .testnet
  nonce := 7
  fee := 300
  postConditions := [.native .origin .sentLe 5]

/-! ### Ways of drafting -/

/-- What is signed first is what was asked for: with any options, the digest that the origin
    signs first is the id of the draft with nonce and fee zero; a fee that is left to a
    sponsor has no part in the draft, and neither has the place of the node. -/
structure SignsAsDrafted {ε : Type} (draft : DraftOptions → Except ε Envelope) : Prop where
  initialSighash : ∀ options envelope bytes, draft options = .ok envelope →
    encode envelope.transaction = .ok bytes →
    ∃ blank digest, draft options.zeroed = .ok blank ∧ blank.transaction.id = .ok digest ∧
      envelope.transaction.initialSighash = .ok digest
  fee : ∀ options fee, options.sponsored = true → draft { options with fee } = draft options
  url : ∀ options url,
    draft { options with network := options.network.withUrl url } = draft options

namespace SignsAsDrafted

/-- **Payloads apart from the options.** What is drafted by putting the options around a
    payload, which is checked or put together without them, signs as drafted. -/
theorem of_payload {ε : Type} {draft : DraftOptions → Except ε Envelope}
    (content : Except ε (Payload × Option Bytes))
    (hdraft : ∀ options : DraftOptions, draft options = do
      let (payload, attachment) ← content
      return ⟨options.transaction payload, attachment⟩) : SignsAsDrafted draft where
  initialSighash options envelope bytes h hbytes := by
    rw [hdraft] at h
    obtain ⟨⟨payload, attachment⟩, rfl, henvelope⟩ := Except.bind_eq_ok_iff.1 h
    obtain rfl := Except.ok.inj henvelope
    obtain ⟨form, hform⟩ := Transaction.exists_encode_unsigned hbytes
    have hdigest := Transaction.id_eq_ok hform
    refine ⟨⟨options.zeroed.transaction payload, attachment⟩, _, hdraft _, ?_, hdigest⟩
    rw [← options.unsigned_transaction]
    exact hdigest
  fee options fee h := by
    simp only [hdraft, DraftOptions.transaction_fee h]
  url options url := by
    rw [hdraft, hdraft]
    rfl

/-- Calls sign as drafted: their names are checked without the options. -/
theorem draftCall (deployer : Address) (contract function : String) (arguments : List Value)
    (attachment : Option Bytes) :
    SignsAsDrafted (draftCall deployer contract function arguments attachment) := by
  refine .of_payload (do
    let contract ← Name.ofText contract
    let function ← Name.ofText function
    return (.call { deployer, contract, function, arguments }, attachment)) fun options => ?_
  simp only [Registrar.draftCall, bind_assoc, pure_bind]

theorem draftDeploy (name code : String) (version : Option ClarityVersion) :
    SignsAsDrafted (draftDeploy name code version) := by
  refine .of_payload (do
    let name ← Name.ofText name
    let code ← Name.ofText code
    return (.deploy name code version, none)) fun options => ?_
  simp only [Registrar.draftDeploy, bind_assoc, pure_bind]

theorem draftTransfer (recipient : Principal) (amount : UInt64) (memo : Bytes) :
    SignsAsDrafted (draftTransfer recipient amount memo) := by
  refine .of_payload (do
    let memo ← Memo.ofBytes memo
    return (.transfer recipient amount memo, none)) fun options => ?_
  simp only [Registrar.draftTransfer, bind_assoc, pure_bind]

end SignsAsDrafted

end Registrar
