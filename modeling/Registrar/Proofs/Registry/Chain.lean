import Registrar.Proofs.Registry.Guards

namespace Registrar

/-!
# The network that a draft is for

Options name a network twice: by its family, which the versions of transactions and of
addresses follow, and by its chain id, which is written into the transaction and which the
registry is looked up by. A chain id may be set apart from the family, so the two can
disagree.

* `NetworkFamily.OwnsChain`, `AddressVersion.IsOf`, `TransactionVersion.IsOf` — what belongs to
  a network: the id of its chain, and versions of addresses and of transactions;
* `Registry.deployer_isOf` — the registry of a family was deployed on its network, as the text
  of its deployer says;
* `Registry.Operation.TiedTo` — the parts of a draft that are of the one family, and those
  that are of the other;
* `Registry.Operation.tiedTo_draft` — the first are of the family that has the chain, the
  second of the family of the options, and all are of one network exactly if the options have
  the chain id of their family;
* `Registry.Operation.not_forall_tiedTo` — options that name two networks are drafted for both.
-/

/-! ### What belongs to a network -/

/-- Whether a chain id is that of the network's own chain. -/
def NetworkFamily.OwnsChain (chainId : UInt32) : NetworkFamily → Prop
  | mainnet => chainId = 0x00000001
  | testnet => chainId = 0x80000000

/-- Whether addresses of the version are of the network. -/
def AddressVersion.IsOf (version : AddressVersion) : NetworkFamily → Prop
  | .mainnet => version.isMainnet = true
  | .testnet => version.isMainnet = false

/-- Whether transactions of the version are for the network. -/
def TransactionVersion.IsOf (version : TransactionVersion) : NetworkFamily → Prop
  | .mainnet => version = .mainnet
  | .testnet => version = .testnet

/-- A family has the id of its own chain, and no other family has. -/
theorem NetworkFamily.ownsChain_iff {family : NetworkFamily} {chainId : UInt32} :
    family.OwnsChain chainId ↔ family.chainId = chainId := by
  cases family <;> exact eq_comm

theorem NetworkFamily.chainId_injective {family other : NetworkFamily}
    (h : family.chainId = other.chainId) : family = other := by
  revert h
  cases family <;> cases other <;> decide

/-- A version is that of one network only. -/
theorem TransactionVersion.IsOf.unique {version : TransactionVersion}
    {family other : NetworkFamily} (h : version.IsOf family) (hother : version.IsOf other) :
    family = other := by
  cases family <;> cases other
  · rfl
  · cases h.symm.trans hother
  · cases h.symm.trans hother
  · rfl

/-- Transactions are made with the version of the family. -/
theorem TransactionVersion.isOf_ofFamily (family : NetworkFamily) :
    (TransactionVersion.ofFamily family).IsOf family := by
  cases family <;> rfl

/-- Accounts of a single key are given the version of the family. -/
theorem AddressVersion.isOf_addressVersion (family : NetworkFamily) :
    family.addressVersion.IsOf family := by
  cases family <;> rfl

namespace Registry

/-- **The deployers.** The registry of a family was deployed by an account of its network: this
    is what the text of the account says when it is read. -/
theorem deployer_isOf (family : NetworkFamily) :
    (RegistryContract.ofFamily family).deployer.version.IsOf family := by
  have hmainnet : (RegistryContract.ofFamily .mainnet).deployer.version.isMainnet = true := by
    decide +kernel
  have htestnet : (RegistryContract.ofFamily .testnet).deployer.version.isMainnet = false := by
    decide +kernel
  cases family
  · exact hmainnet
  · exact htestnet

namespace Operation

/-! ### What a transaction is tied to -/

/-- What ties a call and its transaction to a network: the chain id and the deployer of the
    called contract are of the one family, the version and the sender of the other. -/
structure TiedTo (chain family : NetworkFamily) (sender : Address) (call : ContractCall)
    (transaction : Transaction) : Prop where
  chainId : chain.OwnsChain transaction.chainId
  deployer : call.deployer.version.IsOf chain
  version : transaction.version.IsOf family
  sender : sender.version.IsOf family

variable {chain family network : NetworkFamily} {sender : Address} {call : ContractCall}
  {transaction : Transaction}

/-- The families that a transaction is tied to are known from it. -/
theorem TiedTo.unique (h : TiedTo chain family sender call transaction)
    (hnetwork : TiedTo network network sender call transaction) :
    chain = network ∧ family = network := by
  have hchain : chain.chainId = network.chainId :=
    (NetworkFamily.ownsChain_iff.1 h.chainId).trans
      (NetworkFamily.ownsChain_iff.1 hnetwork.chainId).symm
  exact ⟨NetworkFamily.chainId_injective hchain, h.version.unique hnetwork.version⟩

/-- So all ties are to one network only if the two families are one. -/
theorem TiedTo.exists_network_iff (h : TiedTo chain family sender call transaction) :
    (∃ network, TiedTo network network sender call transaction) ↔ chain = family := by
  constructor
  · rintro ⟨network, hnetwork⟩
    obtain ⟨rfl, rfl⟩ := h.unique hnetwork
    rfl
  · rintro rfl
    exact ⟨chain, h⟩

/-- A call of a registry with options around it is tied to the chain of the registry and to
    the family of the options. -/
theorem tiedTo_envelope {options : DraftOptions} (registryCall : RegistryCall)
    (guards : List PostCondition) (hchain : chain.chainId = options.network.chainId) :
    TiedTo chain options.network.family options.sender
      ⟨(RegistryContract.ofFamily chain).deployer, (RegistryContract.ofFamily chain).name,
        registryCall.function, registryCall.arguments⟩
      (registryCall.envelope (.ofFamily chain) (options.guarded guards)).transaction where
  chainId := NetworkFamily.ownsChain_iff.2 hchain
  deployer := deployer_isOf chain
  version := TransactionVersion.isOf_ofFamily _
  sender := AddressVersion.isOf_addressVersion _

/-! ### Drafts -/

/-- **The network of a draft.** The chain id is that of a family and is the one of the
    options, and the called registry is of this family. The version is that of the family of
    the options, and so is the version of the sender whom the conditions behind those of the
    caller are about. All of them are of one network exactly if the options name their
    family's own chain. -/
theorem tiedTo_draft {operation : Operation} {options : DraftOptions} {envelope : Envelope}
    (h : operation.draft options = .ok envelope) :
    ∃ chain call guards, envelope.transaction.payload = .call call ∧
      envelope.transaction.postConditions = options.postConditions ++ guards ∧
      operation.Guarded options.sender call guards ∧
      envelope.transaction.chainId = options.network.chainId ∧
      TiedTo chain options.network.family options.sender call envelope.transaction ∧
      ((∃ network, TiedTo network network options.sender call envelope.transaction) ↔
        options.network.family.OwnsChain options.network.chainId) := by
  obtain ⟨registryCall, chain, guards, hchain, rfl, hguarded⟩ := exists_guarded_of_draft h
  have htied := tiedTo_envelope registryCall guards hchain
  refine ⟨chain, _, guards, rfl, rfl, hguarded, rfl, htied, ?_⟩
  -- the chain fixes one of the families and the options the other
  rw [htied.exists_network_iff, NetworkFamily.ownsChain_iff, ← hchain, eq_comm]
  exact ⟨congrArg NetworkFamily.chainId, NetworkFamily.chainId_injective⟩

/-- On each of the two networks a transfer is drafted for this network. -/
theorem tiedTo_draft_sampleTransfer :
    (∃ envelope call guards, sampleTransfer.draft .sample = .ok envelope ∧
      envelope.transaction.payload = .call call ∧
      envelope.transaction.postConditions = .native .origin .sentLe 5 :: guards ∧
      sampleTransfer.Guarded DraftOptions.sample.sender call guards ∧
      TiedTo .testnet .testnet DraftOptions.sample.sender call envelope.transaction) ∧
    ∃ envelope call guards, sampleTransfer.draft mainOptions = .ok envelope ∧
      envelope.transaction.payload = .call call ∧
      envelope.transaction.postConditions = .native .origin .sentLe 5 :: guards ∧
      sampleTransfer.Guarded mainOptions.sender call guards ∧
      TiedTo .mainnet .mainnet mainOptions.sender call envelope.transaction := by
  refine ⟨?_, ?_⟩
  · obtain ⟨envelope, -, hdraft, -⟩ :=
      exists_draft_sample sampleTransfer isTopLevel_sampleTransfer length_texts_sampleTransfer
    obtain ⟨chain, call, guards, hcall, hconditions, hguards, hchain, htied, -⟩ :=
      tiedTo_draft hdraft
    obtain rfl : chain = .testnet :=
      NetworkFamily.chainId_injective ((NetworkFamily.ownsChain_iff.1 htied.chainId).trans hchain)
    exact ⟨envelope, call, guards, hdraft, hcall, hconditions, hguards, htied⟩
  · obtain ⟨envelope, hdraft⟩ := exists_draft_mainOptions
    obtain ⟨chain, call, guards, hcall, hconditions, hguards, hchain, htied, -⟩ :=
      tiedTo_draft hdraft
    obtain rfl : chain = .mainnet :=
      NetworkFamily.chainId_injective ((NetworkFamily.ownsChain_iff.1 htied.chainId).trans hchain)
    exact ⟨envelope, call, guards, hdraft, hcall, hconditions, hguards, htied⟩

/-- Options for the main network with the chain id of the test network. -/
def crossedOptions : DraftOptions :=
  { DraftOptions.sample with network := { Network.ofFamily .mainnet with chainId := 0x80000000 } }

/-- **Two networks in one draft.** Options for the main network with the chain id of the test
    network are not refused: the transaction has the version of the one network and calls the
    registry of the other. -/
theorem not_forall_tiedTo :
    ¬ ∀ (operation : Operation) (options : DraftOptions) (envelope : Envelope)
      (call : ContractCall), operation.draft options = .ok envelope →
      envelope.transaction.payload = .call call →
      ∃ network, TiedTo network network options.sender call envelope.transaction := by
  intro hall
  obtain ⟨envelope, -, hdraft, -⟩ : ∃ envelope bytes,
      sampleTransfer.draft crossedOptions = .ok envelope ∧
        Wire.encode envelope.transaction = .ok bytes :=
    exists_draft isTopLevel_sampleTransfer ⟨.testnet, rfl⟩ length_texts_sampleTransfer
      (by decide) (List.forall_mem_singleton.2 ⟨_, rfl⟩)
  obtain ⟨registryCall, chain, guards, -, hchain, -, rfl⟩ := exists_call_of_draft hdraft
  obtain rfl : chain = .testnet := NetworkFamily.chainId_injective hchain
  -- the version says the main network, the chain id the test network
  have htied : TiedTo .testnet .mainnet crossedOptions.sender _ _ :=
    tiedTo_envelope registryCall guards hchain
  have hone := htied.exists_network_iff.1 (hall _ _ _ _ hdraft rfl)
  cases hone

end Operation

end Registry

end Registrar
