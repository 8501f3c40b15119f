import Registrar.Proofs.Registry.Refusal

namespace Registrar

/-!
# Conditions that guard a call

An operation that burns coins or hands over a name is guarded by conditions, which stand
behind those of the caller. They have to be about what the call does: assets that no
condition is about may not move, and a condition about others guards nothing.

* `SpendingCondition.signer_ofKey`, `DraftOptions.signer_authorization` — the sender is the
  account that the origin signs for;
* `DraftOptions.version_sender` — and an account of a single key on the network;
* `Operation.Guarded` — the conditions that are right for the call of an operation;
* `Operation.guarded_of_call` — the call of each operation brings these conditions;
* `Operation.exists_guarded_of_draft` — a draft is a call with the right conditions;
* `Operation.guarded_draft` — it has them behind those of the caller, and no others.
-/

/-! ### The sender -/

/-- **One digest of a key.** The key is hashed once for its account and once for the condition
    that it signs for, with one outcome. -/
theorem SpendingCondition.signer_ofKey (version : AddressVersion) (key : PublicKey)
    (nonce fee : UInt64) :
    (ofKey key nonce fee).signer = (Address.ofKey version key).hash := by
  simp only [ofKey, signer, Address.ofKey]

/-- The origin signs for the sender. -/
theorem DraftOptions.signer_authorization (options : DraftOptions) :
    options.authorization.origin.signer = options.sender.hash := by
  have hsigner := SpendingCondition.signer_ofKey options.network.family.addressVersion
    options.publicKey options.nonce
  -- with a sponsor the fee is another one, but the signer is the same
  unfold authorization
  split
  · exact hsigner 0
  · exact hsigner options.fee

/-- The sender is an account of a single key, on the network of the options. -/
theorem DraftOptions.version_sender (options : DraftOptions) :
    (options.network.family = .mainnet → options.sender.version = .mainnetSingle) ∧
    (options.network.family = .testnet → options.sender.version = .testnetSingle) := by
  have hversion : options.sender.version = options.network.family.addressVersion := rfl
  rw [hversion]
  cases options.network.family <;> decide

namespace Registry.Operation

/-! ### The right conditions -/

/-- The conditions are right for the call that a sender makes for the operation. Where the
    call states a price, they have the sender send exactly this many coins. Where it states
    a name and a new owner, they have the sender send the token of this name, which is one
    of the called contract, and the new owner keep it. There are none for other calls. -/
def Guarded (sender : Address) (call : ContractCall) (guards : List PostCondition) :
    Operation → Prop
  | spacePreorder _ _ burnt | namePreorder _ _ burnt =>
    ∃ digest price, call.arguments = [digest, .uint price] ∧ price.toNat = burnt.toNat ∧
      guards = [.native (.account sender) .sentEq burnt]
  | nameRenewal _ burnt _ _ =>
    ∃ space name price owner zonefile,
      call.arguments = [space, name, .uint price, owner, zonefile] ∧
      price.toNat = burnt.toNat ∧ guards = [.native (.account sender) .sentEq burnt]
  | nameTransfer _ newOwner _ =>
    ∃ space name zonefile, ∃ asset : Asset, ∃ token : Tuple Value,
      call.arguments = [.buffer space, .buffer name, .principal (.account newOwner), zonefile] ∧
      asset.deployer = call.deployer ∧ asset.contract = call.contract ∧
      asset.name.text = "names" ∧
      token.toList.map (fun entry => (entry.1.text, entry.2)) =
        [("name", .buffer name), ("namespace", .buffer space)] ∧
      guards = [.token (.account sender) asset (.tuple token) .sent,
        .token (.account newOwner) asset (.tuple token) .notSent]
  | spaceReveal _ _ _ _ _ | spaceReady _ | nameImport _ _ _ | nameRegister _ _ _
  | nameUpdate _ _ | nameRevoke _ => guards = []

/-- A price of 64 bits is stated as it is. -/
theorem toNat_price (burnt : UInt64) : (BitVec.ofNat 128 burnt.toNat).toNat = burnt.toNat := by
  rw [BitVec.toNat_ofNat]
  exact Nat.mod_eq_of_lt (Nat.lt_trans burnt.toNat_lt (by decide))

/-- **The conditions of a call** are the right ones for the call of the registry on the chain,
    for any sender and any chain that has one. -/
theorem guarded_of_call {operation : Operation} {call : RegistryCall} {sender : Address}
    {chainId : UInt32} {contract : RegistryContract} {guards : List PostCondition}
    (h : operation.call = .ok call) (hcontract : contractAt chainId = .ok contract)
    (hguards : call.guards sender chainId = .ok guards) :
    operation.Guarded sender ⟨contract.deployer, contract.name, call.function, call.arguments⟩
      guards := by
  cases operation with
  -- Operations that are paid for.
  | spacePreorder space salt burnt =>
    obtain rfl := Except.ok.inj h
    obtain rfl := Except.ok.inj hguards
    exact ⟨_, _, rfl, toNat_price burnt, rfl⟩
  | namePreorder text salt burnt =>
    obtain ⟨name, space, -, rfl⟩ := exists_labels_of_call h
    obtain rfl := Except.ok.inj hguards
    exact ⟨_, _, rfl, toNat_price burnt, rfl⟩
  | nameRenewal text burnt newOwner zonefile =>
    obtain ⟨name, space, -, rfl⟩ := exists_labels_of_call h
    obtain rfl := Except.ok.inj hguards
    exact ⟨_, _, _, _, _, rfl, toNat_price burnt, rfl⟩
  -- The one operation that hands a name over. Its own lookup finds the registry that is called.
  | nameTransfer text newOwner zonefile =>
    obtain ⟨name, space, -, rfl⟩ := exists_labels_of_call h
    have hfound := handsOver_of_contractAt hcontract ⟨none, name, space⟩ newOwner sender
    obtain rfl := Except.ok.inj (hguards.symm.trans hfound)
    refine ⟨_, _, _, contract.namesAsset, _, rfl, rfl, rfl, rfl, ?_, rfl⟩
    rw [Tuple.toList_ofIncreasing]
    rfl
  -- The others bring no conditions.
  | spaceReveal _ _ _ _ _ =>
    obtain rfl := Except.ok.inj h
    exact (Except.ok.inj hguards).symm
  | spaceReady _ =>
    obtain rfl := Except.ok.inj h
    exact (Except.ok.inj hguards).symm
  | nameImport text owner zonefile =>
    obtain ⟨name, space, -, rfl⟩ := exists_labels_of_call h
    exact (Except.ok.inj hguards).symm
  | nameRegister text salt zonefile =>
    obtain ⟨name, space, -, rfl⟩ := exists_labels_of_call h
    exact (Except.ok.inj hguards).symm
  | nameUpdate text zonefile =>
    obtain ⟨name, space, -, rfl⟩ := exists_labels_of_call h
    exact (Except.ok.inj hguards).symm
  | nameRevoke text =>
    obtain ⟨name, space, -, rfl⟩ := exists_labels_of_call h
    exact (Except.ok.inj hguards).symm

/-! ### Drafts -/

/-- What is drafted is a call of the registry of some family, with the conditions that are
    right for it. -/
theorem exists_guarded_of_draft {operation : Operation} {options : DraftOptions}
    {envelope : Envelope} (h : operation.draft options = .ok envelope) :
    ∃ (call : RegistryCall) (family : NetworkFamily) (guards : List PostCondition),
      family.chainId = options.network.chainId ∧
      envelope = call.envelope (.ofFamily family) (options.guarded guards) ∧
      operation.Guarded options.sender
        ⟨(RegistryContract.ofFamily family).deployer, (RegistryContract.ofFamily family).name,
          call.function, call.arguments⟩ guards := by
  obtain ⟨call, family, guards, hcall, hchain, hguards, henvelope⟩ := exists_call_of_draft h
  exact ⟨call, family, guards, hchain, henvelope,
    guarded_of_call hcall (contractAt_of_chainId hchain) hguards⟩

/-- **Drafts are guarded.** The conditions of a draft are those of the caller, in their order,
    and behind them the ones that are right for the call. They take for the sender the
    account whose digest the origin signs for, with the version of a single key on the network
    of the options. -/
theorem guarded_draft {operation : Operation} {options : DraftOptions} {envelope : Envelope}
    (h : operation.draft options = .ok envelope) :
    ∃ sender call guards, envelope.transaction.payload = .call call ∧
      envelope.transaction.postConditions = options.postConditions ++ guards ∧
      sender.hash = envelope.transaction.authorization.origin.signer ∧
      (options.network.family = .mainnet → sender.version = .mainnetSingle) ∧
      (options.network.family = .testnet → sender.version = .testnetSingle) ∧
      operation.Guarded sender call guards := by
  obtain ⟨call, family, guards, -, rfl, hguarded⟩ := exists_guarded_of_draft h
  obtain ⟨hmainnet, htestnet⟩ := options.version_sender
  exact ⟨options.sender, _, guards, rfl, rfl, options.signer_authorization.symm, hmainnet, htestnet,
    hguarded⟩

/-- Options for the main network. -/
def mainOptions : DraftOptions := { DraftOptions.sample with network := .ofFamily .mainnet }

theorem exists_draft_mainOptions : ∃ envelope, sampleTransfer.draft mainOptions = .ok envelope := by
  obtain ⟨envelope, -, hdraft, -⟩ : ∃ envelope bytes,
      sampleTransfer.draft mainOptions = .ok envelope ∧
        Wire.encode envelope.transaction = .ok bytes :=
    exists_draft isTopLevel_sampleTransfer ⟨.mainnet, rfl⟩ length_texts_sampleTransfer
      (by decide) (List.forall_mem_singleton.2 ⟨_, rfl⟩)
  exact ⟨envelope, hdraft⟩

/-- The conditions of one transfer on the test network and on the main network. -/
theorem guarded_draft_sampleTransfer :
    (∃ envelope sender call guards, sampleTransfer.draft .sample = .ok envelope ∧
      envelope.transaction.payload = .call call ∧
      envelope.transaction.postConditions = .native .origin .sentLe 5 :: guards ∧
      sender.hash = envelope.transaction.authorization.origin.signer ∧
      sender.version = .testnetSingle ∧ sampleTransfer.Guarded sender call guards) ∧
    ∃ envelope sender call guards, sampleTransfer.draft mainOptions = .ok envelope ∧
      envelope.transaction.payload = .call call ∧
      envelope.transaction.postConditions = .native .origin .sentLe 5 :: guards ∧
      sender.hash = envelope.transaction.authorization.origin.signer ∧
      sender.version = .mainnetSingle ∧ sampleTransfer.Guarded sender call guards := by
  refine ⟨?_, ?_⟩
  · obtain ⟨envelope, -, hdraft, -⟩ :=
      exists_draft_sample sampleTransfer isTopLevel_sampleTransfer length_texts_sampleTransfer
    obtain ⟨sender, call, guards, hcall, hconditions, hhash, -, hversion, hguards⟩ :=
      guarded_draft hdraft
    exact ⟨envelope, sender, call, guards, hdraft, hcall, hconditions, hhash, hversion rfl,
      hguards⟩
  · obtain ⟨envelope, hdraft⟩ := exists_draft_mainOptions
    obtain ⟨sender, call, guards, hcall, hconditions, hhash, hversion, -, hguards⟩ :=
      guarded_draft hdraft
    exact ⟨envelope, sender, call, guards, hdraft, hcall, hconditions, hhash, hversion rfl,
      hguards⟩

end Registry.Operation

end Registrar
