import Registrar.Proofs.Registry.Refusal

namespace Registrar

open Wire

/-!
# What the origin of a drafted operation signs

The conditions that an operation brings depend on who sends it, and its registry on the
chain, so its draft is not a payload with the options around it. Still it signs as drafted.

* `RegistryCall.unsigned_envelope`, `RegistryCall.draft_fee` — what becomes of the nonce and
  the fee around a call;
* `SignsAsDrafted.of_operation` — operations sign as drafted;
* `signsAsDrafted` — and so do all drafts.
-/

namespace Registry

variable {contract : RegistryContract} {options : DraftOptions}

/-- The unsigned form of a call with the options around it has nonce and fee zero. -/
theorem RegistryCall.unsigned_envelope (call : RegistryCall) :
    (call.envelope contract options).transaction.unsigned =
      (call.envelope contract options.zeroed).transaction :=
  options.unsigned_transaction _

/-- The registry is called by a draft as any contract is, so the fee is left to the sponsor. -/
theorem RegistryCall.draft_fee (call : RegistryCall) (options : DraftOptions)
    (h : options.sponsored = true) (fee : UInt64) :
    call.draft { options with fee } = call.draft options := by
  have hfee : ∀ deployer contract function arguments attachment,
      draftCall deployer contract function arguments attachment { options with fee } =
        draftCall deployer contract function arguments attachment options :=
    fun deployer contract function arguments attachment =>
      (SignsAsDrafted.draftCall deployer contract function arguments attachment).fee options fee h
  simp only [RegistryCall.draft, hfee]

end Registry

open Registry

/-- **Operations** sign as drafted. -/
theorem SignsAsDrafted.of_operation (operation : Operation) : SignsAsDrafted operation.draft where
  initialSighash options envelope bytes h _ := by
    obtain ⟨call, family, guards, written, hcall, hchain, hguards, hwritten, rfl⟩ :=
      Operation.draft_eq_ok_iff.1 h
    obtain ⟨form, hform⟩ := Transaction.exists_encode_unsigned hwritten
    have hdigest := Transaction.id_eq_ok hform
    -- the draft with nonce and fee zero is the unsigned form, so it can be written
    rw [call.unsigned_envelope] at hform
    have hblank : operation.draft options.zeroed =
        .ok (call.envelope (.ofFamily family) (options.zeroed.guarded guards)) :=
      Operation.draft_eq_ok_iff.2 ⟨call, family, guards, form, hcall, hchain, hguards, hform, rfl⟩
    exact ⟨_, _, hblank, Transaction.id_eq_ok hform, hdigest⟩
  fee options fee h := by
    -- the conditions of a call depend on the sender and the chain, not on the fee
    have hcall : ∀ (call : RegistryCall) (guards : List PostCondition),
        call.draft (DraftOptions.guarded { options with fee } guards) =
          call.draft (options.guarded guards) :=
      fun call guards => call.draft_fee (options.guarded guards) h fee
    show (operation.call >>= fun call =>
      call.guards options.sender options.network.chainId >>= fun guards =>
        call.draft (DraftOptions.guarded { options with fee } guards)) = _
    simp only [hcall, Operation.draft]
  url options url := rfl

/-- **All drafts** sign as drafted: calls, deployments, transfers and operations. -/
theorem signsAsDrafted :
    (∀ deployer contract function arguments attachment,
      SignsAsDrafted (draftCall deployer contract function arguments attachment)) ∧
    (∀ name code version, SignsAsDrafted (draftDeploy name code version)) ∧
    (∀ recipient amount memo, SignsAsDrafted (draftTransfer recipient amount memo)) ∧
    ∀ operation : Operation, SignsAsDrafted operation.draft :=
  ⟨.draftCall, .draftDeploy, .draftTransfer, .of_operation⟩

/-- Options for a sponsor to pay. -/
def DraftOptions.sponsoredSample : DraftOptions := { DraftOptions.sample with sponsored := true }

/-- A sponsored transfer with nonce and fee set, and with another fee. -/
theorem signsAsDrafted_sampleTransfer :
    ∃ envelope blank digest, Operation.sampleTransfer.draft .sponsoredSample = .ok envelope ∧
      Operation.sampleTransfer.draft DraftOptions.sponsoredSample.zeroed = .ok blank ∧
      blank.transaction.id = .ok digest ∧ envelope.transaction.initialSighash = .ok digest ∧
      Operation.sampleTransfer.draft { DraftOptions.sponsoredSample with fee := 9 } =
        .ok envelope := by
  obtain ⟨envelope, bytes, hdraft, hbytes⟩ : ∃ envelope bytes,
      Operation.sampleTransfer.draft .sponsoredSample = .ok envelope ∧
        encode envelope.transaction = .ok bytes :=
    Operation.exists_draft Operation.isTopLevel_sampleTransfer ⟨.testnet, rfl⟩
      Operation.length_texts_sampleTransfer (by decide) (List.forall_mem_singleton.2 ⟨_, rfl⟩)
  have hsigns := signsAsDrafted.2.2.2 Operation.sampleTransfer
  obtain ⟨blank, digest, hblank, hid, hsighash⟩ :=
    hsigns.initialSighash _ envelope bytes hdraft hbytes
  exact ⟨envelope, blank, digest, hdraft, hblank, hid, hsighash,
    (hsigns.fee _ 9 rfl).trans hdraft⟩

end Registrar
