import Registrar.Proofs.Registry.Writing
import Registrar.Proofs.Transaction.Draft

namespace Registrar.Registry.Operation

open Wire

/-!
# When drafts are made

A request for an operation is refused for its name, for its chain or for a condition of the
caller, in this order, and for nothing else.

* `Operation.exists_encode_envelope_iff` — the transaction is written exactly if the
  conditions of the caller are;
* `Operation.exists_draft` — a request that there is no reason to refuse is drafted;
* `Operation.draft_outcome` — the outcome of every request.
-/

variable {operation : Operation} {options : DraftOptions} {call : RegistryCall}
  {family : NetworkFamily} {guards : List PostCondition}

/-- **What the registry adds** to a request can be written, so the transaction is written
    exactly if the conditions of the caller are. -/
theorem exists_encode_envelope_iff (hcall : call.Writable)
    (hguards : call.guards options.sender options.network.chainId = .ok guards)
    (hcount : options.postConditions.length < UInt32.size - 2) :
    (∃ bytes, encode (call.envelope (.ofFamily family) (options.guarded guards)).transaction =
        .ok bytes) ↔
      ∀ condition ∈ options.postConditions, ∃ bytes, encode condition = .ok bytes := by
  obtain ⟨hlength, hwritable⟩ := hcall.guards _ _ guards hguards
  have harguments : ∃ bytes, encode call.arguments = .ok bytes :=
    exists_encode_items_iff.2 ⟨hcall.length_arguments, hcall.arguments⟩
  have hpayload : ∃ bytes, encode (Payload.call ⟨(RegistryContract.ofFamily family).deployer,
      (RegistryContract.ofFamily family).name, call.function, call.arguments⟩) = .ok bytes :=
    Payload.exists_encode_call_iff.2 harguments
  refine DraftOptions.exists_encode_transaction_iff.trans ?_
  simp only [DraftOptions.guarded, List.length_append, List.forall_mem_append]
  constructor
  · rintro ⟨-, ⟨hconditions, -⟩, -⟩
    exact hconditions
  · intro hconditions
    -- A call brings two conditions at most, for which the caller has left room.
    have hall : options.postConditions.length + guards.length < UInt32.size := by omega
    exact ⟨hall, ⟨hconditions, hwritable⟩, hpayload⟩

/-- **A request that there is no reason to refuse** is drafted. -/
theorem exists_draft (hname : ∀ text, operation.name? = some text → IsTopLevel text)
    (hchain : ∃ family : NetworkFamily, family.chainId = options.network.chainId)
    (htexts : ∀ text ∈ operation.texts, (Text.bytes text).length < UInt32.size)
    (hcount : options.postConditions.length < UInt32.size - 2)
    (hconditions : ∀ condition ∈ options.postConditions, ∃ bytes, encode condition = .ok bytes) :
    ∃ envelope bytes, operation.draft options = .ok envelope ∧
      encode envelope.transaction = .ok bytes := by
  obtain ⟨call, hcall⟩ := exists_call hname
  obtain ⟨contract, hcontract⟩ := exists_contractAt hchain
  obtain ⟨family, hfamily⟩ := hchain
  obtain ⟨guards, hguards⟩ := exists_guards hcall hcontract options.sender
  have hwritable := writable_of_call htexts hcall
  obtain ⟨bytes, hbytes⟩ :=
    (exists_encode_envelope_iff hwritable hguards hcount).2 hconditions
  exact ⟨_, bytes, draft_eq_ok_iff.2 ⟨call, family, guards, bytes, hcall, hfamily, hguards, hbytes,
    rfl⟩, hbytes⟩

/-- With the sample options there is no reason but the name to refuse a request. -/
theorem exists_draft_sample (operation : Operation)
    (hname : ∀ text, operation.name? = some text → IsTopLevel text)
    (htexts : ∀ text ∈ operation.texts, (Text.bytes text).length < UInt32.size) :
    ∃ envelope bytes, operation.draft .sample = .ok envelope ∧
      encode envelope.transaction = .ok bytes := by
  refine exists_draft hname ⟨.testnet, rfl⟩ htexts ?_ ?_
  · show 1 < UInt32.size - 2
    decide
  · exact List.forall_mem_singleton.2 ⟨_, rfl⟩

/-- **The outcome of a request.** An operation that acts on a qualified name objects to a
    text that is not two labels. If there is nothing to object to, a chain without a registry
    is refused. If there is a registry, the request is refused exactly for a condition of the
    caller that cannot be written, and with all of them written it is drafted; then the
    transaction has a wire form, which is read back as it, and both digests. -/
theorem draft_outcome (operation : Operation) (options : DraftOptions) :
    (∀ text, operation.name? = some text → ¬ IsTopLevel text →
      ∃ objection, operation.draft options = .error (.invalid objection)) ∧
    ((∀ text, operation.name? = some text → IsTopLevel text) →
      ((∀ family : NetworkFamily, family.chainId ≠ options.network.chainId) →
        operation.draft options = .error (.unknownChain options.network.chainId)) ∧
      ((∃ family : NetworkFamily, family.chainId = options.network.chainId) →
        (∀ text ∈ operation.texts, (Text.bytes text).length < UInt32.size) →
        options.postConditions.length < UInt32.size - 2 →
        ((∃ fault, operation.draft options = .error (.chain (.encode fault))) ↔
          ∃ condition ∈ options.postConditions, ∃ fault, encode condition = .error fault) ∧
        ((∀ condition ∈ options.postConditions, ∃ bytes, encode condition = .ok bytes) →
          ∃ envelope bytes digest sighash, operation.draft options = .ok envelope ∧
            encode envelope.transaction = .ok bytes ∧
            envelope.transaction.id = .ok digest ∧
            envelope.transaction.initialSighash = .ok sighash ∧
            ofBytes bytes = .ok envelope.transaction))) := by
  refine ⟨?_, fun hname => ⟨?_, ?_⟩⟩
  -- The name is looked at first, so the chain and the conditions do not matter.
  · intro text htext hnot
    obtain ⟨objection, hcall⟩ := exists_objection htext hnot
    exact ⟨objection, draft_of_call_error hcall⟩
  -- There is a call, but no registry to make it to.
  · intro hchain
    obtain ⟨call, hcall⟩ := exists_call hname
    obtain ⟨family, hfamily, -⟩ | ⟨-, hcontract⟩ := contractAt_cases options.network.chainId
    · exact absurd hfamily (hchain family)
    · exact draft_of_contract_error hcall hcontract
  -- There is a call and a registry, so only writing the transaction can fail.
  · intro hchain htexts hcount
    refine ⟨?_, ?_⟩
    · obtain ⟨call, hcall⟩ := exists_call hname
      obtain ⟨contract, hcontract⟩ := exists_contractAt hchain
      obtain ⟨family, hfamily⟩ := hchain
      obtain ⟨guards, hguards⟩ := exists_guards hcall hcontract options.sender
      have hwritable := writable_of_call htexts hcall
      rw [exists_draft_eq_encode_error_iff hcall hfamily hguards,
        exists_encode_envelope_iff hwritable hguards hcount]
      simp only [Except.exists_eq_error_iff, not_forall, exists_prop]
    · intro hconditions
      obtain ⟨envelope, bytes, hdraft, hbytes⟩ :=
        exists_draft hname hchain htexts hcount hconditions
      obtain ⟨form, hform⟩ := Transaction.exists_encode_unsigned hbytes
      exact ⟨envelope, bytes, _, _, hdraft, hbytes, Transaction.id_eq_ok hbytes,
        Transaction.id_eq_ok hform, ofBytes_of_reads (reads hbytes)⟩

/-- A name with a letter outside ASCII changes hands. -/
def sampleTransfer : Operation := nameTransfer "álice.btc" Transaction.sampleDeployer none

/-- Options for a chain of the test network that has no registry. -/
def strayOptions : DraftOptions :=
  { DraftOptions.sample with network := ⟨.testnet, 2, NetworkFamily.testnet.publicUrl⟩ }

/-- Options with a condition whose token is not the ASCII text that it says to be. -/
def unwritableOptions : DraftOptions :=
  { DraftOptions.sample with postConditions :=
      [.token .origin (RegistryContract.ofFamily .testnet).namesAsset (.ascii "é") .sent] }

theorem isTopLevel_sampleTransfer : ∀ text, sampleTransfer.name? = some text → IsTopLevel text := by
  rintro _ ⟨⟩
  decide

theorem length_texts_sampleTransfer :
    ∀ text ∈ sampleTransfer.texts, (Text.bytes text).length < UInt32.size :=
  List.forall_mem_singleton.2 (by decide)

/-- One request for each way in which a request can end. -/
theorem draft_outcome_sampleTransfer :
    (∃ objection, (nameRevoke "alice..btc").draft strayOptions = .error (.invalid objection)) ∧
    sampleTransfer.draft strayOptions = .error (.unknownChain 2) ∧
    (∃ fault, sampleTransfer.draft unwritableOptions = .error (.chain (.encode fault))) ∧
    ∃ envelope bytes digest sighash, sampleTransfer.draft .sample = .ok envelope ∧
      encode envelope.transaction = .ok bytes ∧ envelope.transaction.id = .ok digest ∧
      envelope.transaction.initialSighash = .ok sighash ∧
      ofBytes bytes = .ok envelope.transaction := by
  have hname := isTopLevel_sampleTransfer
  have htexts := length_texts_sampleTransfer
  have hcount : 1 < UInt32.size - 2 := by decide
  refine ⟨?_, ?_, ?_, ?_⟩
  -- the chain is unknown here too, but the name is refused first
  · exact (draft_outcome (nameRevoke "alice..btc") strayOptions).1 "alice..btc" rfl (by decide)
  · refine ((draft_outcome sampleTransfer strayOptions).2 hname).1 ?_
    rintro (_ | _) <;> decide
  · have houtcome := (draft_outcome sampleTransfer unwritableOptions).2 hname
    refine (houtcome.2 ⟨.testnet, rfl⟩ htexts hcount).1.2 ?_
    exact ⟨_, List.mem_singleton_self _, _, rfl⟩
  · have houtcome := (draft_outcome sampleTransfer .sample).2 hname
    refine (houtcome.2 ⟨.testnet, rfl⟩ htexts hcount).2 ?_
    exact List.forall_mem_singleton.2 ⟨_, rfl⟩

end Registrar.Registry.Operation
