import Registrar.Proofs.Registry.Refusal

namespace Registrar.Registry.Operation

/-!
# Zone files travel with their digests

The chain keeps the digest of a zone file only, and the file travels beside the transaction.
A name whose digest is that of another file cannot be resolved, so the two have to be made
from the same bytes.

* `Operation.zonefile?` — the zone file that an operation was given;
* `Operation.Announces` — a call that states the digest of what travels beside it;
* `Operation.announces_of_call` — the call of each operation does, and what travels is the
  zone file that was given;
* `Operation.announces_draft` — so does every draft.
-/

/-! ### Files and digests -/

/-- The zone file that the operation was given, if it was given one. An empty file is one. -/
def zonefile? : Operation → Option Bytes
  | nameImport _ _ zonefile | nameRegister _ _ zonefile | nameUpdate _ zonefile => some zonefile
  | nameTransfer _ _ zonefile | nameRenewal _ _ _ zonefile => zonefile
  | spacePreorder _ _ _ | spaceReveal _ _ _ _ _ | spaceReady _ | namePreorder _ _ _
  | nameRevoke _ => none

/-- The call says of the zone file beside it what the registry expects for the operation.
    Where a file has to be there, the last argument is its digest. Where it may be missing,
    the last argument is the digest as a value that is there, or else no value. The other
    operations have no file beside them. -/
def Announces (call : ContractCall) (attachment : Option Bytes) : Operation → Prop
  | nameImport _ _ _ | nameRegister _ _ _ | nameUpdate _ _ =>
    ∃ file, attachment = some file ∧
      call.arguments.getLast? = some (.buffer (Digest.hash160 file).toList)
  | nameTransfer _ _ _ | nameRenewal _ _ _ _ =>
    (∃ file, attachment = some file ∧
      call.arguments.getLast? = some (.some (.buffer (Digest.hash160 file).toList))) ∨
    (attachment = none ∧ call.arguments.getLast? = some .none)
  | spacePreorder _ _ _ | spaceReveal _ _ _ _ _ | spaceReady _ | namePreorder _ _ _
  | nameRevoke _ => attachment = none

/-- **The attachment of a call** is the zone file that the operation was given, and the call
    announces it, whoever deployed the registry. -/
theorem announces_of_call {operation : Operation} {call : RegistryCall}
    (h : operation.call = .ok call) (contract : RegistryContract) :
    call.attachment = operation.zonefile? ∧
      operation.Announces ⟨contract.deployer, contract.name, call.function, call.arguments⟩
        call.attachment := by
  cases operation with
  -- A file that has to be there.
  | nameImport text owner zonefile =>
    obtain ⟨name, space, -, rfl⟩ := exists_labels_of_call h
    exact ⟨rfl, zonefile, rfl, rfl⟩
  | nameRegister text salt zonefile =>
    obtain ⟨name, space, -, rfl⟩ := exists_labels_of_call h
    exact ⟨rfl, zonefile, rfl, rfl⟩
  | nameUpdate text zonefile =>
    obtain ⟨name, space, -, rfl⟩ := exists_labels_of_call h
    exact ⟨rfl, zonefile, rfl, rfl⟩
  -- A file that may be missing.
  | nameTransfer text newOwner zonefile =>
    obtain ⟨name, space, -, rfl⟩ := exists_labels_of_call h
    cases zonefile with
    | none => exact ⟨rfl, .inr ⟨rfl, rfl⟩⟩
    | some file => exact ⟨rfl, .inl ⟨file, rfl, rfl⟩⟩
  | nameRenewal text burnt newOwner zonefile =>
    obtain ⟨name, space, -, rfl⟩ := exists_labels_of_call h
    cases zonefile with
    | none => exact ⟨rfl, .inr ⟨rfl, rfl⟩⟩
    | some file => exact ⟨rfl, .inl ⟨file, rfl, rfl⟩⟩
  -- Operations that no file belongs to.
  | spacePreorder _ _ _ =>
    obtain rfl := Except.ok.inj h
    exact ⟨rfl, rfl⟩
  | spaceReveal _ _ _ _ _ =>
    obtain rfl := Except.ok.inj h
    exact ⟨rfl, rfl⟩
  | spaceReady _ =>
    obtain rfl := Except.ok.inj h
    exact ⟨rfl, rfl⟩
  | namePreorder text salt burnt =>
    obtain ⟨name, space, -, rfl⟩ := exists_labels_of_call h
    exact ⟨rfl, rfl⟩
  | nameRevoke text =>
    obtain ⟨name, space, -, rfl⟩ := exists_labels_of_call h
    exact ⟨rfl, rfl⟩

/-! ### Drafts -/

/-- **Zone files travel with their digests.** Beside a draft travels the zone file that the
    operation was given, byte for byte, or nothing if it was given none; and the call of the
    draft announces what travels. -/
theorem announces_draft {operation : Operation} {options : DraftOptions} {envelope : Envelope}
    (h : operation.draft options = .ok envelope) :
    envelope.attachment = operation.zonefile? ∧
      ∃ call, envelope.transaction.payload = .call call ∧
        operation.Announces call envelope.attachment := by
  obtain ⟨call, family, guards, hcall, -, -, rfl⟩ := exists_call_of_draft h
  obtain ⟨hattachment, hannounces⟩ := announces_of_call hcall (.ofFamily family)
  exact ⟨hattachment, _, rfl, hannounces⟩

/-- A renewal with a zone file of no bytes. -/
def sampleRenewal : Operation := nameRenewal "alice.btc" 5 none (some [])

/-- An empty zone file is a zone file: it travels, and its digest is announced. -/
theorem announces_draft_sampleRenewal :
    ∃ envelope call, sampleRenewal.draft .sample = .ok envelope ∧
      envelope.attachment = some [] ∧ envelope.transaction.payload = .call call ∧
      sampleRenewal.Announces call (some []) := by
  have hname : ∀ text, sampleRenewal.name? = some text → IsTopLevel text := by
    rintro _ ⟨⟩
    decide
  have htexts : ∀ text ∈ sampleRenewal.texts, (Text.bytes text).length < UInt32.size :=
    List.forall_mem_singleton.2 (by decide)
  obtain ⟨envelope, -, hdraft, -⟩ := exists_draft_sample sampleRenewal hname htexts
  obtain ⟨hattachment, call, hcall, hannounces⟩ := announces_draft hdraft
  rw [hattachment] at hannounces
  exact ⟨envelope, call, hdraft, hattachment, hcall, hannounces⟩

end Registrar.Registry.Operation
