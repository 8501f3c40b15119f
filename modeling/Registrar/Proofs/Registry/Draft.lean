import Registrar.Proofs.Registry.QualifiedName
import Registrar.Proofs.Transaction.Basic
import Registrar.Registry.Operation

namespace Registrar.Registry

open Wire

/-!
# Drafts of operations

A draft takes three steps, each of which may refuse the request: the call is put together,
for which a name is looked at; the registry is looked up on the chain; and the transaction
is written for its id. A transfer looks the registry up for its conditions too.

* `contractAt_cases` — the registry is known on the chains of the two families only;
* `RegistryCall.envelope`, `RegistryCall.draftCall_eq` — the call with options around it, which
  is what is drafted for it, as the registry's names pass their check;
* `Operation.name?` — the qualified name that an operation acts on, if it acts on one;
* `handsOver_cases` — what follows from a lookup that is made twice: nothing, as the conditions
  of a transfer are refused exactly where the registry to call is not found;
* `Operation.call_cases` — the name is all that a call can be refused for, and its conditions
  are refused for the chain only;
* `Operation.draft_eq_ok_iff` — a draft is made exactly if no step refuses it, and then it
  is the call with the options and its conditions around it;
* `Operation.exists_call_of_draft` — what a draft says of the call that it was made for.
-/

/-! ### The registry on a chain -/

/-- The chain of a family has the registry of the family. -/
theorem contractAt_of_chainId {family : NetworkFamily} {chainId : UInt32}
    (h : family.chainId = chainId) : contractAt chainId = .ok (.ofFamily family) := by
  subst h
  cases family <;> rfl

/-- **Chains.** The registry of a family is found on the chain of the family, and on other
    chains there is none. -/
theorem contractAt_cases (chainId : UInt32) :
    (∃ family : NetworkFamily, family.chainId = chainId ∧
      contractAt chainId = .ok (.ofFamily family)) ∨
    ((∀ family : NetworkFamily, family.chainId ≠ chainId) ∧
      contractAt chainId = .error (.unknownChain chainId)) := by
  by_cases h : ∃ family : NetworkFamily, family.chainId = chainId
  · obtain ⟨family, hfamily⟩ := h
    exact .inl ⟨family, hfamily, contractAt_of_chainId hfamily⟩
  · rw [not_exists] at h
    refine .inr ⟨h, ?_⟩
    have hnone : (NetworkFamily.all.find? fun family => family.chainId == chainId) = none := by
      simp only [List.find?_eq_none, beq_iff_eq]
      exact fun family _ => h family
    rw [contractAt, hnone]

/-- There is a registry on the chain of each family. -/
theorem exists_contractAt {chainId : UInt32}
    (h : ∃ family : NetworkFamily, family.chainId = chainId) :
    ∃ contract, contractAt chainId = .ok contract := by
  obtain ⟨family, hfamily⟩ := h
  exact ⟨_, contractAt_of_chainId hfamily⟩

/-- A registry that is found is that of the family with the chain. -/
theorem exists_family_of_contractAt {chainId : UInt32} {contract : RegistryContract}
    (h : contractAt chainId = .ok contract) :
    ∃ family : NetworkFamily, family.chainId = chainId ∧ contract = .ofFamily family := by
  obtain ⟨family, hfamily, hfound⟩ | ⟨-, hunknown⟩ := contractAt_cases chainId
  · exact ⟨family, hfamily, Except.ok.inj (h.symm.trans hfound)⟩
  · cases h.symm.trans hunknown

/-! ### Calls -/

/-- A call that is put together from a name of two labels. -/
theorem exists_labels_of_call {operation text : String} {f : QualifiedName → RegistryCall}
    {call : RegistryCall}
    (h : (do let name ← QualifiedName.parseTopLevel operation text; return f name) = .ok call) :
    ∃ name space : Label, text = name.text ++ "." ++ space.text ∧ call = f ⟨none, name, space⟩ := by
  obtain ⟨qualified, hparse, hcall⟩ := Except.bind_eq_ok_iff.1 h
  obtain ⟨name, space, htext, hfound⟩ | ⟨-, objection, hrefused⟩ :=
    QualifiedName.parseTopLevel_cases operation text
  · obtain rfl := Except.ok.inj (hparse.symm.trans hfound)
    exact ⟨name, space, htext, (Except.ok.inj hcall).symm⟩
  · cases hparse.symm.trans hrefused

/-! ### Calls with options around them -/

namespace RegistryCall

variable {call : RegistryCall} {family : NetworkFamily}

/-- The call of a registry with options around it, and its zone file beside it. -/
def envelope (call : RegistryCall) (contract : RegistryContract) (options : DraftOptions) :
    Envelope :=
  ⟨options.transaction (.call ⟨contract.deployer, contract.name, call.function, call.arguments⟩),
    call.attachment⟩

/-- **The names of a call** are given as texts and checked again. The name of the registry and
    that of a function pass, so what is drafted is the call with the options around it. -/
theorem draftCall_eq (call : RegistryCall) (family : NetworkFamily) (options : DraftOptions) :
    draftCall (RegistryContract.ofFamily family).deployer
      (RegistryContract.ofFamily family).name.text call.function.text call.arguments
      call.attachment options = .ok (call.envelope (.ofFamily family) options) := by
  -- names of contracts may be longer on the wire than as texts, but this one is short
  have hname : Name.ofText registryName.text = .ok registryName := Name.ofText_text (by decide)
  have hfunction : Name.ofText call.function.text = .ok call.function := Name.ofText_clarity _
  refine Except.bind_eq_ok_iff.2 ⟨registryName, hname, ?_⟩
  exact Except.bind_eq_ok_iff.2 ⟨call.function, hfunction, rfl⟩

/-- With a registry on the chain, all that is left to fail is writing the transaction. -/
theorem draft_eq (options : DraftOptions) (hchain : family.chainId = options.network.chainId) :
    call.draft options = do
      let _ ← (call.envelope (.ofFamily family) options).transaction.id.mapError .chain
      return call.envelope (.ofFamily family) options := by
  rw [draft, contractAt_of_chainId hchain]
  show ((draftCall _ _ _ _ _ options).mapError RegistryFault.chain >>= _) = _
  rw [draftCall_eq]
  rfl

/-- With a registry on the chain, a call is drafted exactly if it can be written then. -/
theorem draft_eq_ok_iff {envelope : Envelope} (options : DraftOptions)
    (hchain : family.chainId = options.network.chainId) :
    call.draft options = .ok envelope ↔
      (∃ bytes, encode (call.envelope (.ofFamily family) options).transaction = .ok bytes) ∧
        envelope = call.envelope (.ofFamily family) options := by
  rw [draft_eq options hchain]
  constructor
  · intro h
    obtain ⟨digest, hid, h⟩ := Except.bind_eq_ok_iff.1 h
    -- the id is only there to find out whether the transaction can be written
    rw [Except.mapError_eq_ok_iff, Transaction.id] at hid
    split at hid
    · next bytes hbytes => exact ⟨⟨bytes, hbytes⟩, (Except.ok.inj h).symm⟩
    · cases hid
  · rintro ⟨⟨bytes, hbytes⟩, rfl⟩
    have hid : (call.envelope (.ofFamily family) options).transaction.id.mapError
        RegistryFault.chain = .ok (Digest.Sha2.sha512t256 bytes) :=
      Except.mapError_eq_ok_iff.2 (Transaction.id_eq_ok hbytes)
    exact Except.bind_eq_ok_iff.2 ⟨_, hid, rfl⟩

end RegistryCall

/-! ### Conditions of calls -/

/-- The conditions of the call are there, or they are refused for the chain, as the registry
    to call is. -/
def RegistryCall.RefusedForChainOnly (call : RegistryCall) : Prop :=
  ∀ sender chainId,
    (∃ guards, call.guards sender chainId = .ok guards) ∨
    ∃ fault, call.guards sender chainId = .error fault ∧ contractAt chainId = .error fault

/-- The registry that the conditions of a transfer need is the one that is called. -/
theorem handsOver_of_contractAt {chainId : UInt32} {contract : RegistryContract}
    (h : contractAt chainId = .ok contract) (name : QualifiedName) (newOwner sender : Address) :
    handsOver name newOwner sender chainId = .ok
      [.token (.account sender) contract.namesAsset (tokenOf name.name.text name.space.text) .sent,
       .token (.account newOwner) contract.namesAsset (tokenOf name.name.text name.space.text)
        .notSent] := by
  rw [handsOver, h]
  rfl

/-- **The lookup of a transfer.** Its conditions need the registry, and are refused for exactly
    what the call is refused for; the lookup is made twice with one outcome. -/
theorem handsOver_cases (name : QualifiedName) (newOwner sender : Address) (chainId : UInt32) :
    (∃ contract guards, contractAt chainId = .ok contract ∧
      handsOver name newOwner sender chainId = .ok guards) ∨
    ∃ fault, handsOver name newOwner sender chainId = .error fault ∧
      contractAt chainId = .error fault := by
  cases hcontract : contractAt chainId with
  | ok contract => exact .inl ⟨contract, _, rfl, handsOver_of_contractAt hcontract _ _ _⟩
  | error fault =>
    refine .inr ⟨fault, ?_, rfl⟩
    rw [handsOver, hcontract]
    rfl

namespace Operation

/-- The qualified name that the operation acts on, if it acts on one. -/
def name? : Operation → Option String
  | nameImport name _ _ | namePreorder name _ _ | nameRegister name _ _ | nameUpdate name _
  | nameTransfer name _ _ | nameRevoke name | nameRenewal name _ _ _ => some name
  | spacePreorder _ _ _ | spaceReveal _ _ _ _ _ | spaceReady _ => none

variable {operation : Operation}

/-- A call is put together from the name that the operation acts on, or from nothing that
    could be refused; and its conditions are refused for the chain only. -/
theorem call_cases (operation : Operation) :
    (operation.name? = none ∧ ∃ call, operation.call = .ok call ∧ call.RefusedForChainOnly) ∨
    ∃ text verb, ∃ f : QualifiedName → RegistryCall, operation.name? = some text ∧
      (operation.call = do let name ← QualifiedName.parseTopLevel verb text; return f name) ∧
      ∀ name, (f name).RefusedForChainOnly := by
  -- most calls have their conditions without looking anything up
  cases operation with
  | spacePreorder _ _ _ => exact .inl ⟨rfl, _, rfl, fun _ _ => .inl ⟨_, rfl⟩⟩
  | spaceReveal _ _ _ _ _ => exact .inl ⟨rfl, _, rfl, fun _ _ => .inl ⟨_, rfl⟩⟩
  | spaceReady _ => exact .inl ⟨rfl, _, rfl, fun _ _ => .inl ⟨_, rfl⟩⟩
  | nameImport _ _ _ => exact .inr ⟨_, _, _, rfl, rfl, fun _ _ _ => .inl ⟨_, rfl⟩⟩
  | namePreorder _ _ _ => exact .inr ⟨_, _, _, rfl, rfl, fun _ _ _ => .inl ⟨_, rfl⟩⟩
  | nameRegister _ _ _ => exact .inr ⟨_, _, _, rfl, rfl, fun _ _ _ => .inl ⟨_, rfl⟩⟩
  | nameUpdate _ _ => exact .inr ⟨_, _, _, rfl, rfl, fun _ _ _ => .inl ⟨_, rfl⟩⟩
  | nameTransfer _ newOwner _ =>
    exact .inr ⟨_, _, _, rfl, rfl, fun name sender chainId =>
      (handsOver_cases name newOwner sender chainId).imp (fun ⟨_, _, _, h⟩ => ⟨_, h⟩) id⟩
  | nameRevoke _ => exact .inr ⟨_, _, _, rfl, rfl, fun _ _ _ => .inl ⟨_, rfl⟩⟩
  | nameRenewal _ _ _ _ => exact .inr ⟨_, _, _, rfl, rfl, fun _ _ _ => .inl ⟨_, rfl⟩⟩

/-- A name of two labels is not refused. -/
theorem exists_call (h : ∀ text, operation.name? = some text → IsTopLevel text) :
    ∃ call, operation.call = .ok call := by
  obtain ⟨-, call, hcall, -⟩ | ⟨text, verb, f, hname, hcall, -⟩ := operation.call_cases
  · exact ⟨call, hcall⟩
  · obtain ⟨name, space, -, hparse⟩ | ⟨hnot, -⟩ := QualifiedName.parseTopLevel_cases verb text
    · rw [hcall, hparse]
      exact ⟨_, rfl⟩
    · exact absurd (h text hname) hnot

/-- A text that is no name of two labels is refused. -/
theorem exists_objection {text : String} (hname : operation.name? = some text)
    (h : ¬ IsTopLevel text) : ∃ objection, operation.call = .error (.invalid objection) := by
  obtain ⟨hnone, -⟩ | ⟨text', verb, f, hname', hcall, -⟩ := operation.call_cases
  · cases hnone.symm.trans hname
  · obtain rfl := Option.some.inj (hname.symm.trans hname')
    obtain ⟨name, space, htext, -⟩ | ⟨-, objection, hparse⟩ :=
      QualifiedName.parseTopLevel_cases verb text
    · exact absurd ⟨name, space, htext⟩ h
    · rw [hcall, hparse]
      exact ⟨objection, rfl⟩

variable {options : DraftOptions} {call : RegistryCall} {contract : RegistryContract}
  {family : NetworkFamily} {guards : List PostCondition} {sender : Address} {chainId : UInt32}

/-- **The conditions of a call** are refused for the chain only. -/
theorem refusedForChainOnly_of_call (h : operation.call = .ok call) : call.RefusedForChainOnly := by
  obtain ⟨-, found, hfound, hguards⟩ | ⟨text, verb, f, -, hcall, hguards⟩ := operation.call_cases
  · obtain rfl := Except.ok.inj (h.symm.trans hfound)
    exact hguards
  · obtain ⟨name, space, -, rfl⟩ := exists_labels_of_call (hcall.symm.trans h)
    exact hguards _

/-- A call has its conditions wherever there is a registry. -/
theorem exists_guards (h : operation.call = .ok call)
    (hcontract : contractAt chainId = .ok contract) (sender : Address) :
    ∃ guards, call.guards sender chainId = .ok guards := by
  obtain hguards | ⟨fault, -, hfault⟩ := refusedForChainOnly_of_call h sender chainId
  · exact hguards
  · cases hcontract.symm.trans hfault

/-! ### Drafts -/

/-- **A draft** is made exactly if the call is put together, the registry is known and the
    transaction can be written; it is the call with the options around it, and behind the
    conditions of the options those of the call. -/
theorem draft_eq_ok_iff {envelope : Envelope} :
    operation.draft options = .ok envelope ↔
      ∃ call, ∃ family : NetworkFamily, ∃ guards bytes, operation.call = .ok call ∧
        family.chainId = options.network.chainId ∧
        call.guards options.sender options.network.chainId = .ok guards ∧
        encode (call.envelope (.ofFamily family) (options.guarded guards)).transaction =
          .ok bytes ∧
        envelope = call.envelope (.ofFamily family) (options.guarded guards) := by
  constructor
  · intro h
    obtain ⟨call, hcall, h⟩ := Except.bind_eq_ok_iff.1 h
    obtain ⟨guards, hguards, h⟩ := Except.bind_eq_ok_iff.1 h
    obtain ⟨contract, hcontract, -⟩ := Except.bind_eq_ok_iff.1 h
    obtain ⟨family, hfamily, -⟩ := exists_family_of_contractAt hcontract
    obtain ⟨⟨bytes, hbytes⟩, rfl⟩ :=
      (RegistryCall.draft_eq_ok_iff (options.guarded guards) hfamily).1 h
    exact ⟨call, family, guards, bytes, hcall, hfamily, hguards, hbytes, rfl⟩
  · rintro ⟨call, family, guards, bytes, hcall, hfamily, hguards, hbytes, rfl⟩
    refine Except.bind_eq_ok_iff.2 ⟨call, hcall, ?_⟩
    refine Except.bind_eq_ok_iff.2 ⟨guards, hguards, ?_⟩
    exact (RegistryCall.draft_eq_ok_iff (options.guarded guards) hfamily).2 ⟨⟨bytes, hbytes⟩, rfl⟩

/-- What is drafted is a call of the registry of some family. -/
theorem exists_call_of_draft {envelope : Envelope} (h : operation.draft options = .ok envelope) :
    ∃ call, ∃ family : NetworkFamily, ∃ guards, operation.call = .ok call ∧
      family.chainId = options.network.chainId ∧
      call.guards options.sender options.network.chainId = .ok guards ∧
      envelope = call.envelope (.ofFamily family) (options.guarded guards) := by
  obtain ⟨call, family, guards, -, hcall, hfamily, hguards, -, rfl⟩ := draft_eq_ok_iff.1 h
  exact ⟨call, family, guards, hcall, hfamily, hguards, rfl⟩

/-- The first refusal is that of the call. -/
theorem draft_of_call_error {fault : RegistryFault} (h : operation.call = .error fault) :
    operation.draft options = .error fault := by
  rw [draft, h]
  rfl

/-- The second refusal is that of the chain, whether it is the conditions of the call that
    are refused for it or the call itself. -/
theorem draft_of_contract_error {fault : RegistryFault} (hcall : operation.call = .ok call)
    (h : contractAt options.network.chainId = .error fault) :
    operation.draft options = .error fault := by
  have hguards := refusedForChainOnly_of_call hcall options.sender options.network.chainId
  refine Except.bind_eq_error_iff.2 (.inr ⟨call, hcall, ?_⟩)
  refine Except.bind_eq_error_iff.2 ?_
  obtain ⟨guards, hguards⟩ | ⟨found, hguards, hfound⟩ := hguards
  · exact .inr ⟨guards, hguards, Except.bind_eq_error_iff.2 (.inl h)⟩
  · obtain rfl := Except.error.inj (h.symm.trans hfound)
    exact .inl hguards

/-- The last refusal is for a transaction that cannot be written. -/
theorem exists_draft_eq_encode_error_iff (hcall : operation.call = .ok call)
    (hchain : family.chainId = options.network.chainId)
    (hguards : call.guards options.sender options.network.chainId = .ok guards) :
    (∃ fault, operation.draft options = .error (.chain (.encode fault))) ↔
      ¬ ∃ bytes,
        encode (call.envelope (.ofFamily family) (options.guarded guards)).transaction =
          .ok bytes := by
  have hdraft : operation.draft options = call.draft (options.guarded guards) := by
    rw [draft, hcall]
    show (call.guards options.sender options.network.chainId >>= _) = _
    rw [hguards]
    rfl
  rw [hdraft, RegistryCall.draft_eq (options.guarded guards) hchain]
  cases hencode :
    encode (call.envelope (.ofFamily family) (options.guarded guards)).transaction with
  | error fault =>
    have hid : (call.envelope (.ofFamily family) (options.guarded guards)).transaction.id =
        .error (.encode fault) := by
      rw [Transaction.id, hencode]
    rw [hid]
    exact iff_of_true ⟨fault, rfl⟩ (by simp)
  | ok bytes =>
    rw [Transaction.id_eq_ok hencode]
    refine iff_of_false ?_ (by simp)
    rintro ⟨fault, h⟩
    cases h

end Operation

end Registrar.Registry
