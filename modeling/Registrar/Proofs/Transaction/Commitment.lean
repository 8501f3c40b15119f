import Registrar.Proofs.Outcome
import Registrar.Proofs.Transaction.Basic

namespace Registrar

open Wire

/-!
# What the first signature of the origin covers

The origin signs a digest of the transaction in its unsigned form. Here that form is
compared with the parts of a transaction that it is meant to cover.

* `Transaction.commitment` — the parts that are covered;
* `Transaction.resigned` — the transaction with all other parts replaced;
* `Transaction.commitment_eq_iff_exists_resigned` — there are no parts besides these;
* `Transaction.unsigned_eq_iff` — the unsigned form keeps the covered parts and no other;
* `Transaction.exists_encode_unsigned_eq_iff` — two transactions have the same bytes digested
  exactly if they agree in the covered parts.
-/

/-! ### Covered parts -/

/-- What is covered of a spending condition. -/
inductive SpendingCondition.Commitment where
  | single (hashMode : SingleHashMode) (signer : Hash160) (keyEncoding : KeyEncoding)
  | multi (hashMode : MultiHashMode) (signer : Hash160) (signaturesRequired : UInt16)
deriving DecidableEq

/-- What is covered of the condition: how many sign, who and how, but neither what they
    pay nor their signatures. -/
def SpendingCondition.commitment : SpendingCondition → SpendingCondition.Commitment
  | single condition => .single condition.hashMode condition.signer condition.keyEncoding
  | multi condition => .multi condition.hashMode condition.signer condition.signaturesRequired

/-- Whether a sponsor pays. -/
def Authorization.isSponsored : Authorization → Bool
  | standard _ => false
  | sponsored _ _ => true

/-- What is covered of a transaction. -/
structure Transaction.Commitment where
  version : TransactionVersion
  chainId : UInt32
  sponsored : Bool
  origin : SpendingCondition.Commitment
  anchorMode : AnchorMode
  postConditionMode : PostConditionMode
  postConditions : List PostCondition
  payload : Payload
deriving DecidableEq

/-- What is covered of the transaction: everything but its authorization, whether a sponsor
    pays, and what is covered of the origin's condition. -/
def Transaction.commitment (t : Transaction) : Transaction.Commitment where
  version := t.version
  chainId := t.chainId
  sponsored := t.authorization.isSponsored
  origin := t.authorization.origin.commitment
  anchorMode := t.anchorMode
  postConditionMode := t.postConditionMode
  postConditions := t.postConditions
  payload := t.payload

/-! ### Parts left open -/

/-- What the origin leaves open when it signs first. -/
structure Transaction.Signing where
  nonce : UInt64
  fee : UInt64
  /-- The signature of a single signer. -/
  signature : Signature
  /-- The keys and signatures of several signers. -/
  fields : List AuthField
  /-- The condition of the sponsor, if there is one. -/
  sponsor : SpendingCondition

/-- The condition with other nonce, fee and signatures. -/
def SpendingCondition.resigned (signing : Transaction.Signing) :
    SpendingCondition → SpendingCondition
  | single condition => single { condition with
      nonce := signing.nonce, fee := signing.fee, signature := signing.signature }
  | multi condition => multi { condition with
      nonce := signing.nonce, fee := signing.fee, fields := signing.fields }

/-- The authorization with other nonce, fee and signatures of the origin, and with another
    sponsor if it has one. -/
def Authorization.resigned (signing : Transaction.Signing) : Authorization → Authorization
  | standard origin => standard (origin.resigned signing)
  | sponsored origin _ => sponsored (origin.resigned signing) signing.sponsor

/-- The transaction with all that the origin leaves open replaced. -/
def Transaction.resigned (t : Transaction) (signing : Transaction.Signing) : Transaction :=
  { t with authorization := t.authorization.resigned signing }

/-! ### Conditions and authorizations -/

namespace SpendingCondition

/-- **Clearing** a condition keeps what is covered of it and nothing else. -/
theorem cleared_eq_iff {c d : SpendingCondition} :
    c.cleared = d.cleared ↔ c.commitment = d.commitment := by
  cases c <;> cases d <;> simp [cleared, commitment]

/-- Signing again keeps what a condition commits to. -/
theorem commitment_resigned (signing : Transaction.Signing) (c : SpendingCondition) :
    (c.resigned signing).commitment = c.commitment := by
  cases c <;> rfl

/-- Conditions that agree in what is covered differ in what is left open only. -/
theorem exists_resigned_of_commitment_eq {c d : SpendingCondition} (sponsor : SpendingCondition)
    (h : c.commitment = d.commitment) :
    ∃ signing, d = c.resigned signing ∧ signing.sponsor = sponsor := by
  cases c with
  | single c =>
    cases d with
    | multi d => cases h
    | single d =>
      simp only [commitment, Commitment.single.injEq] at h
      -- what is not committed to is taken from the other condition
      refine ⟨⟨d.nonce, d.fee, d.signature, [], sponsor⟩, ?_, rfl⟩
      simp only [resigned, h]
  | multi c =>
    cases d with
    | single d => cases h
    | multi d =>
      simp only [commitment, Commitment.multi.injEq] at h
      refine ⟨⟨d.nonce, d.fee, Signature.unsigned, d.fields, sponsor⟩, ?_, rfl⟩
      simp only [resigned, h]

/-- A cleared condition can always be written, as it has no fields. -/
theorem exists_encode_cleared (c : SpendingCondition) :
    ∃ bytes, encode c.cleared = .ok bytes := by
  cases c <;> exact ⟨_, rfl⟩

end SpendingCondition

namespace Authorization

/-- Two authorizations are cleared to one exactly if both have a sponsor or neither has, and their
    origins commit to the same. -/
theorem initial_eq_iff {a b : Authorization} : a.initial = b.initial ↔
    a.isSponsored = b.isSponsored ∧ a.origin.commitment = b.origin.commitment := by
  cases a <;> cases b <;>
    simp [initial, isSponsored, origin, SpendingCondition.cleared_eq_iff]

/-- Authorizations that commit to the same are each other signed again. -/
theorem exists_resigned_of_commitment_eq {a b : Authorization}
    (hsponsored : a.isSponsored = b.isSponsored)
    (horigin : a.origin.commitment = b.origin.commitment) :
    ∃ signing, b = a.resigned signing := by
  cases a with
  | standard c =>
    cases b with
    | sponsored d sponsor => cases hsponsored
    | standard d =>
      obtain ⟨signing, hd, -⟩ :=
        SpendingCondition.exists_resigned_of_commitment_eq .sentinel horigin
      exact ⟨signing, congrArg standard hd⟩
  | sponsored c _ =>
    cases b with
    | standard d => cases hsponsored
    | sponsored d sponsor =>
      obtain ⟨signing, hd, rfl⟩ :=
        SpendingCondition.exists_resigned_of_commitment_eq sponsor horigin
      exact ⟨signing, congrArg (sponsored · signing.sponsor) hd⟩

/-- The authorization that is signed first can always be written. -/
theorem exists_encode_initial (a : Authorization) : ∃ bytes, encode a.initial = .ok bytes := by
  cases a with
  | standard origin =>
    refine exists_joined_iff.2 ?_
    simp only [List.forall_mem_cons]
    exact ⟨⟨_, rfl⟩, origin.exists_encode_cleared, List.forall_mem_nil _⟩
  | sponsored origin sponsor =>
    refine exists_joined_iff.2 ?_
    simp only [List.forall_mem_cons]
    exact ⟨⟨_, rfl⟩, origin.exists_encode_cleared, ⟨_, rfl⟩, List.forall_mem_nil _⟩

/-- Signing again keeps what an authorization commits to. -/
theorem commitment_resigned (signing : Transaction.Signing) (a : Authorization) :
    (a.resigned signing).isSponsored = a.isSponsored ∧
      (a.resigned signing).origin.commitment = a.origin.commitment := by
  cases a <;> exact ⟨rfl, SpendingCondition.commitment_resigned signing _⟩

end Authorization

/-! ### Transactions -/

namespace Transaction

variable {t u : Transaction}

/-- **The unsigned form** keeps what is covered of the transaction and nothing else. -/
theorem unsigned_eq_iff : t.unsigned = u.unsigned ↔ t.commitment = u.commitment := by
  obtain ⟨version, chainId, authorization, anchorMode, mode, conditions, payload⟩ := t
  obtain ⟨version', chainId', authorization', anchorMode', mode', conditions', payload'⟩ := u
  simp only [unsigned, commitment, mk.injEq, Commitment.mk.injEq,
    Authorization.initial_eq_iff, and_assoc]

theorem commitment_resigned (t : Transaction) (signing : Signing) :
    (t.resigned signing).commitment = t.commitment := by
  obtain ⟨hsponsored, horigin⟩ := t.authorization.commitment_resigned signing
  simp only [commitment, resigned, hsponsored, horigin]

/-- **No other parts.** Transactions that agree in what is covered differ in what is left
    open only. -/
theorem commitment_eq_iff_exists_resigned :
    t.commitment = u.commitment ↔ ∃ signing, u = t.resigned signing := by
  constructor
  · intro h
    simp only [commitment, Commitment.mk.injEq] at h
    obtain ⟨hversion, hchainId, hsponsored, horigin, hanchorMode, hmode, hconditions, hpayload⟩ := h
    obtain ⟨signing, hsigning⟩ :=
      Authorization.exists_resigned_of_commitment_eq hsponsored horigin
    refine ⟨signing, ?_⟩
    simp only [resigned, ← hsigning, hversion, hchainId, hanchorMode, hmode, hconditions, hpayload]
  · rintro ⟨signing, rfl⟩
    exact (t.commitment_resigned signing).symm

/-- What is left open has no part in the digest, whether there is one or not. -/
theorem initialSighash_resigned (t : Transaction) (signing : Signing) :
    (t.resigned signing).initialSighash = t.initialSighash := by
  have hunsigned : (t.resigned signing).unsigned = t.unsigned :=
    unsigned_eq_iff.2 (t.commitment_resigned signing)
  rw [initialSighash, hunsigned, initialSighash]

/-- The unsigned form of a transaction that can be written can be written. -/
theorem exists_encode_unsigned {bytes : Bytes} (h : encode t = .ok bytes) :
    ∃ form, encode t.unsigned = .ok form := by
  have hparts := exists_joined_iff.1 ⟨bytes, h⟩
  refine exists_joined_iff.2 ?_
  simp only [List.forall_mem_cons] at hparts ⊢
  obtain ⟨hversion, hchainId, -, hrest⟩ := hparts
  exact ⟨hversion, hchainId, t.authorization.exists_encode_initial, hrest⟩

/-- **What the first signature covers.** Two transactions that can be written have unsigned
    forms, which are what the origin signs the digests of. These forms are the same bytes
    exactly if the transactions agree in what is covered, and exactly if they differ in what
    is left open only; and replacing what is left open never changes the digest. -/
theorem exists_encode_unsigned_eq_iff {bytes bytes' : Bytes} (ht : encode t = .ok bytes)
    (hu : encode u = .ok bytes') :
    ∃ form form', encode t.unsigned = .ok form ∧ encode u.unsigned = .ok form' ∧
      t.initialSighash = .ok (Digest.Sha2.sha512t256 form) ∧
      u.initialSighash = .ok (Digest.Sha2.sha512t256 form') ∧
      (form = form' ↔ t.commitment = u.commitment) ∧
      (form = form' ↔ ∃ signing, u = t.resigned signing) ∧
      ∀ signing, (t.resigned signing).initialSighash = t.initialSighash := by
  obtain ⟨form, hform⟩ := exists_encode_unsigned ht
  obtain ⟨form', hform'⟩ := exists_encode_unsigned hu
  -- the hashed bytes are a form of the cleared transaction, and a form has one reading
  have hsame : form = form' ↔ t.commitment = u.commitment := by
    rw [← unsigned_eq_iff]
    constructor
    · rintro rfl
      exact eq_of_encode_eq hform hform'
    · intro h
      rw [h, hform'] at hform
      exact (Except.ok.inj hform).symm
  refine ⟨form, form', hform, hform', id_eq_ok hform, id_eq_ok hform', hsame, ?_,
    t.initialSighash_resigned⟩
  rw [hsame, commitment_eq_iff_exists_resigned]

/-- Another nonce, another fee, no signatures at all and several signers as the sponsor. -/
def sampleSigning : Signing where
  nonce := 9
  fee := 300
  signature := Vector.replicate 65 6
  fields := []
  sponsor := .multi ⟨.scriptHash, Vector.replicate 20 7, 1, 2, [.key .uncompressed sampleKey], 3⟩

/-- The sample call with two signatures asked for where it asks for one. -/
def stricterCall : Transaction := { sampleCall with
  authorization := .sponsored
    (.multi ⟨.witnessScriptHash, Vector.replicate 20 1, 7, 0, [], 2⟩) .sentinel }

/-- The sample signed again has one form to sign with it, and a stricter call has another. -/
theorem exists_encode_unsigned_sampleCall :
    ∃ form, encode sampleCall.unsigned = .ok form ∧
      encode (sampleCall.resigned sampleSigning).unsigned = .ok form ∧
      (sampleCall.resigned sampleSigning).initialSighash = sampleCall.initialSighash ∧
      encode stricterCall.unsigned ≠ .ok form := by
  obtain ⟨_, hsample⟩ : ∃ bytes, encode sampleCall = .ok bytes :=
    Except.exists_eq_ok_of_isOk (by decide +kernel)
  obtain ⟨_, hresigned⟩ : ∃ bytes, encode (sampleCall.resigned sampleSigning) = .ok bytes :=
    Except.exists_eq_ok_of_isOk (by decide +kernel)
  obtain ⟨_, hstricter⟩ : ∃ bytes, encode stricterCall = .ok bytes :=
    Except.exists_eq_ok_of_isOk (by decide +kernel)
  obtain ⟨form, form', hform, hform', -, -, -, hsame, hdigest⟩ :=
    exists_encode_unsigned_eq_iff hsample hresigned
  obtain ⟨_, other, hform₂, hother, -, -, hcovered, -⟩ :=
    exists_encode_unsigned_eq_iff hsample hstricter
  obtain rfl : form = form' := hsame.2 ⟨sampleSigning, rfl⟩
  obtain rfl := Except.ok.inj (hform.symm.trans hform₂)
  refine ⟨form, hform, hform', hdigest sampleSigning, ?_⟩
  intro h
  have hequal : form = other := Except.ok.inj (h.symm.trans hother)
  exact absurd (hcovered.1 hequal) (by decide)

end Transaction

end Registrar
