import Registrar.Proofs.Transaction.Authorization
import Registrar.Proofs.Transaction.Payload
import Registrar.Proofs.Transaction.PostCondition
import Registrar.Transaction.Basic

namespace Registrar.Transaction

open Wire

/-!
# Transactions on the wire

* `RoundTrip`, `LoggedFormat` and `Canonical` for transactions;
* `decode_encode_components` — from the front of any input that starts with the wire
  form of a transaction, the transaction is read and nothing more is taken; and the same
  for all that a transaction is made of.
-/

instance : RoundTrip Transaction where
  reads := by
    intro t bytes h
    replace h : joined [encode t.version, encode t.chainId, encode t.authorization,
      encode t.anchorMode, encode t.postConditionMode, encode t.postConditions,
      encode t.payload] = .ok bytes := h
    exact .field h fun _ h => .field h fun _ h => .field h fun _ h => .field h fun _ h =>
      .field h fun _ h => .field h fun _ h => .field h fun _ h => .done h

instance : LoggedFormat Transaction where
  logged := do
    let version ← Logged.plain decode
    let chainId ← Logged.plain decode
    let authorization ← Logged.plain decode
    let anchorMode ← Logged.plain decode
    let postConditionMode ← Logged.plain decode
    let postConditions ← logged
    let payload ← logged
    return ⟨version, chainId, authorization, anchorMode, postConditionMode, postConditions,
      payload⟩
  forget_logged := by
    simp only [Logged.forget_bind, Logged.forget_plain, Logged.forget_pure, forget_logged]
    rfl

instance : Canonical Transaction where
  rewrites_logged := by
    refine .of_completes ?_
    exact .field fun version => .field fun chainId => .field fun authorization =>
      .field fun anchorMode => .field fun postConditionMode =>
        .loggedField fun postConditions => .loggedField fun payload => .done rfl

/-- A transaction that can be written has the digest of what is written for its id. -/
theorem id_eq_ok {t : Transaction} {bytes : Bytes} (h : encode t = .ok bytes) :
    t.id = .ok (Digest.Sha2.sha512t256 bytes) := by
  simp only [Transaction.id, h]

/-- **Transactions are read back**, standard or sponsored, with any conditions and any
    payload, and so is whatever they are made of. -/
theorem decode_encode_components :
    (∀ (t : Transaction) (bytes : Bytes), encode t = .ok bytes → ∀ suffix,
      (decode : Decoder Transaction).run (.start (bytes ++ suffix)) =
        (.ok t, ⟨bytes.length, suffix⟩)) ∧
    RoundTrip Authorization ∧ RoundTrip SpendingCondition ∧ RoundTrip AuthField ∧
    RoundTrip PostCondition ∧ RoundTrip PostConditionPrincipal ∧ RoundTrip Asset ∧
    RoundTrip Payload ∧ RoundTrip ContractCall ∧ RoundTrip Memo ∧ RoundTrip Address := by
  refine ⟨fun t bytes h suffix => ?_, inferInstance, inferInstance, inferInstance,
    inferInstance, inferInstance, inferInstance, inferInstance, inferInstance, inferInstance,
    inferInstance⟩
  have hrun := reads h 0 suffix
  rwa [Nat.zero_add] at hrun

/-- A key with the abscissa one. -/
def sampleKey : PublicKey := ⟨1, true, by decide, by decide +kernel⟩

/-- Who deployed the contract of the sample. -/
def sampleDeployer : Address := ⟨.testnetSingle, Vector.replicate 20 5⟩

/-- The contract of the sample. -/
def sampleContract : ContractName := ⟨"c", by decide⟩

/-- A sponsored call whose origin is several signers, of whom one gives a key and one a
    signature, with two conditions, one of them about a token that a tuple names. -/
def sampleCall : Transaction where
  version := .testnet
  chainId := 0x80000000
  authorization := .sponsored
    (.multi ⟨.witnessScriptHash, Vector.replicate 20 1, 7, 0,
      [.key .compressed sampleKey, .signature .uncompressed (Vector.replicate 65 2)], 1⟩)
    (.single ⟨.keyHash, Vector.replicate 20 3, 8, 256, .compressed, Vector.replicate 65 4⟩)
  anchorMode := .any
  postConditionMode := .deny
  postConditions :=
    [.native .origin .sentLe 5,
      .token (.contract sampleDeployer sampleContract)
        ⟨sampleDeployer, sampleContract, Value.nameA⟩
        (.tuple (.ofIncreasing [(Value.nameA, .uint 1), (Value.nameB, .none)] (by decide)))
        .notSent]
  payload := .call ⟨sampleDeployer, sampleContract, Value.nameB, [.response false (.ascii "no")]⟩

theorem decode_encode_sampleCall :
    ∃ bytes, encode sampleCall = .ok bytes ∧ bytes.length = 385 ∧
      (decode : Decoder Transaction).run (.start (bytes ++ [1, 2])) =
        (.ok sampleCall, ⟨385, [1, 2]⟩) := by
  -- the length is computed, so that the bytes need not be written out
  have hlen : (encode sampleCall).toOption.map List.length = some 385 := by decide +kernel
  cases hencode : encode sampleCall with
  | error fault => simp [hencode, Except.toOption] at hlen
  | ok bytes =>
    have hlength : bytes.length = 385 := by simpa [hencode, Except.toOption] using hlen
    have hrun := decode_encode_components.1 sampleCall bytes hencode [1, 2]
    rw [hlength] at hrun
    exact ⟨bytes, rfl, hlength, hrun⟩

end Registrar.Transaction
