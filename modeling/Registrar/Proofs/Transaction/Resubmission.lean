import Registrar.Cli.Run
import Registrar.Proofs.Hex
import Registrar.Proofs.Transaction.Basic

namespace Registrar

open Wire
open Cli (Command CliFault Host Outcome ask readConfig)

/-!
# Handing in a transaction that was read

A transaction that is handed in is read from its hexadecimal text and written again. The
keys of tuples need not stand in order where they are read, and they do where they are
written, so the bytes that reach a node may not be those that were given.

* `Cli.submission`, `Cli.run_broadcast` — what is handed in is the transaction's wire
  form;
* `Transaction.exists_encode_resubmitted` — which has as many bytes as were given, and
  the same bytes exactly if all keys stood in order;
* `Transaction.not_forall_encode_ofBytes` — and not otherwise.
-/

/-! ### What is handed in -/

section

variable {m : Type → Type} [Monad m]

/-- Hands in bytes with what travels beside them, which is given in hexadecimal. -/
def Cli.submission (host : Host m) (asked : Option NetworkFamily) (attachment : Option String)
    (bytes : Bytes) : ExceptT CliFault m Outcome := do
  let attachment ← match attachment with
    | some text => do
      let bytes ← (Hex.decode text).mapError CliFault.hex
      pure (some bytes)
    | none => pure none
  let config ← readConfig host
  ask (config.network asked) (.submit bytes attachment)

/-- **Broadcasting** hands in the wire form of the transaction that the text holds. -/
theorem Cli.run_broadcast [LawfulMonad m] {host : Host m} {asked : Option NetworkFamily}
    {attachment : Option String} {text : String} {t : Transaction} {bytes : Bytes}
    (htext : ofHex text = .ok t) (hbytes : encode t = .ok bytes) :
    (Command.broadcast asked attachment text).run host =
      Cli.submission host asked attachment bytes := by
  have hlift : ∀ {ε α : Type} (wrap : ε → CliFault) (a : α) (f : α → ExceptT CliFault m Outcome),
      (liftM ((Except.ok a).mapError wrap) : ExceptT CliFault m α) >>= f = f a := by
    intro ε α wrap a f
    exact pure_bind a f
  simp only [Command.run, Cli.submission, htext]
  rw [hlift]
  -- the wire form is asked for behind the attachment and the configuration
  cases attachment <;> simp only [hbytes, hlift]

end

namespace Transaction

/-! ### What was given -/

/-- **Handing in again.** A transaction that is read has a wire form of as many bytes as
    were given. It is what the id digests and what a broadcast hands in, and it is the
    very bytes that were given exactly if at every tuple in them the keys stood in
    strictly increasing order. -/
theorem exists_encode_resubmitted {bytes : Bytes} {t : Transaction} (h : ofBytes bytes = .ok t) :
    ∃ written, encode t = .ok written ∧ written.length = bytes.length ∧
      ofBytes written = .ok t ∧ t.id = .ok (Digest.Sha2.sha512t256 written) ∧
      (∀ {m : Type → Type} [Monad m] [LawfulMonad m] (host : Host m)
        (asked : Option NetworkFamily) (attachment : Option String) (text : String),
        Hex.decodeTagged text = .ok bytes →
          (Command.broadcast asked attachment text).run host =
            Cli.submission host asked attachment written) ∧
      (written = bytes ↔ ∀ keys ∈ keysMet Transaction bytes, keys.Pairwise (· < ·)) := by
  obtain ⟨written, hencode, hlen, hsame⟩ := exists_encode_of_ofBytes h
  refine ⟨written, hencode, hlen, ofBytes_of_reads (reads hencode), id_eq_ok hencode, ?_, hsame⟩
  intro m _ _ host asked attachment text htext
  exact Cli.run_broadcast (ofHex_of_decodeTagged htext h) hencode

/-- A call of a function of the sample contract, up to its one argument. -/
def callFront : Bytes :=
  [0, 0, 0, 0, 1, 4, 0] ++ List.replicate 102 0 ++ [3, 2, 0, 0, 0, 0, 2, 26] ++
    List.replicate 20 5 ++ [1, 99, 1, 97, 0, 0, 0, 1]

/-- The call of a tuple whose keys stand out of order. -/
def unsortedCallBytes : Bytes := callFront ++ [12, 0, 0, 0, 2, 1, 98, 9, 1, 97, 3]

/-- The same call with the keys in order. -/
def sortedCallBytes : Bytes := callFront ++ [12, 0, 0, 0, 2, 1, 97, 3, 1, 98, 9]

/-- What both hold. -/
def sortedCall : Transaction where
  version := .mainnet
  chainId := 1
  authorization := .standard
    (.single ⟨.keyHash, Vector.replicate 20 0, 0, 0, .compressed, Signature.unsigned⟩)
  anchorMode := .any
  postConditionMode := .deny
  postConditions := []
  payload := .call ⟨sampleDeployer, sampleContract, Value.nameA,
    [.tuple (.ofIncreasing [(Value.nameA, .bool true), (Value.nameB, .none)] (by decide))]⟩

/-- The bytes of a call whose tuple is out of order are read as a call. -/
theorem ofBytes_unsortedCallBytes : ofBytes unsortedCallBytes = .ok sortedCall := by
  have hread : (ofBytes unsortedCallBytes).toOption = some sortedCall := by decide +kernel
  cases h : (ofBytes unsortedCallBytes : Except DecodeFault Transaction) with
  | error fault => simp [h, Except.toOption] at hread
  | ok t => simpa [h, Except.toOption] using hread

/-- The bytes that a transaction is read from need not be those it is written as. -/
theorem not_forall_encode_ofBytes :
    ¬ ∀ (bytes : Bytes) (t : Transaction), ofBytes bytes = .ok t → encode t = .ok bytes := by
  intro h
  have hunsorted := h unsortedCallBytes sortedCall ofBytes_unsortedCallBytes
  have hsorted : encode sortedCall = .ok sortedCallBytes := by rfl
  have heq : unsortedCallBytes = sortedCallBytes := Except.ok.inj (hunsorted.symm.trans hsorted)
  exact absurd heq (by decide)

/-- What is sent on for these bytes are other bytes with another id. -/
theorem exists_encode_unsortedCall :
    ofBytes unsortedCallBytes = .ok sortedCall ∧
      ∃ written, encode sortedCall = .ok written ∧ written.length = 156 ∧
        ofBytes written = .ok sortedCall ∧ written ≠ unsortedCallBytes ∧
        sortedCall.id = .ok (Digest.Sha2.sha512t256 written) ∧
        ∀ host : Host Id,
          (Command.broadcast none none ("0x" ++ Hex.encode unsortedCallBytes)).run host =
            Cli.submission host none none written := by
  obtain ⟨written, hencode, hlen, hback, hid, hrun, hsame⟩ :=
    exists_encode_resubmitted ofBytes_unsortedCallBytes
  have hdigits := Hex.decodeTagged_tagged_encode unsortedCallBytes
  -- the keys of the argument stand in the wrong order
  have horder : ¬ (keysMet Transaction unsortedCallBytes).InOrder := by decide +kernel
  refine ⟨ofBytes_unsortedCallBytes, written, hencode, hlen, hback, ?_, hid, ?_⟩
  · exact fun heq => horder (hsame.1 heq)
  · exact fun host => hrun host none none _ hdigits

end Transaction

end Registrar
