import Registrar.Principal
import Registrar.Proofs.Name
import Registrar.Proofs.Wire.Rewriting

namespace Registrar

/-!
# Names, addresses and principals on the wire

* `Name.length_bytes_lt` — the bytes in front of a name can hold its length;
* `RoundTrip` and `Exact` for names of every kind, for addresses and for principals:
  each is read back from what it is written as, and nothing else is read;
* `Principal.body_reads`, `Principal.decodeBody_rewrites` — the same for a principal
  whose type tag stands elsewhere.
-/

open Wire
open Wire.Decoder (Reads run_bind_eq_ok run_pure_eq_ok run_fail_eq_ok run_position_eq_ok
  run_require_eq_ok run_byte_eq_ok run_bytes_eq_ok run_natural_eq_ok run_block_eq_ok)

/-! ### Names -/

namespace Name

variable {kind : Kind}

/-- The bytes in front of a name can hold its length. -/
theorem length_bytes_lt (name : Name kind) :
    name.bytes.length < Bytes.capacity kind.lengthWidth :=
  Nat.lt_of_le_of_lt name.length_bytes_le kind.wireLimit_lt

instance : RoundTrip (Name kind) where
  reads := by
    rintro name _ ⟨⟩
    refine .position fun offset => ?_
    refine (Reads.natural name.length_bytes_lt).bind ?_
    refine (Reads.bytes rfl).last ?_
    have htext : Text.ofBytes name.bytes = .ok name.text := Text.ofBytes_bytes name.text
    simp only [htext, name.allowed, dite_true]
    exact .pure name

instance : Exact (Name kind) where
  rewrites := by
    intro cursor name next h
    simp only [decode, run_bind_eq_ok, run_position_eq_ok, run_natural_eq_ok, run_bytes_eq_ok] at h
    obtain ⟨offset, _, ⟨rfl, rfl⟩, length, mid, ⟨-, hlength⟩, raw, _, ⟨rfl, hraw⟩, h⟩ := h
    split at h
    · exact absurd h (by simp [run_fail_eq_ok])
    · next text htext =>
      split at h
      · obtain ⟨rfl, rfl⟩ := run_pure_eq_ok.1 h
        -- text is read from its own bytes, so the same ones are written again
        have hback : Text.bytes text = raw := Text.bytes_of_ofBytes htext
        simpa only [encode, bytes, hback] using Rewritten.of_spans (hlength.trans hraw)
      · exact absurd h (by simp [run_fail_eq_ok])

end Name

/-! ### Addresses -/

instance : RoundTrip Address where
  reads := by
    rintro address _ ⟨⟩
    refine Reads.code address.version fun _ => ?_
    exact (Reads.block address.hash).map (Address.mk address.version)

instance : Exact Address where
  rewrites := by
    intro cursor address next h
    simp only [decode, run_bind_eq_ok, run_position_eq_ok, run_byte_eq_ok, run_require_eq_ok,
      run_block_eq_ok, run_pure_eq_ok] at h
    obtain ⟨offset, _, ⟨rfl, rfl⟩, byte, _, hbyte, version, _, ⟨hversion, rfl⟩, hash, _, hhash,
      rfl, rfl⟩ := h
    obtain rfl := ofCode?_eq_some_iff.1 hversion
    exact .of_spans (hbyte.trans hhash)

/-! ### Principals -/

namespace Principal

/-- Whether the principal is a contract, which its tag tells. -/
def isContract : Principal → Bool
  | account _ => false
  | contract _ _ => true

/-- What follows the tag of a principal is read back, if the tag has told its kind. -/
theorem body_reads {principal : Principal} {bytes : Bytes} (h : principal.body = .ok bytes) :
    (decodeBody principal.isContract).Reads bytes principal := by
  cases principal with
  | account address => exact (reads (a := address) h).map account
  | contract deployer name =>
    replace h : joined [encode deployer, encode name] = .ok bytes := h
    exact .field h fun _ h => .field h fun _ h => .done h

/-- Whatever is read behind the tag of a principal is written again in the same bytes. -/
theorem decodeBody_rewrites (isContract : Bool) :
    (decodeBody isContract).Rewrites body fun _ => True := by
  cases isContract with
  | false =>
    intro cursor principal next h
    simp only [decodeBody, Bool.false_eq_true, if_false, run_bind_eq_ok, run_pure_eq_ok] at h
    obtain ⟨address, _, haddress, rfl, rfl⟩ := h
    exact rewrites haddress
  | true =>
    refine .of_completes ?_
    exact .field fun deployer => .field fun name => .done rfl

/-- Only contracts are read where a contract is expected, and only accounts elsewhere. -/
theorem isContract_of_run_decodeBody {isContract : Bool} {principal : Principal}
    {cursor next : Cursor} (h : (decodeBody isContract).run cursor = (.ok principal, next)) :
    principal.isContract = isContract := by
  cases isContract with
  | false =>
    simp only [decodeBody, Bool.false_eq_true, if_false, run_bind_eq_ok, run_pure_eq_ok] at h
    obtain ⟨address, _, -, rfl, -⟩ := h
    rfl
  | true =>
    simp only [decodeBody, if_true, run_bind_eq_ok, run_pure_eq_ok] at h
    obtain ⟨deployer, _, -, name, _, -, rfl, -⟩ := h
    rfl

instance : RoundTrip Principal where
  reads := by
    intro principal bytes h
    simp only [encode, joined_cons_eq_ok, joined_nil, Except.ok.injEq] at h
    obtain ⟨_, _, rfl, ⟨_, _, hbody, rfl, rfl⟩, rfl⟩ := h
    rw [List.append_nil]
    refine .position fun offset => ?_
    refine (Reads.byte principal.tag).bind ?_
    have hread := body_reads hbody
    cases principal <;> exact hread

instance : Exact Principal where
  rewrites := by
    intro cursor principal next h
    simp only [decode, run_bind_eq_ok, run_position_eq_ok, run_byte_eq_ok] at h
    obtain ⟨offset, _, ⟨rfl, rfl⟩, byte, mid, hbyte, h⟩ := h
    -- the tag is that of the kind of principal that is read behind it
    have htag : byte = principal.tag ∧ Rewritten mid next principal.body True := by
      split at h
      · next hbyte =>
        subst hbyte
        have hkind := isContract_of_run_decodeBody h
        refine ⟨?_, decodeBody_rewrites _ h⟩
        cases principal with
        | account _ => rfl
        | contract _ _ => simp [isContract] at hkind
      · split at h
        · next hbyte =>
          subst hbyte
          have hkind := isContract_of_run_decodeBody h
          refine ⟨?_, decodeBody_rewrites _ h⟩
          cases principal with
          | account _ => simp [isContract] at hkind
          | contract _ _ => rfl
        · exact absurd h (by simp [run_fail_eq_ok])
    obtain ⟨rfl, hbody⟩ := htag
    exact (Rewritten.of_spans hbyte).cons_same hbody.single

end Principal

end Registrar
