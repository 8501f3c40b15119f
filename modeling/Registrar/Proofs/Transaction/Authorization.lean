import Registrar.Proofs.Wire.Rewriting
import Registrar.Transaction.Authorization

namespace Registrar

open Wire
open Wire.Decoder (Reads Completes run_bind_eq_ok run_pure_eq_ok run_fail_eq_ok
  run_position_eq_ok run_require_eq_ok run_byte_eq_ok run_bytes_eq_ok)

/-!
# Authorizations on the wire

* `PublicKey.compressed_of_ofBytes?` — 33 bytes are read only as the key whose short
  encoding they are;
* `RoundTrip` and `Exact` for the fields of several signers, for spending conditions and
  for authorizations.
-/

/-! ### Keys -/

/-- Of 33 bytes none but the short encoding of a key are read as the key. -/
theorem PublicKey.compressed_of_ofBytes? {bytes : Bytes} {key : PublicKey}
    (hlen : bytes.length = 33) (h : ofBytes? bytes = some key) : key.compressed.toList = bytes := by
  cases bytes with
  | nil => simp at hlen
  | cons tag rest =>
    have hrest : rest.length = 32 := by simpa using hlen
    have htake : rest.take 32 = rest := List.take_of_length_le (by omega)
    have hx : ∀ odd, ofAbscissa? (Bytes.toNat rest) odd = some key →
        key.x = Bytes.toNat rest ∧ key.odd = odd := by
      intro odd hkey
      simp only [ofAbscissa?] at hkey
      -- the tag says which of the two points with the abscissa it is
      split at hkey
      · obtain rfl := Option.some.inj hkey
        exact ⟨rfl, rfl⟩
      · simp at hkey
    simp only [ofBytes?, hrest, htake, if_true] at h
    rw [toList_compressed]
    split at h
    · next htag =>
      obtain ⟨hx, hodd⟩ := hx false h
      simp [hx, hodd, htag, Bytes.ofNat_toNat hrest]
    · split at h
      · next htag =>
        obtain ⟨hx, hodd⟩ := hx true h
        simp [hx, hodd, htag, Bytes.ofNat_toNat hrest]
      · simp at h

/-! ### Fields of several signers -/

namespace AuthField

instance : RoundTrip AuthField where
  reads := by
    intro field bytes h
    cases field with
    | key encoding key =>
      replace h : joined [encode (AuthFieldTag.key encoding), encode key.compressed] =
        .ok bytes := h
      refine .field h fun _ h => ?_
      obtain ⟨_, _, hkey, hnil, rfl⟩ := joined_cons_eq_ok.1 h
      obtain rfl := Except.ok.inj hkey
      obtain rfl := Except.ok.inj hnil
      refine .position fun offset => ?_
      refine (Reads.bytes key.compressed.length_toList).bind ?_
      exact (Reads.require (PublicKey.ofBytes?_compressed key)).bind (.pure _)
    | signature encoding signature =>
      replace h : joined [encode (AuthFieldTag.signature encoding), encode signature] =
        .ok bytes := h
      exact .field h fun _ h => .field h fun _ h => .done h

instance : Exact AuthField where
  rewrites := by
    refine .of_completes (.field fun tag => ?_)
    cases tag with
    | key encoding =>
      intro cursor field next h
      simp only [run_bind_eq_ok, run_position_eq_ok, run_bytes_eq_ok, run_require_eq_ok,
        run_pure_eq_ok] at h
      obtain ⟨offset, _, ⟨rfl, rfl⟩, bytes, _, ⟨hlen, hspans⟩, key, _, ⟨hkey, rfl⟩, rfl, rfl⟩ := h
      -- 33 bytes, so this cannot be the long encoding of the key
      obtain rfl := PublicKey.compressed_of_ofBytes? hlen hkey
      exact ⟨[encode key.compressed], rfl, (Rewritten.of_spans hspans).single⟩
    | signature encoding => exact .field fun signature => .done rfl

end AuthField

/-! ### Spending conditions -/

namespace SpendingCondition

/-- No mode of several signers has the code of a mode of a single one. -/
theorem ofCode?_single_code_multi (mode : MultiHashMode) :
    (ofCode? (code mode) : Option SingleHashMode) = none := by
  cases mode <;> decide

instance : RoundTrip SpendingCondition where
  reads := by
    intro condition bytes h
    cases condition with
    | single condition =>
      obtain ⟨_, _, hmode, hrest, rfl⟩ := joined_cons_eq_ok.1 h
      obtain rfl := Except.ok.inj hmode
      refine .position fun offset => (Reads.byte (code condition.hashMode)).bind ?_
      have hsingle : ofCode? (code condition.hashMode) = some condition.hashMode :=
        ofCode?_eq_some_iff.2 rfl
      simp only [hsingle]
      exact .field hrest fun _ h => .field h fun _ h => .field h fun _ h => .field h fun _ h =>
        .field h fun _ h => .done h
    | multi condition =>
      obtain ⟨_, _, hmode, hrest, rfl⟩ := joined_cons_eq_ok.1 h
      obtain rfl := Except.ok.inj hmode
      refine .position fun offset => (Reads.byte (code condition.hashMode)).bind ?_
      -- the modes of a single signer are tried first, and there the code is unknown
      have hmulti : ofCode? (code condition.hashMode) = some condition.hashMode :=
        ofCode?_eq_some_iff.2 rfl
      simp only [ofCode?_single_code_multi, hmulti]
      exact .field hrest fun _ h => .field h fun _ h => .field h fun _ h => .field h fun _ h =>
        .field h fun _ h => .done h

instance : Exact SpendingCondition where
  rewrites := by
    refine .of_completes (.position fun offset => .byte fun mode => ?_)
    -- the mode is one of a single key, one of many, or none
    split
    · next hashMode hmode =>
      obtain rfl := ofCode?_eq_some_iff.1 hmode
      exact .field fun signer => .field fun nonce => .field fun fee => .field fun keyEncoding =>
        .field fun signature => .done rfl
    · split
      · next hashMode hmode =>
        obtain rfl := ofCode?_eq_some_iff.1 hmode
        exact .field fun signer => .field fun nonce => .field fun fee => .field fun fields =>
          .field fun signaturesRequired => .done rfl
      · exact .fail

end SpendingCondition

/-! ### Authorizations -/

namespace Authorization

instance : RoundTrip Authorization where
  reads := by
    intro authorization bytes h
    cases authorization with
    | standard origin =>
      replace h : joined [encode AuthTag.standard, encode origin] = .ok bytes := h
      exact .field h fun _ h => .field h fun _ h => .done h
    | sponsored origin sponsor =>
      replace h : joined [encode AuthTag.sponsored, encode origin, encode sponsor] =
        .ok bytes := h
      exact .field h fun _ h => .field h fun _ h => .field h fun _ h => .done h

instance : Exact Authorization where
  rewrites := by
    refine .of_completes (.field fun tag => ?_)
    cases tag with
    | standard => exact .field fun origin => .done rfl
    | sponsored => exact .field fun origin => .field fun sponsor => .done rfl

end Authorization

end Registrar
