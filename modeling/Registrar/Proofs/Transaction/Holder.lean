import Registrar.Proofs.Transaction.PostCondition
import Registrar.Proofs.Value.Limits
import Registrar.Proofs.Value.Reading

namespace Registrar

open Wire

/-!
# One principal in three places

A principal stands on its own in the payload of a transfer, as a value among the arguments of a
call, and as the holder of assets in a post condition. Each of these places has a format of its
own.

* `Principal.Retagged` — the tag of a holder in place of the tag of a principal;
* `Principal.encode_eq`, `Principal.encode_value_eq`, `Principal.encode_holder_eq` — in all
  three places the same bytes follow the tag;
* `Principal.formats_agree` — so up to the tag the three write alike and read alike.
-/

namespace Principal

variable {p : Principal} {body : Bytes}

/-- The bytes with the tag of a holder in front in place of the tag of a principal. -/
def Retagged (input retagged : Bytes) : Prop :=
  ∃ rest, (input = 5 :: rest ∧ retagged = 2 :: rest) ∨ (input = 6 :: rest ∧ retagged = 3 :: rest)

/-- The tag that the principal has as the holder of assets. -/
def holderTag : Principal → PostConditionPrincipalTag
  | account _ => .account
  | contract _ _ => .contract

/-- The tag of a holder stands in for the tag of the same principal and for no other. -/
theorem retagged_holderTag_iff {input rest : Bytes} :
    Retagged input (code p.holderTag :: rest) ↔ input = p.tag :: rest := by
  cases p with
  | account address =>
    show Retagged input (2 :: rest) ↔ input = 5 :: rest
    simp [Retagged]
  | contract deployer name =>
    show Retagged input (3 :: rest) ↔ input = 6 :: rest
    simp [Retagged]

/-! ### Writing -/

/-- A principal is written as its tag and then its body. -/
theorem encode_eq (h : p.body = .ok body) : encode p = .ok (p.tag :: body) := by
  show joined [.ok [p.tag], p.body] = _
  rw [h, joined_ok_pair]
  rfl

theorem encode_value_eq (h : p.body = .ok body) :
    encode (Value.principal p) = .ok (p.tag :: body) := by
  have hvalue : encode (Value.principal p) = .ok (code (Value.principal p).kind :: body) :=
    Value.encodeWithin_of_content h
  rw [hvalue]
  cases p <;> rfl

/-- In a condition, a principal is written in these bytes with another tag. -/
theorem encode_holder_eq (h : p.body = .ok body) :
    encode (PostConditionPrincipal.ofPrincipal p) = .ok (code p.holderTag :: body) := by
  -- the body is the same, and the tag in front is the one of a holder
  cases p with
  | account address =>
    show joined [.ok [2], (account address).body] = _
    rw [h, joined_ok_pair]
    rfl
  | contract deployer name =>
    show joined (.ok [3] :: [encode deployer, encode name]) = _
    exact joined_ok_cons h

/-! ### Reading -/

/-- **The three formats of a principal agree.** A principal is written as the same bytes on its
    own and as a value, and up to the tag as a holder of assets. From all bytes it is read on
    its own exactly if it is read as a value, and exactly if it is read as a holder once the
    tag is replaced; the reading ends at the same place. -/
theorem formats_agree (p : Principal) :
    (∃ bytes retagged, encode p = .ok bytes ∧ encode (Value.principal p) = .ok bytes ∧
      Retagged bytes retagged ∧
      encode (PostConditionPrincipal.ofPrincipal p) = .ok retagged) ∧
    ∀ position input next,
      ((decode : Decoder Principal).run ⟨position, input⟩ = (.ok p, next) ↔
        (decode : Decoder Value).run ⟨position, input⟩ = (.ok (.principal p), next)) ∧
      ((decode : Decoder Principal).run ⟨position, input⟩ = (.ok p, next) ↔
        ∃ retagged, Retagged input retagged ∧
          (decode : Decoder PostConditionPrincipal).run ⟨position, retagged⟩ =
            (.ok (.ofPrincipal p), next)) := by
  obtain ⟨body, hbody⟩ := Value.exists_principal_body p
  have hwritten := encode_eq hbody
  have hvalue := encode_value_eq hbody
  have hholder := encode_holder_eq hbody
  refine ⟨⟨_, _, hwritten, hvalue, retagged_holderTag_iff.2 rfl, hholder⟩,
    fun position input next => ?_⟩
  -- every one of the three readings takes its tag and then the bytes that they share
  have hprincipal : (decode : Decoder Principal).run ⟨position, input⟩ = (.ok p, next) ↔
      ∃ rest, input = p.tag :: rest ∧ Cursor.Spans ⟨position + 1, rest⟩ body next := by
    simp only [run_decode_eq_ok_iff, hwritten, Except.ok.injEq, exists_eq_left',
      Cursor.Spans.cons_iff]
  rw [hprincipal]
  constructor
  · have hleaf : ¬ (Value.principal p).kind.isNested = true := by
      intro hnested
      cases p <;> cases hnested
    have hread : (decode : Decoder Value).run ⟨position, input⟩ = (.ok (.principal p), next) ↔
        ∃ bytes, encode (Value.principal p) = .ok bytes ∧
          Cursor.Spans ⟨position, input⟩ bytes next := Value.run_decodeWithin_iff_of_leaf hleaf
    simp only [hread, hvalue, Except.ok.injEq, exists_eq_left', Cursor.Spans.cons_iff]
  · simp only [run_decode_eq_ok_iff, hholder, Except.ok.injEq, exists_eq_left',
      Cursor.Spans.cons_iff]
    constructor
    · rintro ⟨rest, rfl, hspans⟩
      exact ⟨_, retagged_holderTag_iff.2 rfl, rest, rfl, hspans⟩
    · rintro ⟨_, hretagged, rest, rfl, hspans⟩
      exact ⟨rest, retagged_holderTag_iff.1 hretagged, hspans⟩

end Principal

end Registrar
