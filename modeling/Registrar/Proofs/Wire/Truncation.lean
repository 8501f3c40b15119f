import Registrar.Proofs.Transaction.Basic
import Registrar.Proofs.Wire.Sequential

namespace Registrar

open Wire
open Wire.Decoder (Sequential)

/-!
# Truncated and continued messages

All wire types are read in sequence: what follows a message does not change how it is read,
and a message that is cut off is never taken for another one.

* instances of `Wire.Sequential` for names, principals, values and all that a transaction
  is made of;
* `Wire.IsMessage` — the types with a wire form, lists of any of them included;
* `Wire.IsMessage.decode_stable_and_truncated` — for each of them, an outcome other than
  missing bytes depends on the bytes up to the cursor only, and bytes are missing in all that
  stops before the end of a message.
-/

/-! ### Names, addresses and principals -/

instance {kind : Name.Kind} : Wire.Sequential (Name kind) where
  sequential := by
    refine Sequential.position.bind fun offset => ?_
    refine (Sequential.natural kind.lengthWidth).bind fun length => ?_
    refine (Sequential.bytes length).bind fun raw => ?_
    split
    · exact .fail _
    · split
      · exact .pure _
      · exact .fail _

instance : Wire.Sequential Address where
  sequential := by
    refine Sequential.position.bind fun offset => ?_
    refine Sequential.byte.bind fun byte => ?_
    refine (Sequential.require _ _).bind fun version => ?_
    exact (Sequential.block 20).map _

namespace Principal

/-- What follows the tag of a principal is read in sequence. -/
theorem decodeBody_sequential (isContract : Bool) : (decodeBody isContract).Sequential := by
  refine .field fun address => ?_
  cases isContract with
  | false => exact .pure _
  | true => exact .field fun name => .pure _

instance : Wire.Sequential Principal where
  sequential := by
    refine Sequential.position.bind fun offset => ?_
    refine Sequential.byte.bind fun byte => ?_
    split
    · exact decodeBody_sequential false
    · split
      · exact decodeBody_sequential true
      · exact .fail _

end Principal

/-! ### Values -/

namespace Value

theorem decodeCounted_sequential : decodeCounted.Sequential :=
  decodeLength_sequential.bind fun count => .bytes count

/-- Texts are read in sequence: characters are looked at when all bytes have been read. -/
theorem decodeText_sequential (ascii : Bool) : (decodeText ascii).Sequential := by
  refine Sequential.position.bind fun start => ?_
  refine decodeCounted_sequential.bind fun bytes => ?_
  split
  · exact .fail _
  · split
    · exact .pure _
    · exact .fail _

/-- **What follows the type tag** is read in sequence if the values inside are. -/
theorem decodeContent_sequential {decodeValue : Decoder Value} (hvalue : decodeValue.Sequential)
    (offset : Nat) (kind : Kind) : (decodeContent decodeValue offset kind).Sequential := by
  cases kind with
  | int => exact (Sequential.natural 16).map _
  | uint => exact (Sequential.natural 16).map _
  | buffer => exact decodeCounted_sequential.map buffer
  | boolTrue => exact .pure _
  | boolFalse => exact .pure _
  | principalAccount => exact (Principal.decodeBody_sequential false).map principal
  | principalContract => exact (Principal.decodeBody_sequential true).map principal
  | responseOk => exact hvalue.map (response true)
  | responseErr => exact hvalue.map (response false)
  | optionalNone => exact .pure _
  | optionalSome => exact hvalue.map some
  | list => exact decodeLength_sequential.bind fun count => (hvalue.times count).map list
  | tuple =>
    have hentry : (decodeEntry decodeValue).Sequential := .field fun key => hvalue.map (key, ·)
    refine decodeLength_sequential.bind fun count => (hentry.times count).bind fun entries => ?_
    -- keys are compared when all entries have been read
    split
    · exact .pure _
    · exact .fail _
  | ascii => exact (decodeText_sequential true).map ascii
  | utf8 => exact (decodeText_sequential false).map utf8

/-- **Values with levels to spare** are read in sequence; with none left, nothing is read. -/
theorem decodeWithin_sequential (levels : Nat) : (decodeWithin levels).Sequential := by
  induction levels with
  | zero => exact .fail _
  | succ levels ih =>
    refine Sequential.position.bind fun offset => ?_
    refine Sequential.byte.bind fun tag => ?_
    refine (Sequential.require _ _).bind fun kind => ?_
    exact decodeContent_sequential ih offset kind

instance : Wire.Sequential Value where
  sequential := decodeWithin_sequential maxDepth

end Value

/-! ### Conditions and payloads -/

instance : Wire.Sequential Asset where
  sequential := .field fun _ => .field fun _ => .field fun _ => .pure _

instance : Wire.Sequential PostConditionPrincipal where
  sequential := by
    refine .field fun tag => ?_
    cases tag with
    | origin => exact .pure _
    | account => exact .field fun _ => .pure _
    | contract => exact .field fun _ => .field fun _ => .pure _

instance : Wire.Sequential PostCondition where
  sequential := by
    refine .field fun tag => .field fun principal => ?_
    cases tag with
    | native => exact .field fun _ => .field fun _ => .pure _
    | fungible => exact .field fun _ => .field fun _ => .field fun _ => .pure _
    | token => exact .field fun _ => .field fun _ => .field fun _ => .pure _

instance : Wire.Sequential ContractCall where
  sequential := .field fun _ => .field fun _ => .field fun _ => .field fun _ => .pure _

instance : Wire.Sequential Deployment where
  sequential := .field fun _ => .field fun _ => .pure _

/-- A deployment is read in sequence, whatever its version is. -/
theorem Payload.decodeDeploy_sequential (version : Option ClarityVersion) :
    (decodeDeploy version).Sequential := .field fun _ => .pure _

instance : Wire.Sequential Payload where
  sequential := by
    refine .field fun tag => ?_
    cases tag with
    | transfer => exact .field fun _ => .field fun _ => .field fun _ => .pure _
    | call => exact .field fun _ => .pure _
    | deploy => exact Payload.decodeDeploy_sequential none
    | deployVersioned => exact .field fun version => Payload.decodeDeploy_sequential _

/-! ### Authorizations and transactions -/

instance : Wire.Sequential AuthField where
  sequential := by
    refine .field fun tag => ?_
    cases tag with
    | key encoding =>
      refine Sequential.position.bind fun offset => ?_
      refine (Sequential.bytes 33).bind fun bytes => ?_
      exact (Sequential.require _ _).map _
    | signature encoding => exact .field fun _ => .pure _

instance : Wire.Sequential SpendingCondition where
  sequential := by
    refine Sequential.position.bind fun offset => ?_
    refine Sequential.byte.bind fun mode => ?_
    split
    · exact .field fun _ => .field fun _ => .field fun _ => .field fun _ => .field fun _ => .pure _
    · split
      · exact .field fun _ => .field fun _ => .field fun _ => .field fun _ => .field fun _ =>
          .pure _
      · exact .fail _

instance : Wire.Sequential Authorization where
  sequential := by
    refine .field fun tag => ?_
    cases tag with
    | standard => exact .field fun _ => .pure _
    | sponsored => exact .field fun _ => .field fun _ => .pure _

instance : Wire.Sequential Transaction where
  sequential := .field fun _ => .field fun _ => .field fun _ => .field fun _ => .field fun _ =>
    .field fun _ => .field fun _ => .pure _

/-! ### All wire types -/

namespace Wire

/-- The types with a wire form: whatever is sent or is a part of it. -/
inductive IsMessage : (α : Type) → [Format α] → Prop where
  | word8 : IsMessage UInt8
  | word16 : IsMessage UInt16
  | word32 : IsMessage UInt32
  | word64 : IsMessage UInt64
  /-- A digest, a signature or a memo. -/
  | block (n : Nat) : IsMessage (Vector UInt8 n)
  | enumeration (α : Type) [Enumeration α] : IsMessage α
  | list {α : Type} [Format α] (item : IsMessage α) : IsMessage (List α)
  | name (kind : Name.Kind) : IsMessage (Name kind)
  | address : IsMessage Address
  | principal : IsMessage Principal
  | value : IsMessage Value
  | asset : IsMessage Asset
  | postConditionPrincipal : IsMessage PostConditionPrincipal
  | postCondition : IsMessage PostCondition
  | authField : IsMessage AuthField
  | spendingCondition : IsMessage SpendingCondition
  | authorization : IsMessage Authorization
  | call : IsMessage ContractCall
  /-- The name and the source of a contract. -/
  | deployment : IsMessage Deployment
  | payload : IsMessage Payload
  | transaction : IsMessage Transaction

namespace IsMessage

variable {α : Type} [Format α]

/-- All of them are read in sequence, and what is written of them is read back. -/
theorem sequential_and_roundTrip (h : IsMessage α) : Wire.Sequential α ∧ RoundTrip α := by
  induction h with
  | list _ ih =>
    obtain ⟨_, _⟩ := ih
    exact ⟨inferInstance, inferInstance⟩
  | _ => exact ⟨inferInstance, inferInstance⟩

/-- **Messages are read on their own.** If a message is read to the cursor and bytes are not
    missing, every input with the same bytes up to the cursor is read with the same outcome
    to the same cursor. If a message is read, bytes are missing wherever it is cut off before
    its end. So what is written of one value never continues what is written of another, and
    a whole input that is cut off holds no value. -/
theorem decode_stable_and_truncated (h : IsMessage α) :
    (∀ (input other : Bytes) (outcome : Except DecodeFault α) (cursor : Cursor),
      (decode : Decoder α).run (.start input) = (outcome, cursor) → ¬ RanOut outcome →
      other.take cursor.position = input.take cursor.position →
        (decode : Decoder α).run (.start other) =
          (outcome, ⟨cursor.position, other.drop cursor.position⟩)) ∧
    (∀ (input : Bytes) (a : α) (cursor : Cursor),
      (decode : Decoder α).run (.start input) = (.ok a, cursor) →
      ∀ n < cursor.position, RanOut ((decode : Decoder α).run (.start (input.take n))).1) ∧
    (∀ (a b : α) (bytes bytes' : Bytes), encode a = .ok bytes → encode b = .ok bytes' →
      bytes <+: bytes' → a = b ∧ bytes = bytes') ∧
    (∀ (input : Bytes) (a : α), ofBytes input = .ok a →
      ∀ n < input.length, RanOut (ofBytes (input.take n) : Except DecodeFault α)) := by
  obtain ⟨_, _⟩ := h.sequential_and_roundTrip
  refine ⟨?_, ?_, ?_, ?_⟩
  · intro input other outcome cursor hrun hout hagree
    exact run_start_of_take_eq hrun hout hagree
  · intro input a cursor hrun n hn
    exact ranOut_run_start_take hrun hn
  · rintro a b bytes _ ha hb ⟨suffix, rfl⟩
    obtain ⟨rfl, rfl⟩ := eq_of_encode_append ha hb
    exact ⟨rfl, (List.append_nil bytes).symm⟩
  · intro input a hinput n hn
    exact ranOut_ofBytes_take hinput hn

/-- A list of two values, with a byte behind it. -/
def listBytes : Bytes := [0, 0, 0, 2, 3, 10, 9, 7]

/-- A list whose second value has a tag that no value has. -/
def unknownTagBytes : Bytes := [0, 0, 0, 2, 3, 99]

/-- A list of two values, whole and cut off, and one with a tag that no value has. -/
theorem decode_stable_and_truncated_list :
    IsMessage (List Value) ∧
    (decode : Decoder (List Value)).run (.start listBytes) =
      (.ok [.bool true, .some .none], ⟨7, [7]⟩) ∧
    (decode : Decoder (List Value)).run (.start (listBytes.take 7 ++ [1, 2])) =
      (.ok [.bool true, .some .none], ⟨7, [1, 2]⟩) ∧
    (decode : Decoder (List Value)).run (.start (unknownTagBytes ++ [1, 2])) =
      (.error (.unknownTypeTag 99 5), ⟨6, [1, 2]⟩) ∧
    ∀ n < 7, RanOut ((decode : Decoder (List Value)).run (.start (listBytes.take n))).1 := by
  have hlist : IsMessage (List Value) := .list .value
  obtain ⟨hstable, htruncated, -, -⟩ := decode_stable_and_truncated hlist
  have hrun : (decode : Decoder (List Value)).run (.start listBytes) =
      (.ok [.bool true, .some .none], ⟨7, [7]⟩) := by rfl
  have hfault : (decode : Decoder (List Value)).run (.start unknownTagBytes) =
      (.error (.unknownTypeTag 99 5), ⟨6, []⟩) := by rfl
  have hunknown : ¬ RanOut (.error (.unknownTypeTag 99 5) : Except DecodeFault (List Value)) := by
    rintro ⟨_, _, _, h⟩
    cases h
  exact ⟨hlist, hrun, hstable _ _ _ _ hrun (not_ranOut_ok _) rfl,
    hstable _ _ _ _ hfault hunknown rfl, fun n hn => htruncated _ _ _ hrun n hn⟩

end IsMessage

end Wire

end Registrar
