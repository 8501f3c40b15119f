import Registrar.Proofs.Wire.Location
import Registrar.Proofs.Wire.Truncation

namespace Registrar

open Wire
open Wire.Decoder (Sequential Locates Takes)

/-!
# Faults of wire types

Each decoder notes for itself where the field began that it may have to complain about: a
value before its tag, a text before its length, a name before its length, a key behind its
encoding. Wherever these decoders are called from, their faults are located.

* instances of `Wire.Located` for names, principals, values and all that a transaction is
  made of;
* `Value.decodeWithin_locates` — nesting is too deep only behind the tags of as many levels;
* `Wire.IsReader` — the decoders of the wire types, lists of any of them included;
* `Wire.IsReader.located_and_trailingBytes` — their faults are located, and bytes left over
  are reported exactly where they are.
-/

/-! ### Names, addresses and principals -/

/-- A name is complained about at its length. -/
theorem Name.decode_locates {kind : Name.Kind} (h : 0 < kind.lengthWidth) (input : Bytes) :
    (decode : Decoder (Name kind)).Locates input 0 := by
  refine .offset fun offset _ => ?_
  -- the length is read before anything is refused, so the cursor is past the offset
  have hbehind : offset < offset + kind.lengthWidth := Nat.lt_add_of_pos_right h
  refine (Locates.natural _).bind_of_takes (.natural _) (Takes.natural _) fun length => ?_
  refine (Locates.bytes length).bind (.bytes length) fun raw => ?_
  split
  · exact .invalid hbehind _
  · split
    · exact .pure _
    · exact .invalid hbehind _

instance : Located ClarityName where
  locates := Name.decode_locates (by decide)

instance : Located ContractName where
  locates := Name.decode_locates (by decide)

instance : Located SourceText where
  locates := Name.decode_locates (by decide)

instance : Located Address where
  locates _ := by
    refine .offset_byte fun offset byte _ => ?_
    refine (Locates.require_invalid (Nat.lt_succ_self offset) _ _).bind (.require _ _) ?_
    exact fun version => (Locates.block 20).map (.block 20) _

namespace Principal

/-- The faults of what follows the tag of a principal are located. -/
theorem decodeBody_locates {input : Bytes} {bound : Nat} (isContract : Bool) :
    (decodeBody isContract).Locates input bound := by
  refine .field fun address => ?_
  cases isContract with
  | false => exact .pure _
  | true => exact .field fun name => .pure _

instance : Located Principal where
  locates _ := by
    refine .offset_byte fun offset byte _ => ?_
    split
    · exact decodeBody_locates false
    · split
      · exact decodeBody_locates true
      · exact .invalid (Nat.lt_succ_self offset) _

end Principal

/-! ### Values -/

namespace Value

variable {input : Bytes} {bound : Nat}

/-- The faults of bytes behind their number are located. -/
theorem decodeCounted_locates : decodeCounted.Locates input bound :=
  decodeLength_locates.bind decodeLength_sequential fun count => .bytes count

/-- Bytes behind their number take the four bytes of the number at least. -/
theorem decodeCounted_takes : decodeCounted.Takes fun _ => 4 :=
  (Takes.natural 4).bind fun count => (Sequential.bytes count).takes_zero

/-- A text is complained about at its length, once all of it has been read. -/
theorem decodeText_locates (ascii : Bool) : (decodeText ascii).Locates input bound := by
  refine .offset fun start _ => ?_
  have hbehind : start < start + 4 := Nat.lt_add_of_pos_right (by decide)
  refine decodeCounted_locates.bind_of_takes decodeCounted_sequential decodeCounted_takes ?_
  intro bytes
  split
  · exact .invalid hbehind _
  · split
    · exact .pure _
    · exact .invalid hbehind _

/-- **What follows the type tag** locates its faults if the values inside do. A key given
    twice is complained about at the tag, which lies before all of it. -/
theorem decodeContent_locates {decodeValue : Decoder Value} {offset : Nat}
    (hvalue : decodeValue.Locates input (offset + 1)) (hseq : decodeValue.Sequential)
    (kind : Kind) : (decodeContent decodeValue offset kind).Locates input (offset + 1) := by
  cases kind with
  | int => exact (Locates.natural 16).map (.natural 16) _
  | uint => exact (Locates.natural 16).map (.natural 16) _
  | buffer => exact decodeCounted_locates.map decodeCounted_sequential buffer
  | boolTrue => exact .pure _
  | boolFalse => exact .pure _
  | principalAccount =>
    exact (Principal.decodeBody_locates false).map (Principal.decodeBody_sequential false) principal
  | principalContract =>
    exact (Principal.decodeBody_locates true).map (Principal.decodeBody_sequential true) principal
  | responseOk => exact hvalue.map hseq (response true)
  | responseErr => exact hvalue.map hseq (response false)
  | optionalNone => exact .pure _
  | optionalSome => exact hvalue.map hseq some
  | list =>
    refine decodeLength_locates.bind decodeLength_sequential fun count => ?_
    exact (hvalue.times hseq count).map (hseq.times count) list
  | tuple =>
    have hentry : (decodeEntry decodeValue).Locates input (offset + 1) :=
      .field fun key => hvalue.map hseq (key, ·)
    have hentry' : (decodeEntry decodeValue).Sequential := .field fun key => hseq.map (key, ·)
    refine decodeLength_locates.bind decodeLength_sequential fun count => ?_
    refine (hentry.times hentry' count).bind (hentry'.times count) fun entries => ?_
    -- a key that stands twice is reported where the value begins, one byte back
    split
    · exact .pure _
    · exact .invalid (Nat.lt_succ_self offset) _
  | ascii => exact (decodeText_locates true).map (decodeText_sequential true) ascii
  | utf8 => exact (decodeText_locates false).map (decodeText_sequential false) utf8

/-- **Values with levels to spare.** Each level that is used up has had its tag read, so the
    levels are used up behind as many bytes only. -/
theorem decodeWithin_locates {levels : Nat} (h : maxDepth ≤ bound + levels) :
    (decodeWithin levels).Locates input bound := by
  induction levels generalizing bound with
  | zero => exact .fail fun position hposition => ⟨rfl, Nat.le_trans h hposition⟩
  | succ levels ih =>
    refine .tag fun offset kind hoffset => ?_
    have hinside : maxDepth ≤ offset + 1 + levels := by omega
    exact decodeContent_locates (ih hinside) (decodeWithin_sequential levels) kind

instance : Located Value where
  locates _ := decodeWithin_locates (Nat.le_add_left maxDepth 0)

end Value

/-! ### Conditions and payloads -/

instance : Located Asset where
  locates _ := .field fun _ => .field fun _ => .field fun _ => .pure _

instance : Located PostConditionPrincipal where
  locates _ := by
    refine .field fun tag => ?_
    cases tag with
    | origin => exact .pure _
    | account => exact .field fun _ => .pure _
    | contract => exact .field fun _ => .field fun _ => .pure _

instance : Located PostCondition where
  locates _ := by
    refine .field fun tag => .field fun principal => ?_
    cases tag with
    | native => exact .field fun _ => .field fun _ => .pure _
    | fungible => exact .field fun _ => .field fun _ => .field fun _ => .pure _
    | token => exact .field fun _ => .field fun _ => .field fun _ => .pure _

instance : Located ContractCall where
  locates _ := .field fun _ => .field fun _ => .field fun _ => .field fun _ => .pure _

instance : Located Deployment where
  locates _ := .field fun _ => .field fun _ => .pure _

/-- The faults of a deployment are located, whatever its version is. -/
theorem Payload.decodeDeploy_locates {input : Bytes} {bound : Nat}
    (version : Option ClarityVersion) : (decodeDeploy version).Locates input bound :=
  .field fun _ => .pure _

instance : Located Payload where
  locates _ := by
    refine .field fun tag => ?_
    cases tag with
    | transfer => exact .field fun _ => .field fun _ => .field fun _ => .pure _
    | call => exact .field fun _ => .pure _
    | deploy => exact Payload.decodeDeploy_locates none
    | deployVersioned => exact .field fun version => Payload.decodeDeploy_locates _

/-! ### Authorizations and transactions -/

instance : Located AuthField where
  locates _ := by
    refine .field fun tag => ?_
    cases tag with
    | key encoding =>
      refine .offset fun offset _ => ?_
      have hbehind : offset < offset + 33 := Nat.lt_add_of_pos_right (by decide)
      refine (Locates.bytes 33).bind_of_takes (.bytes 33) (Takes.bytes 33) fun bytes => ?_
      exact (Locates.require_invalid hbehind _ _).map (.require _ _) _
    | signature encoding => exact .field fun _ => .pure _

instance : Located SpendingCondition where
  locates _ := by
    refine .offset_byte fun offset mode _ => ?_
    split
    · exact .field fun _ => .field fun _ => .field fun _ => .field fun _ => .field fun _ => .pure _
    · split
      · exact .field fun _ => .field fun _ => .field fun _ => .field fun _ => .field fun _ =>
          .pure _
      · exact .invalid (Nat.lt_succ_self offset) _

instance : Located Authorization where
  locates _ := by
    refine .field fun tag => ?_
    cases tag with
    | standard => exact .field fun _ => .pure _
    | sponsored => exact .field fun _ => .field fun _ => .pure _

instance : Located Transaction where
  locates _ := .field fun _ => .field fun _ => .field fun _ => .field fun _ => .field fun _ =>
    .field fun _ => .field fun _ => .pure _

/-! ### All wire types -/

namespace Wire

/-- The decoders of the wire types, none of which may be empty. -/
inductive IsReader : {α : Type} → Decoder α → Prop where
  | word8 : IsReader (decode : Decoder UInt8)
  | word16 : IsReader (decode : Decoder UInt16)
  | word32 : IsReader (decode : Decoder UInt32)
  | word64 : IsReader (decode : Decoder UInt64)
  /-- A digest, a signature or a memo. -/
  | block {n : Nat} (h : 0 < n) : IsReader (decode : Decoder (Vector UInt8 n))
  | enumeration (α : Type) [Enumeration α] : IsReader (decode : Decoder α)
  | list {α : Type} [Format α] (item : IsReader (decode : Decoder α)) :
    IsReader (decode : Decoder (List α))
  | name {kind : Name.Kind} (h : 0 < kind.lengthWidth) : IsReader (decode : Decoder (Name kind))
  | address : IsReader (decode : Decoder Address)
  | principal : IsReader (decode : Decoder Principal)
  | value : IsReader (decode : Decoder Value)
  | asset : IsReader (decode : Decoder Asset)
  | postConditionPrincipal : IsReader (decode : Decoder PostConditionPrincipal)
  | postCondition : IsReader (decode : Decoder PostCondition)
  | authField : IsReader (decode : Decoder AuthField)
  | spendingCondition : IsReader (decode : Decoder SpendingCondition)
  | authorization : IsReader (decode : Decoder Authorization)
  | call : IsReader (decode : Decoder ContractCall)
  /-- The name and the source of a contract. -/
  | deployment : IsReader (decode : Decoder Deployment)
  /-- The same behind a tag and a version. -/
  | deploy (version : Option ClarityVersion) : IsReader (Payload.decodeDeploy version)
  | payload : IsReader (decode : Decoder Payload)
  | transaction : IsReader (decode : Decoder Transaction)

namespace IsReader

variable {α : Type} {d : Decoder α}

/-- All of them are read in sequence. -/
theorem sequential (h : IsReader d) : d.Sequential := by
  induction h with
  | list _ ih => exact decodeLength_sequential.bind fun count => ih.times count
  | deploy version => exact Payload.decodeDeploy_sequential version
  | _ => exact Wire.sequential

/-- All of them locate their faults. -/
theorem locates (h : IsReader d) (input : Bytes) : d.Locates input 0 := by
  induction h with
  | list item ih =>
    exact decodeLength_locates.bind decodeLength_sequential fun count =>
      ih.times item.sequential count
  | name hwidth => exact Name.decode_locates hwidth input
  | deploy version => exact Payload.decodeDeploy_locates version
  | _ => exact Wire.locates input

/-- **Faults point at what is wrong.** Where a decoder fails, the cursor is still in the input.
    If bytes are missing, they are missing where the cursor stands, and as many are reported
    as are left; if a byte is no type tag, it is the one before the cursor; if a field is
    invalid, it began before the cursor; if nesting is too deep, a byte was read for each
    level. Bytes left over are reported exactly where a value was read and as many bytes
    follow it. -/
theorem located_and_trailingBytes (h : IsReader d) :
    (∀ (input : Bytes) (fault : DecodeFault) (cursor : Cursor),
      d.run (.start input) = (.error fault, cursor) →
        cursor.position ≤ input.length ∧ fault.Located input cursor.position) ∧
    (∀ [Format α], decode = d → ∀ (input : Bytes) (count : Nat),
      (ofBytes input : Except DecodeFault α) = .error (.trailingBytes count) ↔
        0 < count ∧ ∃ a cursor, d.run (.start input) = (.ok a, cursor) ∧
          cursor.position + count = input.length) := by
  constructor
  · intro input fault cursor hrun
    have hwithin := h.sequential.within hrun
    exact ⟨hwithin.position_le, h.locates input (.start input) (Nat.zero_le _) hrun⟩
  · rintro _ rfl input count
    have : Wire.Sequential α := ⟨h.sequential⟩
    have : Wire.Located α := ⟨h.locates⟩
    exact ofBytes_eq_trailingBytes_iff

/-- A list of one value, two levels into which stands a tag that no value has. -/
def nestedTagBytes : Bytes := [0, 0, 0, 1, 10, 7, 99, 3]

/-- A list of one value, with two bytes behind it. -/
def continuedBytes : Bytes := [0, 0, 0, 1, 10, 3, 5, 5]

/-- A tag that no value has, two levels into a list, and bytes behind a list. -/
theorem located_and_trailingBytes_list :
    IsReader (decode : Decoder (List Value)) ∧
    (decode : Decoder (List Value)).run (.start nestedTagBytes) =
      (.error (.unknownTypeTag 99 6), ⟨7, [3]⟩) ∧
    (DecodeFault.unknownTypeTag 99 6).Located nestedTagBytes 7 ∧
    (ofBytes continuedBytes : Except DecodeFault (List Value)) = .error (.trailingBytes 2) := by
  have hlist : IsReader (decode : Decoder (List Value)) := .list .value
  obtain ⟨hlocated, htrailing⟩ := located_and_trailingBytes hlist
  have hfault : (decode : Decoder (List Value)).run (.start nestedTagBytes) =
      (.error (.unknownTypeTag 99 6), ⟨7, [3]⟩) := by rfl
  have hread : (decode : Decoder (List Value)).run (.start continuedBytes) =
      (.ok [.some (.bool true)], ⟨6, [5, 5]⟩) := by rfl
  exact ⟨hlist, hfault, (hlocated _ _ _ hfault).2,
    (htrailing rfl _ _).2 ⟨by decide, _, _, hread, rfl⟩⟩

end IsReader

end Wire

end Registrar
