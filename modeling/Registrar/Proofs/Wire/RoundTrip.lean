import Registrar.Proofs.Bytes
import Registrar.Proofs.Outcome
import Registrar.Wire.Format

namespace Registrar.Wire

/-!
# Reading back what was written

* `Decoder.Reads` — a decoder reads a value from some bytes, wherever they stand
  and whatever follows them; closed under sequencing (`Decoder.Reads.bind`) and
  repetition (`Decoder.Reads.times`), so a decoder is followed field by field;
* `RoundTrip` — every value of a type is read from the bytes it is written as,
  with instances for integers, blocks, enumerations and lists;
* `ofBytes_of_reads`, `ofBytes_append_of_reads` — a whole input is the value that
  was written, and bytes behind the value are counted.
-/

variable {α β : Type}

/-! ### Parts one after another -/

@[simp] theorem joined_nil : joined [] = .ok [] := rfl

/-- Parts have a joint form exactly if the first has one and the others have. -/
theorem joined_cons_eq_ok {part : Except EncodeFault Bytes}
    {parts : List (Except EncodeFault Bytes)} {bytes : Bytes} :
    joined (part :: parts) = .ok bytes ↔
      ∃ front back, part = .ok front ∧ joined parts = .ok back ∧ bytes = front ++ back := by
  cases part with
  | error fault => simp [joined, bind, Except.bind]
  | ok front =>
    cases hrest : joined parts with
    | error fault => simp [joined, hrest, bind, Except.bind]
    | ok back => simp [joined, hrest, bind, Except.bind, pure, Except.pure, eq_comm]

/-- A first part that is there stands in front of the joint form of the others. -/
theorem joined_ok_cons {front back : Bytes} {parts : List (Except EncodeFault Bytes)}
    (h : joined parts = .ok back) : joined (.ok front :: parts) = .ok (front ++ back) :=
  joined_cons_eq_ok.2 ⟨front, back, rfl, h, rfl⟩

theorem joined_ok_pair {front back : Bytes} :
    joined [.ok front, .ok back] = .ok (front ++ back) := by
  rw [joined_ok_cons (joined_ok_cons joined_nil), List.append_nil]

/-- Parts have a joint form exactly if each of them has one. -/
theorem exists_joined_iff {parts : List (Except EncodeFault Bytes)} :
    (∃ bytes, joined parts = .ok bytes) ↔ ∀ part ∈ parts, ∃ bytes, part = .ok bytes := by
  induction parts with
  | nil => simp
  | cons part parts ih =>
    rw [List.forall_mem_cons, ← ih]
    constructor
    · rintro ⟨bytes, h⟩
      obtain ⟨front, back, hfront, hback, -⟩ := joined_cons_eq_ok.1 h
      exact ⟨⟨front, hfront⟩, back, hback⟩
    · rintro ⟨⟨front, rfl⟩, back, hback⟩
      exact ⟨front ++ back, joined_ok_cons hback⟩

/-- Parts in another order have a joint form of the same length. -/
theorem joined_perm {parts parts' : List (Except EncodeFault Bytes)} (hperm : parts.Perm parts')
    {bytes : Bytes} (h : joined parts = .ok bytes) :
    ∃ bytes', joined parts' = .ok bytes' ∧ bytes'.length = bytes.length := by
  induction hperm generalizing bytes with
  | nil => exact ⟨bytes, h, rfl⟩
  | cons part _ ih =>
    obtain ⟨front, back, rfl, hback, rfl⟩ := joined_cons_eq_ok.1 h
    obtain ⟨back', hback', hlen⟩ := ih hback
    exact ⟨front ++ back', joined_ok_cons hback', by simp [hlen]⟩
  | swap part part' parts =>
    obtain ⟨front, _, rfl, hrest, rfl⟩ := joined_cons_eq_ok.1 h
    obtain ⟨front', back, rfl, hback, rfl⟩ := joined_cons_eq_ok.1 hrest
    refine ⟨front' ++ (front ++ back), joined_ok_cons (joined_ok_cons hback), ?_⟩
    -- the order does not matter for the sum of the lengths
    simp only [List.length_append]
    omega
  | trans _ _ ih ih' =>
    obtain ⟨mid, hmid, hlen⟩ := ih h
    obtain ⟨bytes', hbytes', hlen'⟩ := ih' hmid
    exact ⟨bytes', hbytes', hlen'.trans hlen⟩

/-- A length is written only if four bytes hold it. -/
theorem encodeLength_eq_ok {length : Nat} {bytes : Bytes} :
    encodeLength length = .ok bytes ↔
      length < Bytes.capacity 4 ∧ bytes = Bytes.ofNat 4 length := by
  by_cases h : length < Bytes.capacity 4
  · simp [encodeLength, h, eq_comm]
  · simp [encodeLength, h]

/-! ### What a decoder reads -/

namespace Decoder

/-- The decoder reads the value from the bytes, wherever they stand and whatever
    follows them, and takes nothing else. -/
def Reads (d : Decoder α) (bytes : Bytes) (a : α) : Prop :=
  ∀ start suffix, d.run ⟨start, bytes ++ suffix⟩ = (.ok a, ⟨start + bytes.length, suffix⟩)

namespace Reads

variable {d : Decoder α} {f : α → Decoder β} {front back written : Bytes} {a : α} {b : β}

theorem pure (a : α) : (Pure.pure a : Decoder α).Reads [] a := fun _ _ => rfl

/-- **Sequencing.** What the first decoder reads stands in front of what the next
    one reads. -/
theorem bind (hd : d.Reads front a) (hf : (f a).Reads back b) :
    (d >>= f).Reads (front ++ back) b := by
  intro start suffix
  rw [run_bind, List.append_assoc, hd start (back ++ suffix)]
  simp only [hf (start + front.length) suffix, List.length_append, Nat.add_assoc]

/-- The last decoder may only look at what was read. -/
theorem last (hd : d.Reads written a) (hf : (f a).Reads [] b) : (d >>= f).Reads written b := by
  have h := hd.bind hf
  rwa [List.append_nil] at h

/-- A decoder whose value is only repacked reads the same bytes. -/
theorem map (hd : d.Reads written a) (g : α → β) :
    (do return g (← d) : Decoder β).Reads written (g a) :=
  hd.last (pure (g a))

/-- The position is needed for faults only, so it may be any number here. -/
theorem position {f : Nat → Decoder β} (hf : ∀ offset, (f offset).Reads written b) :
    (Decoder.position >>= f).Reads written b := by
  intro start suffix
  rw [run_bind]
  exact hf start start suffix

theorem require {fault : DecodeFault} {found : Option α} (h : found = some a) :
    (Decoder.require fault found).Reads [] a := by
  subst h
  exact pure a

theorem byte (byte : UInt8) : Decoder.byte.Reads [byte] byte := fun _ _ => rfl

theorem bytes {n : Nat} (h : written.length = n) : (Decoder.bytes n).Reads written written := by
  intro start suffix
  subst h
  simp [Decoder.bytes, run]

/-- A number is read from its bytes if they have room for it. -/
theorem natural {width n : Nat} (h : n < Bytes.capacity width) :
    (Decoder.natural width).Reads (Bytes.ofNat width n) n := by
  have hread := (bytes (Bytes.length_ofNat width n)).map Bytes.toNat
  rwa [Bytes.toNat_ofNat h] at hread

/-- An integer of a fixed width is made of the number that its bytes write. -/
theorem integer {width n : Nat} {ofNat : Nat → α} (hlt : n < Bytes.capacity width)
    (hback : ofNat n = a) :
    (do return ofNat (← Decoder.natural width) : Decoder α).Reads (Bytes.ofNat width n) a := by
  subst hback
  exact (natural hlt).map ofNat

/-- A block is read from its bytes. -/
theorem block {n : Nat} (block : Vector UInt8 n) :
    (Decoder.block n).Reads block.toList block := by
  have hread := (bytes block.length_toList).map (Bytes.fit n)
  rwa [Bytes.fit_toList] at hread

/-- **Repetition.** If each item is read from the bytes it is written as, the items
    are read from those bytes in a row. -/
theorem times {form : α → Except EncodeFault Bytes} {items : List α}
    (hitem : ∀ item ∈ items, ∀ bytes, form item = .ok bytes → d.Reads bytes item)
    (h : joined (items.map form) = .ok written) :
    (Decoder.times items.length d).Reads written items := by
  induction items generalizing written with
  | nil =>
    obtain rfl : [] = written := Except.ok.inj h
    exact pure []
  | cons item items ih =>
    obtain ⟨front, back, hfront, hback, rfl⟩ := joined_cons_eq_ok.1 h
    have hhead : d.Reads front item := hitem item (by simp) front hfront
    have htail := ih (fun other hother => hitem other (by simp [hother])) hback
    exact hhead.bind (htail.map (item :: ·))

end Reads

end Decoder

/-! ### Types that are read back -/

/-- Every value of the type that has a wire form is read from it. -/
class RoundTrip (α : Type) [Format α] : Prop where
  reads : ∀ {a : α} {bytes : Bytes}, encode a = .ok bytes → (decode : Decoder α).Reads bytes a

export RoundTrip (reads)

instance : RoundTrip UInt8 where
  reads := by
    rintro n _ ⟨⟩
    exact Decoder.Reads.byte n

instance : RoundTrip UInt16 where
  reads := by
    rintro n _ ⟨⟩
    exact .integer n.toNat_lt UInt16.ofNat_toNat

instance : RoundTrip UInt32 where
  reads := by
    rintro n _ ⟨⟩
    exact .integer n.toNat_lt UInt32.ofNat_toNat

instance : RoundTrip UInt64 where
  reads := by
    rintro n _ ⟨⟩
    exact .integer n.toNat_lt UInt64.ofNat_toNat

instance (n : Nat) : RoundTrip (Vector UInt8 n) where
  reads := by
    rintro block _ ⟨⟩
    exact Decoder.Reads.block block

/-- The value of an enumeration is found again by its code. -/
theorem Decoder.Reads.code [Enumeration α] (a : α) {fault : Nat → UInt8 → DecodeFault}
    {f : Nat → α → Decoder β} {bytes : Bytes} {b : β}
    (hf : ∀ offset, (f offset a).Reads bytes b) :
    (do let offset ← Decoder.position
        let byte ← Decoder.byte
        let a ← Decoder.require (fault offset byte) (ofCode? byte)
        f offset a : Decoder β).Reads (Enumeration.code a :: bytes) b := by
  refine .position fun offset => ?_
  refine (Decoder.Reads.byte (Enumeration.code a)).bind ?_
  exact (Decoder.Reads.require (ofCode?_eq_some_iff.2 rfl)).bind (hf offset)

instance [Enumeration α] : RoundTrip α where
  reads := by
    rintro a _ ⟨⟩
    refine .position fun offset => ?_
    exact (Decoder.Reads.byte (code a)).last (.require (ofCode?_eq_some_iff.2 rfl))

/-- **Fields.** A field is read back, so it is enough that those behind it are. -/
theorem Decoder.Reads.field [Format α] [RoundTrip α] {a : α} {f : α → Decoder β} {b : β}
    {parts : List (Except EncodeFault Bytes)} {bytes : Bytes}
    (h : joined (encode a :: parts) = .ok bytes)
    (hf : ∀ ⦃back⦄, joined parts = .ok back → (f a).Reads back b) :
    (decode >>= f).Reads bytes b := by
  obtain ⟨front, back, hfront, hback, rfl⟩ := joined_cons_eq_ok.1 h
  exact (reads hfront).bind (hf hback)

/-- When no field is left, no byte is. -/
theorem Decoder.Reads.done {b : β} {bytes : Bytes} (h : joined [] = .ok bytes) :
    (Pure.pure b : Decoder β).Reads bytes b := by
  obtain rfl := Except.ok.inj h
  exact .pure b

/-- A length is read from the four bytes it is written as. -/
theorem decodeLength_reads {length : Nat} {bytes : Bytes} (h : encodeLength length = .ok bytes) :
    decodeLength.Reads bytes length := by
  obtain ⟨hlt, rfl⟩ := encodeLength_eq_ok.1 h
  exact Decoder.Reads.natural hlt

instance [Format α] [RoundTrip α] : RoundTrip (List α) where
  reads := by
    intro items bytes h
    obtain ⟨front, back, hfront, hback, rfl⟩ := joined_cons_eq_ok.1 h
    refine (decodeLength_reads hfront).bind ?_
    exact .times (fun _ _ _ hwritten => reads hwritten) hback

/-- What is written of a value does not continue what is written of another. -/
theorem eq_of_encode_append [Format α] [RoundTrip α] {a b : α} {bytes suffix : Bytes}
    (ha : encode a = .ok bytes) (hb : encode b = .ok (bytes ++ suffix)) :
    a = b ∧ suffix = [] := by
  have hrun := reads hb 0 []
  rw [List.append_nil, reads ha 0 suffix] at hrun
  obtain ⟨hvalue, hcursor⟩ := Prod.mk.inj hrun
  exact ⟨Except.ok.inj hvalue, congrArg Cursor.rest hcursor⟩

/-- Two values are not written in the same bytes. -/
theorem eq_of_encode_eq [Format α] [RoundTrip α] {a b : α} {bytes : Bytes}
    (ha : encode a = .ok bytes) (hb : encode b = .ok bytes) : a = b := by
  rw [← List.append_nil bytes] at hb
  exact (eq_of_encode_append ha hb).1

/-! ### Whole inputs -/

variable [Format α]

/-- A whole input is read if its reading ends where the input does. -/
theorem ofBytes_eq_ok_iff {input : Bytes} {a : α} : ofBytes input = .ok a ↔
    ∃ next, (decode : Decoder α).run (.start input) = (.ok a, next) ∧ next.rest = [] := by
  unfold ofBytes
  cases hrun : (decode : Decoder α).run (.start input) with
  | mk outcome next =>
  cases outcome with
  | error fault => simp
  | ok found =>
    -- reading has gone well, so all depends on what is left
    constructor
    · intro h
      dsimp only at h
      split at h
      · next hrest =>
        obtain rfl := Except.ok.inj h
        exact ⟨next, rfl, hrest⟩
      · cases h
    · rintro ⟨_, hsame, hrest⟩
      obtain ⟨hfound, rfl⟩ := Prod.mk.inj hsame
      exact (if_pos hrest).trans hfound

/-- A whole input is read if its decoder reads it up to the end. -/
theorem ofBytes_of_reads {bytes : Bytes} {a : α} (h : (decode : Decoder α).Reads bytes a) :
    ofBytes bytes = .ok a := by
  have hrun := h 0 []
  rw [List.append_nil] at hrun
  exact ofBytes_eq_ok_iff.2 ⟨_, hrun, rfl⟩

/-- Bytes behind a value are counted, not read. -/
theorem ofBytes_append_of_reads {bytes suffix : Bytes} {a : α}
    (h : (decode : Decoder α).Reads bytes a) (hsuffix : suffix ≠ []) :
    (ofBytes (bytes ++ suffix) : Except DecodeFault α) = .error (.trailingBytes suffix.length) := by
  simp only [ofBytes, Cursor.start, h 0 suffix, Cursor.remaining, if_neg hsuffix]

/-- A hexadecimal text holds the value that its bytes hold. -/
theorem ofHex_eq_ok_iff {text : String} {a : α} : ofHex text = .ok a ↔
    ∃ bytes, Hex.decodeTagged text = .ok bytes ∧ ofBytes bytes = .ok a := by
  simp only [ofHex, Except.bind_eq_ok_iff, Except.mapError_eq_ok_iff]

theorem ofHex_of_decodeTagged {text : String} {bytes : Bytes} {a : α}
    (htext : Hex.decodeTagged text = .ok bytes) (hbytes : ofBytes bytes = .ok a) :
    ofHex text = .ok a :=
  ofHex_eq_ok_iff.2 ⟨bytes, htext, hbytes⟩

end Registrar.Wire
