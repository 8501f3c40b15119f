import Registrar.Proofs.Wire.Progress
import Registrar.Value.Basic

namespace Registrar.Wire

/-!
# Where faults point

A decoder notes the position of a field before it reads it, and a fault is only as good as
the position that was noted.

* `DecodeFault.Located` — what a fault has to say about the input and about the position
  where the cursor was left;
* `Cursor.Within` — a cursor stands in the input;
* `Decoder.Locates` — from a position on, the faults of a decoder are located; closed under
  sequencing and repetition;
* `Decoder.Locates.offset` — a position that was noted lies before all that is read after it;
* `Located` — types whose decoder locates its faults, with instances for integers, blocks,
  enumerations and lists.
-/

variable {α β : Type}

/-- What a fault says of an input, where the cursor was left at a position. -/
def DecodeFault.Located (input : Bytes) (position : Nat) : DecodeFault → Prop
  | .outOfBounds offset requested remaining =>
    offset = position ∧ remaining = input.length - position ∧ remaining < requested
  | .unknownTypeTag tag offset =>
    input[offset]? = some tag ∧ (∀ kind : Value.Kind, code kind ≠ tag) ∧ position = offset + 1
  | .invalidData offset _ => offset < position
  -- no offset is reported, but each level had its tag read
  | .depthExceeded limit => limit = maxDepth ∧ maxDepth ≤ position
  -- only whoever reads a whole input can tell that bytes are left over
  | .trailingBytes _ => False

/-! ### Cursors in an input -/

/-- The cursor stands in the input, or at its end. -/
structure Cursor.Within (input : Bytes) (cursor : Cursor) : Prop where
  rest_eq : cursor.rest = input.drop cursor.position
  position_le : cursor.position ≤ input.length

namespace Cursor.Within

variable {input : Bytes} {cursor next : Cursor}

theorem start (input : Bytes) : (Cursor.start input).Within input := ⟨rfl, Nat.zero_le _⟩

/-- What is left is the input behind the position. -/
theorem remaining_eq (h : cursor.Within input) :
    cursor.remaining = input.length - cursor.position := by
  rw [remaining, h.rest_eq, List.length_drop]

/-- The cursor stays in the input over whatever it reads. -/
theorem of_spans (h : cursor.Within input) {read : Bytes} (hspans : cursor.Spans read next) :
    next.Within input := by
  have hrest : input.drop cursor.position = read ++ next.rest := h.rest_eq ▸ hspans.1
  have hposition : next.position = cursor.position + read.length := hspans.2
  have hbound := h.position_le
  have hlength := congrArg List.length hrest
  rw [List.length_drop, List.length_append] at hlength
  constructor
  · rw [hposition, ← List.drop_drop, hrest, List.drop_left]
  · omega

/-- What stands first in the rest stands at the position in the input. -/
theorem getElem?_eq (h : cursor.Within input) {byte : UInt8} {rest : Bytes}
    (hrest : cursor.rest = byte :: rest) : input[cursor.position]? = some byte := by
  have hdrop : (input.drop cursor.position)[0]? = some byte := by
    rw [← h.rest_eq, hrest, List.getElem?_cons_zero]
  rwa [List.getElem?_drop, Nat.add_zero] at hdrop

end Cursor.Within

/-! ### Decoders that locate their faults -/

namespace Decoder

/-- From the bound on, what the decoder reports about the input is located. -/
def Locates (input : Bytes) (bound : Nat) (d : Decoder α) : Prop :=
  ∀ ⦃cursor fault next⦄, cursor.Within input → bound ≤ cursor.position →
    d.run cursor = (.error fault, next) → fault.Located input next.position

namespace Locates

variable {input : Bytes} {bound : Nat} {d : Decoder α} {f : α → Decoder β}

/-- What is located behind a bound is located behind any later one. -/
theorem mono {bound' : Nat} (h : d.Locates input bound) (hbound : bound ≤ bound') :
    d.Locates input bound' :=
  fun _ _ _ hwithin hposition hrun => h hwithin (Nat.le_trans hbound hposition) hrun

theorem pure (a : α) : (Pure.pure a : Decoder α).Locates input bound := by
  intro cursor fault next _ _ hrun
  simp at hrun

/-- A decoder that only fails is located if its fault is, wherever it is run. -/
theorem fail {fault : DecodeFault}
    (h : ∀ position, bound ≤ position → fault.Located input position) :
    (Decoder.fail fault : Decoder α).Locates input bound := by
  intro cursor fault' next _ hposition hrun
  obtain ⟨rfl, rfl⟩ := run_fail_eq_error.1 hrun
  exact h _ hposition

/-- A field that was noted before the bound may be called invalid from the bound on. -/
theorem invalid {offset : Nat} (h : offset < bound) (fault : DataFault) :
    (Decoder.fail (.invalidData offset fault) : Decoder α).Locates input bound :=
  fail fun _ hposition => Nat.lt_of_lt_of_le h hposition

/-- A field that is required is located if it began in front of the cursor. -/
theorem require_invalid {offset : Nat} (h : offset < bound) (fault : DataFault)
    (found : Option α) :
    (Decoder.require (.invalidData offset fault) found).Locates input bound := by
  cases found with
  | none => exact invalid h fault
  | some a => exact pure a

/-! #### Reads -/

/-- A missing byte is missing at the cursor. -/
theorem byte : Decoder.byte.Locates input bound := by
  intro cursor fault next hwithin _ hrun
  obtain ⟨hempty, rfl, rfl⟩ := run_byte_eq_error.1 hrun
  have hremaining : 0 = input.length - cursor.position := hempty.symm.trans hwithin.remaining_eq
  exact ⟨rfl, hremaining, Nat.one_pos⟩

/-- A read of more bytes than are left reports how many there are and stays where it is. -/
theorem bytes (n : Nat) : (Decoder.bytes n).Locates input bound := by
  intro cursor fault next hwithin _ hrun
  obtain ⟨hmissing, rfl, rfl⟩ := run_bytes_eq_error.1 hrun
  exact ⟨rfl, hwithin.remaining_eq, hmissing⟩

/-! #### Sequencing and repetition -/

/-- **Sequencing.** The bytes that the first decoder takes move the bound for the next one. -/
theorem bind_of_takes (hd : d.Locates input bound) (hseq : d.Sequential) {width : Nat}
    (hwidth : d.Takes fun _ => width) (hf : ∀ a, (f a).Locates input (bound + width)) :
    (d >>= f).Locates input bound := by
  intro cursor fault next hwithin hposition hrun
  obtain hfirst | ⟨a, mid, hfirst, hnext⟩ := run_bind_eq_error.1 hrun
  · exact hd hwithin hposition hfirst
  · obtain ⟨read, hspans⟩ := hseq.spans hfirst
    have htaken : cursor.position + width ≤ mid.position := hwidth hfirst
    exact hf a (hwithin.of_spans hspans) (by omega) hnext

/-- **Two steps in a row** locate their faults if both do and the first keeps the cursor in the
    input. -/
theorem bind (hd : d.Locates input bound) (hseq : d.Sequential)
    (hf : ∀ a, (f a).Locates input bound) : (d >>= f).Locates input bound :=
  bind_of_takes hd hseq hseq.takes_zero hf

/-- A step whose result is changed locates its faults as it does. -/
theorem map (hd : d.Locates input bound) (hseq : d.Sequential) (g : α → β) :
    (do return g (← d) : Decoder β).Locates input bound :=
  hd.bind hseq fun a => pure (g a)

/-- Integers locate their faults, as their bytes do. -/
theorem natural (width : Nat) : (Decoder.natural width).Locates input bound :=
  (bytes width).map (.bytes width) Bytes.toNat

theorem block (n : Nat) : (Decoder.block n).Locates input bound :=
  (bytes n).map (.bytes n) (Bytes.fit n)

/-- **Noting a position.** What is read next begins at the position that was noted. -/
theorem offset {f : Nat → Decoder β}
    (hf : ∀ offset, bound ≤ offset → (f offset).Locates input offset) :
    (Decoder.position >>= f).Locates input bound :=
  fun _ _ _ hwithin hposition hrun => hf _ hposition hwithin (Nat.le_refl _) hrun

/-- **A position and a byte.** All that comes after the byte lies behind the position. -/
theorem offset_byte {f : Nat → UInt8 → Decoder β}
    (hf : ∀ offset byte, bound ≤ offset → (f offset byte).Locates input (offset + 1)) :
    (do f (← Decoder.position) (← Decoder.byte) : Decoder β).Locates input bound :=
  offset fun offset hoffset =>
    byte.bind_of_takes .byte Takes.byte fun byte => hf offset byte hoffset

/-- **Repetition.** -/
theorem times (hd : d.Locates input bound) (hseq : d.Sequential) (count : Nat) :
    (Decoder.times count d).Locates input bound := by
  induction count with
  | zero => exact pure []
  | succ count ih => exact hd.bind hseq fun a => ih.map (hseq.times count) (a :: ·)

/-! #### Type tags -/

/-- **Type tags.** A byte that is no tag is reported by itself and by its own position, and
    nothing behind it has been read. -/
theorem tag {f : Nat → Value.Kind → Decoder β}
    (hf : ∀ offset kind, bound ≤ offset → (f offset kind).Locates input (offset + 1)) :
    (do
      let offset ← Decoder.position
      let tag ← Decoder.byte
      let kind ← Decoder.require (.unknownTypeTag tag offset) (ofCode? tag)
      f offset kind : Decoder β).Locates input bound := by
  intro cursor fault next hwithin hposition hrun
  -- the position that is noted is the one of the tag
  have hrun : (Decoder.byte >>= fun tag =>
      Decoder.require (.unknownTypeTag tag cursor.position) (ofCode? tag) >>=
        f cursor.position).run cursor = (.error fault, next) := hrun
  obtain hbyte | ⟨tag, mid, hbyte, hnext⟩ := run_bind_eq_error.1 hrun
  · exact byte hwithin hposition hbyte
  have hspans := run_byte_eq_ok.1 hbyte
  have hwithin' := hwithin.of_spans hspans
  obtain ⟨hrest, hmid⟩ := hspans
  obtain hunknown | ⟨kind, _, hkind, hcontent⟩ := run_bind_eq_error.1 hnext
  · obtain ⟨hnone, rfl, rfl⟩ := run_require_eq_error.1 hunknown
    refine ⟨hwithin.getElem?_eq hrest, fun kind hcode => ?_, hmid⟩
    have hsome := ofCode?_eq_some_iff.2 hcode
    rw [hnone] at hsome
    cases hsome
  · obtain ⟨-, rfl⟩ := run_require_eq_ok.1 hkind
    exact hf cursor.position kind hposition hwithin' (Nat.le_of_eq hmid.symm) hcontent

end Locates

end Decoder

/-! ### Types that locate their faults -/

/-- The decoder of the type locates its faults, wherever in an input it begins. -/
class Located (α : Type) [Format α] : Prop where
  locates : ∀ input, (decode : Decoder α).Locates input 0

export Located (locates)

instance : Located UInt8 where
  locates _ := .byte

instance : Located UInt16 where
  locates _ := (Decoder.Locates.natural 2).map (.natural 2) UInt16.ofNat

instance : Located UInt32 where
  locates _ := (Decoder.Locates.natural 4).map (.natural 4) UInt32.ofNat

instance : Located UInt64 where
  locates _ := (Decoder.Locates.natural 8).map (.natural 8) UInt64.ofNat

instance (n : Nat) : Located (Vector UInt8 n) where
  locates _ := .block n

instance [Enumeration α] : Located α where
  locates _ := .offset_byte fun offset byte _ =>
    .require_invalid (Nat.lt_succ_self offset) _ (ofCode? byte)

/-- **Fields.** A field locates its faults, so it is enough that those behind it do. -/
theorem Decoder.Locates.field [Format α] [Wire.Sequential α] [Located α] {input : Bytes}
    {bound : Nat} {f : α → Decoder β} (hf : ∀ a, (f a).Locates input bound) :
    (decode >>= f).Locates input bound :=
  bind ((locates input).mono (Nat.zero_le bound)) sequential hf

theorem decodeLength_locates {input : Bytes} {bound : Nat} : decodeLength.Locates input bound :=
  .natural 4

instance [Format α] [Sequential α] [Located α] : Located (List α) where
  locates input := decodeLength_locates.bind decodeLength_sequential fun count =>
    (locates input).times sequential count

/-! ### Whole inputs -/

/-- Wherever a decoder stops, it stops in the input. -/
theorem Decoder.Sequential.within {d : Decoder α} (hd : d.Sequential) {input : Bytes}
    {outcome : Except DecodeFault α} {cursor : Cursor}
    (h : d.run (.start input) = (outcome, cursor)) : cursor.Within input := by
  obtain ⟨read, hspans⟩ := hd.spans h
  exact (Cursor.Within.start input).of_spans hspans

/-- A whole input is not read if its reading fails, or if bytes are left when it ends. -/
theorem ofBytes_eq_error_iff [Format α] {input : Bytes} {fault : DecodeFault} :
    (ofBytes input : Except DecodeFault α) = .error fault ↔
      (∃ cursor, (decode : Decoder α).run (.start input) = (.error fault, cursor)) ∨
        ∃ a cursor, (decode : Decoder α).run (.start input) = (.ok a, cursor) ∧
          0 < cursor.remaining ∧ .trailingBytes cursor.remaining = fault := by
  obtain ⟨a, cursor, hrun⟩ | ⟨fault', cursor, hrun⟩ :=
    (decode : Decoder α).run_ok_or_error (.start input)
  -- after a success, only bytes that are left over are a fault
  · by_cases hrest : cursor.rest = []
    · simp [ofBytes, hrun, hrest, Cursor.remaining]
    · simp [ofBytes, hrun, hrest, Cursor.remaining, List.length_pos_iff, and_assoc]
  · simp [ofBytes, hrun]

/-- **Bytes left over** are reported where a value was read that ends before the input does,
    and nowhere else. -/
theorem ofBytes_eq_trailingBytes_iff [Format α] [Sequential α] [Located α] {input : Bytes}
    {count : Nat} :
    (ofBytes input : Except DecodeFault α) = .error (.trailingBytes count) ↔
      0 < count ∧ ∃ a cursor, (decode : Decoder α).run (.start input) = (.ok a, cursor) ∧
        cursor.position + count = input.length := by
  -- what a reading leaves over reaches to the end of the input
  have hend : ∀ {a : α} {cursor}, (decode : Decoder α).run (.start input) = (.ok a, cursor) →
      cursor.position + cursor.remaining = input.length :=
    fun hrun => (sequential.end_eq hrun).trans (Nat.zero_add _)
  rw [ofBytes_eq_error_iff]
  constructor
  · rintro (⟨cursor, hrun⟩ | ⟨a, cursor, hrun, hpos, hcount⟩)
    · exact (locates input (.start input) (Nat.zero_le _) hrun).elim
    · obtain rfl := DecodeFault.trailingBytes.inj hcount
      exact ⟨hpos, a, cursor, hrun, hend hrun⟩
  · rintro ⟨hcount, a, cursor, hrun, hlength⟩
    have hleft : cursor.remaining = count := Nat.add_left_cancel ((hend hrun).trans hlength.symm)
    exact .inr ⟨a, cursor, hrun, hleft ▸ hcount, congrArg _ hleft⟩

end Registrar.Wire
