import Registrar.Proofs.Wire.RoundTrip

namespace Registrar.Wire

/-!
# Writing again what was read

* `Cursor.Spans` — the bytes that a decoder went over;
* `Decoder.run_bind_eq_ok` and its siblings — what a run that ended well consists of;
* `Rewritten` — what was read between two cursors is written again in as many bytes,
  and in the same bytes exactly if a condition holds; built up field by field
  (`Rewritten.cons`);
* `Exact` — a type whose decoder takes nothing but what its encoder writes, with
  instances for integers, blocks, enumerations and lists;
* `run_decode_eq_ok_iff` — so a value of an exact type is read exactly where its wire form
  stands;
* `Decoder.Completes` — how records and tagged sums are shown to be exact, field by
  field.
-/

variable {α β : Type}

/-! ### The bytes between two cursors -/

/-- From the one cursor to the other the bytes are read. -/
def Cursor.Spans (cursor : Cursor) (read : Bytes) (next : Cursor) : Prop :=
  cursor.rest = read ++ next.rest ∧ next.position = cursor.position + read.length

namespace Cursor.Spans

variable {cursor mid next : Cursor} {front back : Bytes}

theorem refl (cursor : Cursor) : cursor.Spans [] cursor := ⟨rfl, rfl⟩

/-- Bytes that lead on from where others end are one stretch. -/
theorem trans (hfront : cursor.Spans front mid) (hback : mid.Spans back next) :
    cursor.Spans (front ++ back) next := by
  obtain ⟨hrest, hposition⟩ := hfront
  obtain ⟨hrest', hposition'⟩ := hback
  refine ⟨by rw [hrest, hrest', List.append_assoc], ?_⟩
  rw [hposition', hposition, List.length_append, Nat.add_assoc]

/-- A cursor is known by its position and by what is left to read. -/
theorem eq_iff {read : Bytes} : cursor.Spans read next ↔
    cursor = ⟨cursor.position, read ++ next.rest⟩ ∧
      next = ⟨cursor.position + read.length, next.rest⟩ := by
  obtain ⟨position, rest⟩ := cursor
  obtain ⟨position', rest'⟩ := next
  simp [Spans]

/-- What spans a byte and more spans the byte and then the rest. -/
theorem cons_iff {position : Nat} {input read : Bytes} {byte : UInt8} :
    Cursor.Spans ⟨position, input⟩ (byte :: read) next ↔
      ∃ rest, input = byte :: rest ∧ Cursor.Spans ⟨position + 1, rest⟩ read next := by
  constructor
  · rintro ⟨rfl, hnext⟩
    refine ⟨read ++ next.rest, rfl, rfl, ?_⟩
    rw [hnext, List.length_cons]
    show position + (read.length + 1) = position + 1 + read.length
    omega
  · rintro ⟨_, rfl, rfl, hnext⟩
    refine ⟨rfl, ?_⟩
    rw [hnext, List.length_cons]
    show position + 1 + read.length = position + (read.length + 1)
    omega

end Cursor.Spans

/-! ### Runs that end well -/

namespace Decoder

variable {cursor next : Cursor}

/-- Two steps in a row read a value exactly if the first reads something from which the second goes
    on to it. -/
theorem run_bind_eq_ok {d : Decoder α} {f : α → Decoder β} {b : β} :
    (d >>= f).run cursor = (.ok b, next) ↔
      ∃ a mid, d.run cursor = (.ok a, mid) ∧ (f a).run mid = (.ok b, next) := by
  rw [run_bind]
  constructor
  · intro h
    split at h
    · next a mid hrun => exact ⟨a, mid, hrun, h⟩
    · simp at h
  · rintro ⟨a, mid, hrun, hf⟩
    rw [hrun]
    exact hf

theorem run_pure_eq_ok {a b : α} :
    (pure a : Decoder α).run cursor = (.ok b, next) ↔ a = b ∧ cursor = next := by
  simp

/-- A value that is repacked without loss is read where the value itself is. -/
theorem run_map_eq_ok {d : Decoder α} {g : α → β} (hg : ∀ a b, g a = g b → a = b) {a : α} :
    (do return g (← d) : Decoder β).run cursor = (.ok (g a), next) ↔
      d.run cursor = (.ok a, next) := by
  simp only [run_bind_eq_ok, run_pure_eq_ok]
  constructor
  · rintro ⟨found, _, hrun, hfound, rfl⟩
    obtain rfl := hg _ _ hfound
    exact hrun
  · intro hrun
    exact ⟨a, next, hrun, rfl, rfl⟩

theorem run_fail_eq_ok {fault : DecodeFault} {a : α} :
    (fail fault : Decoder α).run cursor = (.ok a, next) ↔ False := by
  simp [fail, run]

theorem run_position_eq_ok {offset : Nat} :
    position.run cursor = (.ok offset, next) ↔ cursor.position = offset ∧ cursor = next := by
  simp [position, run]

theorem run_require_eq_ok {fault : DecodeFault} {found : Option α} {a : α} :
    (require fault found).run cursor = (.ok a, next) ↔ found = some a ∧ cursor = next := by
  cases found <;> simp [require, run_fail_eq_ok]

/-- A byte that is read is the one behind the cursor. -/
theorem run_byte_eq_ok {read : UInt8} :
    byte.run cursor = (.ok read, next) ↔ cursor.Spans [read] next := by
  obtain ⟨position, rest⟩ := cursor
  obtain ⟨position', rest'⟩ := next
  cases rest with
  | nil => simp [byte, run, Cursor.Spans]
  | cons first rest => simp [byte, run, Cursor.Spans, eq_comm, and_assoc, and_comm]

/-- Bytes that are read are those behind the cursor, as many as were asked for. -/
theorem run_bytes_eq_ok {n : Nat} {read : Bytes} :
    (bytes n).run cursor = (.ok read, next) ↔ read.length = n ∧ cursor.Spans read next := by
  obtain ⟨position, rest⟩ := cursor
  obtain ⟨position', rest'⟩ := next
  simp only [bytes, run, Cursor.Spans]
  constructor
  · intro h
    split at h
    · next hlen =>
      simp only [Prod.mk.injEq, Except.ok.injEq, Cursor.mk.injEq] at h
      obtain ⟨rfl, rfl, rfl⟩ := h
      exact ⟨hlen, (List.take_append_drop n rest).symm, by rw [hlen]⟩
    · simp at h
  · rintro ⟨rfl, rfl, rfl⟩
    simp

/-- A number that is read is small enough for its width, and its bytes are read. -/
theorem run_natural_eq_ok {width n : Nat} :
    (natural width).run cursor = (.ok n, next) ↔
      n < Bytes.capacity width ∧ cursor.Spans (Bytes.ofNat width n) next := by
  simp only [natural, run_bind_eq_ok, run_bytes_eq_ok, run_pure_eq_ok]
  constructor
  · rintro ⟨read, mid, ⟨hlen, hspans⟩, rfl, rfl⟩
    rw [Bytes.ofNat_toNat hlen]
    exact ⟨Bytes.toNat_lt_capacity hlen, hspans⟩
  · rintro ⟨hlt, hspans⟩
    exact ⟨_, next, ⟨Bytes.length_ofNat width n, hspans⟩, Bytes.toNat_ofNat hlt, rfl⟩

/-- A block that is read has the bytes behind the cursor in it. -/
theorem run_block_eq_ok {n : Nat} {block : Vector UInt8 n} :
    (Decoder.block n).run cursor = (.ok block, next) ↔ cursor.Spans block.toList next := by
  simp only [Decoder.block, run_bind_eq_ok, run_bytes_eq_ok, run_pure_eq_ok]
  constructor
  · rintro ⟨read, mid, ⟨hlen, hspans⟩, rfl, rfl⟩
    rwa [Bytes.toList_fit hlen]
  · intro hspans
    exact ⟨block.toList, next, ⟨block.length_toList, hspans⟩, Bytes.fit_toList block, rfl⟩

end Decoder

/-! ### Written again -/

/-- What was read between the cursors is written again in as many bytes, and in the
    same bytes exactly if the condition holds. -/
def Rewritten (cursor next : Cursor) (form : Except EncodeFault Bytes) (same : Prop) : Prop :=
  ∃ read written, cursor.Spans read next ∧ form = .ok written ∧
    written.length = read.length ∧ (written = read ↔ same)

namespace Rewritten

variable {cursor mid next : Cursor} {part : Except EncodeFault Bytes}
  {parts : List (Except EncodeFault Bytes)} {same same' : Prop}

/-- The very bytes that were read are written again. -/
theorem of_spans {read : Bytes} (h : cursor.Spans read next) :
    Rewritten cursor next (.ok read) True :=
  ⟨read, read, h, rfl, rfl, by simp⟩

theorem nil (cursor : Cursor) : Rewritten cursor cursor (joined []) True :=
  of_spans (.refl cursor)

/-- Whether the bytes are the same can be said in other words. -/
theorem congr (h : Rewritten cursor next part same) (hsame : same ↔ same') :
    Rewritten cursor next part same' := by
  obtain ⟨read, written, hspans, hform, hlen, hiff⟩ := h
  exact ⟨read, written, hspans, hform, hlen, hiff.trans hsame⟩

/-- **Sequencing.** Parts of unchanged lengths are the same together exactly if each of
    them is. -/
theorem cons (hpart : Rewritten cursor mid part same)
    (hparts : Rewritten mid next (joined parts) same') :
    Rewritten cursor next (joined (part :: parts)) (same ∧ same') := by
  obtain ⟨read, written, hspans, rfl, hlen, hiff⟩ := hpart
  obtain ⟨read', written', hspans', hform', hlen', hiff'⟩ := hparts
  refine ⟨read ++ read', written ++ written', hspans.trans hspans', joined_ok_cons hform', ?_, ?_⟩
  · rw [List.length_append, List.length_append, hlen, hlen']
  · rw [← hiff, ← hiff']
    constructor
    · -- equal lengths in front, so equal bytes split at the same place
      intro h
      exact List.append_inj h hlen
    · rintro ⟨rfl, rfl⟩
      rfl

/-- A first part that is always the same leaves the condition to the others. -/
theorem cons_same (hpart : Rewritten cursor mid part True)
    (hparts : Rewritten mid next (joined parts) same) :
    Rewritten cursor next (joined (part :: parts)) same :=
  (hpart.cons hparts).congr (by simp)

/-- A part on its own. -/
theorem single (hpart : Rewritten cursor next part same) :
    Rewritten cursor next (joined [part]) same :=
  (hpart.cons (nil next)).congr (by simp)

end Rewritten

/-- Whatever the decoder reads is written again, in the same bytes exactly if the
    condition holds of the value. -/
def Decoder.Rewrites (d : Decoder α) (form : α → Except EncodeFault Bytes) (same : α → Prop) :
    Prop :=
  ∀ ⦃cursor a next⦄, d.run cursor = (.ok a, next) → Rewritten cursor next (form a) (same a)

/-- **Repetition.** Items read in a row are written again in a row. -/
theorem Decoder.Rewrites.times {d : Decoder α} {form : α → Except EncodeFault Bytes}
    {same : α → Prop} (hd : d.Rewrites form same) (count : Nat) :
    (Decoder.times count d).Rewrites (fun items => joined (items.map form))
      (fun items => ∀ item ∈ items, same item) := by
  induction count with
  | zero =>
    intro cursor items next h
    obtain ⟨rfl, rfl⟩ := run_pure_eq_ok.1 h
    exact (Rewritten.nil cursor).congr (by simp)
  | succ count ih =>
    intro cursor items next h
    simp only [Decoder.times, run_bind_eq_ok, run_pure_eq_ok] at h
    obtain ⟨item, mid, hitem, items, _, hitems, rfl, rfl⟩ := h
    exact ((hd hitem).cons (ih hitems)).congr (by simp)

/-- As many items are read as were asked for. -/
theorem Decoder.length_of_times {d : Decoder α} {count : Nat} {items : List α}
    {cursor next : Cursor} (h : (Decoder.times count d).run cursor = (.ok items, next)) :
    items.length = count := by
  induction count generalizing cursor items with
  | zero =>
    obtain ⟨rfl, -⟩ := run_pure_eq_ok.1 h
    rfl
  | succ count ih =>
    simp only [Decoder.times, run_bind_eq_ok, run_pure_eq_ok] at h
    obtain ⟨item, mid, -, items, _, hitems, rfl, rfl⟩ := h
    rw [List.length_cons, ih hitems]

/-! ### Exact types -/

/-- The decoder of the type takes nothing but what the encoder writes. -/
class Exact (α : Type) [Format α] : Prop where
  rewrites : (decode : Decoder α).Rewrites encode fun _ => True

export Exact (rewrites)

instance : Exact UInt8 where
  rewrites _ _ _ h := .of_spans (Decoder.run_byte_eq_ok.1 h)

/-- An integer of a fixed width that is read is written again in the bytes that its
    number was read from. -/
theorem Decoder.integer_rewrites {width : Nat} {ofNat : Nat → α}
    {form : α → Except EncodeFault Bytes}
    (hform : ∀ n < Bytes.capacity width, form (ofNat n) = .ok (Bytes.ofNat width n)) :
    (do return ofNat (← natural width) : Decoder α).Rewrites form fun _ => True := by
  intro cursor a next h
  simp only [run_bind_eq_ok, run_natural_eq_ok, run_pure_eq_ok] at h
  obtain ⟨n, _, ⟨hlt, hspans⟩, rfl, rfl⟩ := h
  rw [hform n hlt]
  exact .of_spans hspans

instance : Exact UInt16 where
  rewrites := by
    refine Decoder.integer_rewrites fun n hlt => ?_
    show Except.ok (Bytes.ofNat 2 (UInt16.ofNat n).toNat) = .ok (Bytes.ofNat 2 n)
    rw [UInt16.toNat_ofNat_of_lt' hlt]

instance : Exact UInt32 where
  rewrites := by
    refine Decoder.integer_rewrites fun n hlt => ?_
    show Except.ok (Bytes.ofNat 4 (UInt32.ofNat n).toNat) = .ok (Bytes.ofNat 4 n)
    rw [UInt32.toNat_ofNat_of_lt' hlt]

instance : Exact UInt64 where
  rewrites := by
    refine Decoder.integer_rewrites fun n hlt => ?_
    show Except.ok (Bytes.ofNat 8 (UInt64.ofNat n).toNat) = .ok (Bytes.ofNat 8 n)
    rw [UInt64.toNat_ofNat_of_lt' hlt]

instance (n : Nat) : Exact (Vector UInt8 n) where
  rewrites _ _ _ h := .of_spans (Decoder.run_block_eq_ok.1 h)

instance [Enumeration α] : Exact α where
  rewrites := by
    intro cursor a next h
    simp only [decode, Decoder.run_bind_eq_ok, Decoder.run_position_eq_ok,
      Decoder.run_byte_eq_ok, Decoder.run_require_eq_ok] at h
    obtain ⟨offset, _, ⟨rfl, rfl⟩, byte, mid, hspans, hcode, rfl⟩ := h
    obtain rfl := ofCode?_eq_some_iff.1 hcode
    exact .of_spans hspans

/-- A value that is read back, and written again as it was read, is read exactly where its
    form stands. -/
theorem Decoder.run_eq_ok_iff_spans {d : Decoder α} {form : Except EncodeFault Bytes} {a : α}
    {cursor next : Cursor} (hreads : ∀ bytes, form = .ok bytes → d.Reads bytes a)
    (hrewritten : d.run cursor = (.ok a, next) → Rewritten cursor next form True) :
    d.run cursor = (.ok a, next) ↔ ∃ bytes, form = .ok bytes ∧ cursor.Spans bytes next := by
  constructor
  · intro hrun
    obtain ⟨read, written, hspans, hform, -, hsame⟩ := hrewritten hrun
    obtain rfl : written = read := hsame.2 trivial
    exact ⟨written, hform, hspans⟩
  · rintro ⟨bytes, hform, hspans⟩
    obtain ⟨hcursor, hnext⟩ := Cursor.Spans.eq_iff.1 hspans
    rw [hcursor, hnext]
    exact hreads bytes hform cursor.position next.rest

/-- **Exact types.** A value is read exactly where its wire form stands. -/
theorem run_decode_eq_ok_iff [Format α] [RoundTrip α] [Exact α] {a : α} {cursor next : Cursor} :
    (decode : Decoder α).run cursor = (.ok a, next) ↔
      ∃ bytes, encode a = .ok bytes ∧ cursor.Spans bytes next :=
  Decoder.run_eq_ok_iff_spans (fun _ h => reads h) fun hrun => rewrites hrun

/-! ### Field by field -/

/-- What the decoder reads completes the parts in front of it: they and the parts it is
    written as are the form of the value. -/
def Decoder.Completes (d : Decoder β) (form : β → Except EncodeFault Bytes)
    (front : List (Except EncodeFault Bytes)) : Prop :=
  ∀ ⦃cursor b next⦄, d.run cursor = (.ok b, next) →
    ∃ parts, form b = joined (front ++ parts) ∧ Rewritten cursor next (joined parts) True

namespace Decoder.Completes

variable {form : β → Except EncodeFault Bytes} {front : List (Except EncodeFault Bytes)}

/-- When no field is left, the parts in front are the form. -/
theorem done {b : β} (h : form b = joined front) :
    (Pure.pure b : Decoder β).Completes form front := by
  intro cursor _ next hrun
  obtain ⟨rfl, rfl⟩ := run_pure_eq_ok.1 hrun
  refine ⟨[], ?_, .nil cursor⟩
  rw [h, List.append_nil]

/-- What fails completes any form, as it never gets there. -/
theorem fail {fault : DecodeFault} : (Decoder.fail fault : Decoder β).Completes form front :=
  fun _ _ _ hrun => absurd hrun (by simp [run_fail_eq_ok])

theorem position {f : Nat → Decoder β} (hf : ∀ offset, (f offset).Completes form front) :
    (Decoder.position >>= f).Completes form front := by
  intro cursor b next hrun
  obtain ⟨offset, _, hoffset, hf'⟩ := run_bind_eq_ok.1 hrun
  obtain ⟨rfl, rfl⟩ := run_position_eq_ok.1 hoffset
  exact hf _ hf'

/-- **Sequencing.** A field moves to the parts in front. -/
theorem field [Format α] [Exact α] {f : α → Decoder β}
    (hf : ∀ a, (f a).Completes form (front ++ [encode a])) :
    (decode >>= f).Completes form front := by
  intro cursor b next hrun
  obtain ⟨a, mid, ha, hf'⟩ := run_bind_eq_ok.1 hrun
  obtain ⟨parts, hform, hparts⟩ := hf a hf'
  refine ⟨encode a :: parts, ?_, (rewrites ha).cons_same hparts⟩
  rw [hform, List.append_assoc, List.singleton_append]

end Decoder.Completes

/-- A byte on its own is a field. -/
theorem Decoder.Completes.byte {form : β → Except EncodeFault Bytes}
    {front : List (Except EncodeFault Bytes)} {f : UInt8 → Decoder β}
    (hf : ∀ b, (f b).Completes form (front ++ [.ok [b]])) :
    (Decoder.byte >>= f).Completes form front :=
  .field hf

/-- With nothing in front, the parts are the form. -/
theorem Decoder.Rewrites.of_completes {d : Decoder β} {form : β → Except EncodeFault Bytes}
    (h : d.Completes form []) : d.Rewrites form fun _ => True := by
  intro cursor b next hrun
  obtain ⟨parts, hform, hparts⟩ := h hrun
  rw [hform]
  exact hparts

/-- A length that is read fits its four bytes. -/
theorem decodeLength_rewrites : decodeLength.Rewrites encodeLength fun _ => True := by
  intro cursor length next h
  obtain ⟨hlt, hspans⟩ := Decoder.run_natural_eq_ok.1 h
  rw [encodeLength_eq_ok.2 ⟨hlt, rfl⟩]
  exact .of_spans hspans

/-- **Counted items** are written again after their number. -/
theorem Decoder.Rewrites.counted {d : Decoder α} {form : α → Except EncodeFault Bytes}
    {same : α → Prop} (hd : d.Rewrites form same) :
    (do let count ← decodeLength
        Decoder.times count d : Decoder (List α)).Rewrites
      (fun items => joined (encodeLength items.length :: items.map form))
      (fun items => ∀ item ∈ items, same item) := by
  intro cursor items next h
  obtain ⟨count, mid, hcount, hitems⟩ := Decoder.run_bind_eq_ok.1 h
  obtain rfl := Decoder.length_of_times hitems
  exact .cons_same (decodeLength_rewrites hcount) (hd.times _ hitems)

instance [Format α] [Exact α] : Exact (List α) where
  rewrites _ _ _ h := ((rewrites (α := α)).counted h).congr (by simp)

end Registrar.Wire
