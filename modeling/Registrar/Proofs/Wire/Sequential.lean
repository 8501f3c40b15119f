import Registrar.Proofs.Wire.Rewriting

namespace Registrar.Wire

/-!
# Reading in sequence

A decoder that only ever takes the next bytes cannot depend on what comes after them, and
cannot end well before they have all come.

* `RanOut` — an outcome that says that bytes were missing;
* `Decoder.Sequential` — a decoder goes forward, its outcome depends on nothing behind its
  last read, and if it ends well then bytes are missing in whatever stops earlier;
* `Decoder.Sequential.bind`, `Decoder.Sequential.times` — closed under sequencing and
  repetition, so all that is put together from sequential reads is sequential;
* `Sequential` — types with such a decoder, with instances for integers, blocks,
  enumerations and lists.
-/

variable {α β : Type}

/-- The outcome of a read that wanted more bytes than were left. -/
def RanOut (outcome : Except DecodeFault α) : Prop :=
  ∃ offset requested remaining, outcome = .error (.outOfBounds offset requested remaining)

theorem not_ranOut_ok (a : α) : ¬ RanOut (.ok a : Except DecodeFault α) := by
  rintro ⟨_, _, _, h⟩
  cases h

/-- Running out says nothing about the value that was to be read. -/
theorem ranOut_error {fault : DecodeFault} (h : RanOut (.error fault : Except DecodeFault α)) :
    RanOut (.error fault : Except DecodeFault β) := by
  obtain ⟨offset, requested, remaining, h⟩ := h
  cases h
  exact ⟨offset, requested, remaining, rfl⟩

/-- A run that ran out says where, how much was asked for and how much was left. -/
theorem exists_run_of_ranOut {d : Decoder α} {cursor : Cursor} (h : RanOut (d.run cursor).1) :
    ∃ offset requested remaining next,
      d.run cursor = (.error (.outOfBounds offset requested remaining), next) := by
  obtain ⟨offset, requested, remaining, hfault⟩ := h
  exact ⟨offset, requested, remaining, (d.run cursor).2, Prod.ext hfault rfl⟩

/-- The decoder takes the next bytes one read after another and looks no further. -/
structure Decoder.Sequential (d : Decoder α) : Prop where
  /-- The cursor goes forward over the bytes that were read. -/
  spans : ∀ ⦃cursor outcome next⦄, d.run cursor = (outcome, next) →
    ∃ read, cursor.Spans read next
  /-- Unless bytes are missing, whatever follows the bytes that were read does not matter. -/
  stable : ∀ ⦃position read rest outcome⦄,
    d.run ⟨position, read ++ rest⟩ = (outcome, ⟨position + read.length, rest⟩) →
    ¬ RanOut outcome → ∀ rest',
      d.run ⟨position, read ++ rest'⟩ = (outcome, ⟨position + read.length, rest'⟩)
  /-- Where bytes that were read are cut off, bytes are missing. -/
  truncated : ∀ ⦃position front back rest a⦄,
    d.run ⟨position, front ++ back ++ rest⟩ =
      (.ok a, ⟨position + (front ++ back).length, rest⟩) →
    back ≠ [] → RanOut (d.run ⟨position, front⟩).1

namespace Decoder.Sequential

variable {d : Decoder α} {f : α → Decoder β}

/-! ### Decoders that read nothing -/

/-- A decoder that leaves the cursor and whose outcome depends on the position only. -/
theorem of_idle (outcome : Nat → Except DecodeFault α)
    (h : ∀ cursor, d.run cursor = (outcome cursor.position, cursor)) : d.Sequential where
  spans cursor _ next hrun := by
    rw [h cursor] at hrun
    obtain ⟨-, rfl⟩ := Prod.mk.inj hrun
    exact ⟨[], .refl cursor⟩
  stable position read rest _ hrun _ rest' := by
    rw [h] at hrun ⊢
    obtain ⟨rfl, hcursor⟩ := Prod.mk.inj hrun
    -- nothing is read by what leaves the cursor where it is
    have hread : read = [] := by
      have hrest := congrArg (List.length ∘ Cursor.rest) hcursor
      simp only [Function.comp_apply, List.length_append] at hrest
      exact List.length_eq_zero_iff.1 (by omega)
    subst hread
    rfl
  truncated position front back rest a hrun hback := by
    rw [h] at hrun
    have hrest := congrArg (List.length ∘ Cursor.rest) (Prod.mk.inj hrun).2
    simp only [Function.comp_apply, List.length_append] at hrest
    exact absurd (List.length_eq_zero_iff.1 (by omega)) hback

theorem pure (a : α) : (Pure.pure a : Decoder α).Sequential :=
  of_idle (fun _ => .ok a) fun _ => rfl

theorem fail (fault : DecodeFault) : (Decoder.fail fault : Decoder α).Sequential :=
  of_idle (fun _ => .error fault) fun _ => rfl

theorem position : Decoder.position.Sequential :=
  of_idle .ok fun _ => rfl

theorem require (fault : DecodeFault) (found : Option α) :
    (Decoder.require fault found).Sequential := by
  cases found with
  | none => exact fail fault
  | some a => exact pure a

/-! ### Reads -/

/-- A read of some bytes is only cut short by the end of the input. -/
theorem bytes (n : Nat) : (Decoder.bytes n).Sequential where
  spans cursor outcome next hrun := by
    cases outcome with
    | ok read => exact ⟨read, (run_bytes_eq_ok.1 hrun).2⟩
    | error fault =>
      simp only [Decoder.bytes, run] at hrun
      split at hrun
      · cases (Prod.mk.inj hrun).1
      · obtain ⟨-, rfl⟩ := Prod.mk.inj hrun
        exact ⟨[], .refl cursor⟩
  stable position read rest outcome hrun hout rest' := by
    cases outcome with
    | ok found =>
      obtain ⟨hlen, hspans⟩ := run_bytes_eq_ok.1 hrun
      obtain rfl : read = found := List.append_cancel_right hspans.1
      exact run_bytes_eq_ok.2 ⟨hlen, rfl, rfl⟩
    | error fault =>
      simp only [Decoder.bytes, run] at hrun
      split at hrun
      · cases (Prod.mk.inj hrun).1
      · obtain ⟨hfault, -⟩ := Prod.mk.inj hrun
        -- the only failure is that the bytes ran out
        exact absurd ⟨_, _, _, hfault.symm⟩ hout
  truncated position front back rest found hrun hback := by
    obtain ⟨hlen, hspans⟩ := run_bytes_eq_ok.1 hrun
    obtain rfl : front ++ back = found := List.append_cancel_right hspans.1
    have hpos : 0 < back.length := List.length_pos_iff.2 hback
    have hshort : ¬ (front.take n).length = n := by
      rw [List.length_append] at hlen
      rw [List.length_take]
      omega
    simp only [Decoder.bytes, run, if_neg hshort]
    exact ⟨_, _, _, rfl⟩

/-! ### Sequencing and repetition -/

/-- What a first decoder that ended well and a next one went over. -/
private theorem split_run (hd : d.Sequential) (hf : ∀ a, (f a).Sequential)
    {position : Nat} {read rest : Bytes} {a : α} {mid : Cursor} {outcome : Except DecodeFault β}
    (hfirst : d.run ⟨position, read ++ rest⟩ = (.ok a, mid))
    (hnext : (f a).run mid = (outcome, ⟨position + read.length, rest⟩)) :
    ∃ front back, read = front ++ back ∧ mid = ⟨position + front.length, back ++ rest⟩ := by
  -- what is read falls into the two parts that the decoders go over
  obtain ⟨front, hrest, hposition⟩ := hd.spans hfirst
  obtain ⟨back, hrest', -⟩ := (hf a).spans hnext
  obtain ⟨midPosition, midRest⟩ := mid
  simp only at hrest hposition hrest'
  subst hrest' hposition
  refine ⟨front, back, ?_, rfl⟩
  rw [← List.append_assoc] at hrest
  exact List.append_cancel_right hrest

/-- **Sequencing.** If the first decoder is sequential and the next one is, both together
    are. -/
theorem bind (hd : d.Sequential) (hf : ∀ a, (f a).Sequential) : (d >>= f).Sequential where
  spans cursor outcome next hrun := by
    rw [run_bind] at hrun
    split at hrun
    · next a mid hfirst =>
      obtain ⟨front, hfront⟩ := hd.spans hfirst
      obtain ⟨back, hback⟩ := (hf a).spans hrun
      exact ⟨front ++ back, hfront.trans hback⟩
    · next fault mid hfirst =>
      obtain ⟨-, rfl⟩ := Prod.mk.inj hrun
      exact hd.spans hfirst
  stable position read rest outcome hrun hout rest' := by
    rw [run_bind] at hrun ⊢
    split at hrun
    · next a mid hfirst =>
      obtain ⟨front, back, rfl, rfl⟩ := split_run hd hf hfirst hrun
      rw [List.append_assoc] at hfirst ⊢
      rw [List.length_append, ← Nat.add_assoc] at hrun ⊢
      rw [hd.stable hfirst (not_ranOut_ok a) (back ++ rest')]
      exact (hf a).stable hrun hout rest'
    · next fault mid hfirst =>
      obtain ⟨rfl, rfl⟩ := Prod.mk.inj hrun
      rw [hd.stable hfirst (fun h => hout (ranOut_error h)) rest']
  truncated position front back rest b hrun hback := by
    obtain ⟨a, mid, hfirst, hnext⟩ := run_bind_eq_ok.1 hrun
    obtain ⟨first, second, hread, rfl⟩ := split_run hd hf hfirst hnext
    -- the next decoder is cut short if the first one had all its bytes
    have hsecond : ∀ cut, front = first ++ cut → second = cut ++ back →
        RanOut ((d >>= f).run ⟨position, front⟩).1 := by
      rintro cut rfl rfl
      rw [List.append_assoc first cut back, List.append_assoc] at hfirst
      rw [List.append_assoc first cut back, List.length_append, ← Nat.add_assoc] at hnext
      rw [run_bind, hd.stable hfirst (not_ranOut_ok a) cut]
      exact (hf a).truncated hnext hback
    -- otherwise the cut is inside what the first one reads
    rcases List.append_eq_append_iff.1 hread with ⟨cut, rfl, hcut⟩ | ⟨cut, hfront, hcut⟩
    · by_cases hempty : cut = []
      · subst hempty
        exact hsecond [] (by simp) (by simpa using hcut.symm)
      · subst hcut
        rw [← List.append_assoc front cut second, List.append_assoc] at hfirst
        obtain ⟨_, _, _, mid, hshort⟩ := exists_run_of_ranOut (hd.truncated hfirst hempty)
        rw [run_bind, hshort]
        exact ⟨_, _, _, rfl⟩
    · exact hsecond cut hfront hcut

/-- A decoder whose value is only repacked. -/
theorem map (hd : d.Sequential) (g : α → β) : (do return g (← d) : Decoder β).Sequential :=
  hd.bind fun a => pure (g a)

/-- A byte is read as a byte string of length one is. -/
theorem byte : Decoder.byte.Sequential := by
  have hbyte : Decoder.byte = do return (← Decoder.bytes 1).headD 0 := by
    funext cursor
    obtain ⟨position, rest⟩ := cursor
    cases rest <;> rfl
  rw [hbyte]
  exact (bytes 1).map _

/-- Integers are read in sequence, as their bytes are. -/
theorem natural (width : Nat) : (Decoder.natural width).Sequential :=
  (bytes width).map Bytes.toNat

theorem block (n : Nat) : (Decoder.block n).Sequential :=
  (bytes n).map (Bytes.fit n)

/-- **Repetition.** A sequential decoder is sequential any number of times over. -/
theorem times (hd : d.Sequential) (count : Nat) : (Decoder.times count d).Sequential := by
  induction count with
  | zero => exact pure []
  | succ count ih => exact hd.bind fun a => ih.map (a :: ·)

end Decoder.Sequential

/-! ### Sequential types -/

/-- The decoder of the type is sequential. -/
class Sequential (α : Type) [Format α] : Prop where
  sequential : (decode : Decoder α).Sequential

export Sequential (sequential)

instance : Sequential UInt8 where
  sequential := .byte

instance : Sequential UInt16 where
  sequential := (Decoder.Sequential.natural 2).map UInt16.ofNat

instance : Sequential UInt32 where
  sequential := (Decoder.Sequential.natural 4).map UInt32.ofNat

instance : Sequential UInt64 where
  sequential := (Decoder.Sequential.natural 8).map UInt64.ofNat

instance (n : Nat) : Sequential (Vector UInt8 n) where
  sequential := .block n

instance [Enumeration α] : Sequential α where
  sequential := Decoder.Sequential.position.bind fun _ =>
    Decoder.Sequential.byte.bind fun _ => .require _ _

/-- **Fields.** A field is read in sequence, so it is enough that those behind it are. -/
theorem Decoder.Sequential.field [Format α] [Wire.Sequential α] {f : α → Decoder β}
    (hf : ∀ a, (f a).Sequential) : (decode >>= f).Sequential :=
  bind sequential hf

theorem decodeLength_sequential : decodeLength.Sequential :=
  .natural 4

instance [Format α] [Sequential α] : Sequential (List α) where
  sequential := decodeLength_sequential.bind fun count => sequential.times count

/-! ### Whole inputs -/

section

variable [Format α] [Sequential α] {input other : Bytes} {cursor : Cursor}

/-- The bytes up to the cursor are those that were read. -/
theorem exists_read_of_run_start {outcome : Except DecodeFault α}
    (h : (decode : Decoder α).run (.start input) = (outcome, cursor)) :
    ∃ read, input = read ++ cursor.rest ∧ cursor.position = read.length ∧
      (decode : Decoder α).run ⟨0, read ++ cursor.rest⟩ =
        (outcome, ⟨0 + read.length, cursor.rest⟩) := by
  obtain ⟨read, hrest, hposition⟩ := sequential.spans h
  refine ⟨read, hrest, hposition.trans (Nat.zero_add _), ?_⟩
  have hcursor : cursor = ⟨0 + read.length, cursor.rest⟩ := by
    rw [← show cursor.position = 0 + read.length from hposition]
  rw [← hcursor, ← show input = read ++ cursor.rest from hrest]
  exact h

/-- **What was not read does not matter.** Unless bytes are missing, an input with the same
    bytes up to the cursor is read in the same way. -/
theorem run_start_of_take_eq {outcome : Except DecodeFault α}
    (h : (decode : Decoder α).run (.start input) = (outcome, cursor)) (hout : ¬ RanOut outcome)
    (hagree : other.take cursor.position = input.take cursor.position) :
    (decode : Decoder α).run (.start other) =
      (outcome, ⟨cursor.position, other.drop cursor.position⟩) := by
  obtain ⟨read, rfl, hposition, hrun⟩ := exists_read_of_run_start h
  rw [hposition] at hagree ⊢
  -- the other input begins with the bytes that were read
  have hother : read ++ other.drop read.length = other := by
    have hsplit := List.take_append_drop read.length other
    rwa [hagree, List.take_left] at hsplit
  have hstable := sequential.stable hrun hout (other.drop read.length)
  rwa [hother, Nat.zero_add] at hstable

/-- **Truncation.** Where an input that was read is cut off, bytes are missing. -/
theorem ranOut_run_start_take {a : α} {n : Nat}
    (h : (decode : Decoder α).run (.start input) = (.ok a, cursor)) (hn : n < cursor.position) :
    RanOut ((decode : Decoder α).run (.start (input.take n))).1 := by
  obtain ⟨read, rfl, hposition, hrun⟩ := exists_read_of_run_start h
  rw [hposition] at hn
  rw [List.take_append_of_le_length (Nat.le_of_lt hn)]
  -- the cut is made within what was read, so something is missing
  have hback : read.drop n ≠ [] := by
    rw [← List.length_pos_iff, List.length_drop]
    omega
  rw [← List.take_append_drop n read] at hrun
  exact sequential.truncated hrun hback

/-- A whole input that is cut off is no whole input. -/
theorem ranOut_ofBytes_take {a : α} {n : Nat} (h : ofBytes input = .ok a)
    (hn : n < input.length) : RanOut (ofBytes (input.take n) : Except DecodeFault α) := by
  obtain ⟨cursor, hrun, hrest⟩ := ofBytes_eq_ok_iff.1 h
  obtain ⟨read, hinput, hposition, -⟩ := exists_read_of_run_start hrun
  rw [hrest, List.append_nil] at hinput
  have hshort : RanOut ((decode : Decoder α).run (.start (input.take n))).1 :=
    ranOut_run_start_take hrun (by rwa [hposition, ← hinput])
  obtain ⟨_, _, _, mid, hcut⟩ := exists_run_of_ranOut hshort
  simp only [ofBytes, hcut]
  exact ⟨_, _, _, rfl⟩

end

end Registrar.Wire
