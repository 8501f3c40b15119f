import Mathlib.Algebra.GroupWithZero.Nat
import Registrar.Proofs.Wire.Sequential

namespace Registrar.Wire

/-!
# Progress of decoders and of loops

A count on the wire says how often a loop is to run, and whoever wrote the bytes may have
written any count. What bounds the loop is that each item that is read takes bytes.

* `Decoder.run_bind_eq_error` and its siblings — what a run that failed consists of;
* `Decoder.Takes` — a decoder takes at least as many bytes as a measure of what it reads;
  closed under sequencing and repetition;
* `Decoder.Sequential.takes_one` — a sequential decoder that does not read the empty input
  takes a byte of every input that it reads;
* `Decoder.laps` — where the iterations of a loop begin;
* `Decoder.Contained` — a loop is bounded by its bytes, whatever count it was given;
* `Decoder.contained_of_takes` — so are all loops over items that take bytes;
* `Decoder.Loops` — a decoder reads a count and runs such a loop;
* `Decoder.Pays` — a cost that is paid for by the bytes that are read and known from the value,
  with one unit left over where reading fails.
-/

variable {α β : Type}

/-! ### Positions -/

/-- What is read is left no more. -/
theorem Cursor.Spans.remaining_eq {cursor next : Cursor} {read : Bytes}
    (h : cursor.Spans read next) : cursor.remaining = read.length + next.remaining := by
  show cursor.rest.length = read.length + next.rest.length
  rw [h.1, List.length_append]

namespace Decoder

variable {d : Decoder α} {f : α → Decoder β} {cursor next : Cursor}

/-! ### Runs that end well and runs that fail -/

/-- A run ends in a value or in a fault. -/
theorem run_ok_or_error (d : Decoder α) (cursor : Cursor) :
    (∃ a next, d.run cursor = (.ok a, next)) ∨
      ∃ fault next, d.run cursor = (.error fault, next) := by
  cases hrun : d.run cursor with
  | mk outcome next =>
  cases outcome with
  | ok a => exact .inl ⟨a, next, rfl⟩
  | error fault => exact .inr ⟨fault, next, rfl⟩

section

variable {fault fault' : DecodeFault}

/-- Two steps in a row fail where the first does, or the second does behind it. -/
theorem run_bind_eq_error :
    (d >>= f).run cursor = (.error fault, next) ↔
      d.run cursor = (.error fault, next) ∨
        ∃ a mid, d.run cursor = (.ok a, mid) ∧ (f a).run mid = (.error fault, next) := by
  rw [run_bind]
  obtain ⟨a, mid, hrun⟩ | ⟨fault', mid, hrun⟩ := d.run_ok_or_error cursor
  · simp [hrun, and_assoc]
  · simp [hrun]

/-- Repacking a value does not fail. -/
theorem run_map_eq_error {g : α → β} :
    (do return g (← d) : Decoder β).run cursor = (.error fault, next) ↔
      d.run cursor = (.error fault, next) := by
  rw [run_bind_eq_error]
  simp

theorem run_fail_eq_error :
    (fail fault : Decoder α).run cursor = (.error fault', next) ↔
      fault = fault' ∧ cursor = next := by
  simp [fail, run]

theorem run_require_eq_error {found : Option α} :
    (require fault found).run cursor = (.error fault', next) ↔
      found = none ∧ fault = fault' ∧ cursor = next := by
  cases found <;> simp [require, run_fail_eq_error]

/-- A byte is missing only at the end of the input. -/
theorem run_byte_eq_error :
    byte.run cursor = (.error fault, next) ↔
      cursor.remaining = 0 ∧ .outOfBounds cursor.position 1 0 = fault ∧ cursor = next := by
  obtain ⟨position, rest⟩ := cursor
  cases rest <;> simp [byte, run, Cursor.remaining]

/-- Bytes are missing where fewer are left, and then none of them is taken. -/
theorem run_bytes_eq_error {n : Nat} :
    (bytes n).run cursor = (.error fault, next) ↔
      cursor.remaining < n ∧ .outOfBounds cursor.position n cursor.remaining = fault ∧
        cursor = next := by
  have hremaining : cursor.rest.length = cursor.remaining := rfl
  have hshort : (cursor.rest.take n).length = n ↔ ¬ cursor.remaining < n := by
    rw [List.length_take, hremaining]
    omega
  simp only [bytes, run, hshort, hremaining]
  by_cases hmissing : cursor.remaining < n <;> simp [hmissing]

end

/-! ### Positions and what is left -/

/-- A cursor only moves on. -/
theorem Sequential.position_le (hd : d.Sequential) {outcome : Except DecodeFault α}
    (h : d.run cursor = (outcome, next)) : cursor.position ≤ next.position := by
  obtain ⟨read, -, hposition⟩ := hd.spans h
  omega

/-- The end of the input stays where it is. -/
theorem Sequential.end_eq (hd : d.Sequential) {outcome : Except DecodeFault α}
    (h : d.run cursor = (outcome, next)) :
    next.position + next.remaining = cursor.position + cursor.remaining := by
  obtain ⟨read, hspans⟩ := hd.spans h
  have hposition : next.position = cursor.position + read.length := hspans.2
  have hremaining := hspans.remaining_eq
  omega

/-! ### Bytes that a value takes -/

/-- Whatever the decoder reads takes at least as many bytes as the measure says. -/
def Takes (measure : α → Nat) (d : Decoder α) : Prop :=
  ∀ ⦃cursor a next⦄, d.run cursor = (.ok a, next) → cursor.position + measure a ≤ next.position

namespace Takes

variable {measure : α → Nat} {total : β → Nat}

/-- What takes as many bytes as are measured takes as many as any smaller measure says. -/
theorem mono {less : α → Nat} (h : d.Takes measure) (hless : ∀ a, less a ≤ measure a) :
    d.Takes less := by
  intro cursor a next hrun
  have := h hrun
  have := hless a
  omega

theorem pure {a : α} (h : measure a = 0) : (Pure.pure a : Decoder α).Takes measure := by
  intro cursor b next hrun
  obtain ⟨rfl, rfl⟩ := run_pure_eq_ok.1 hrun
  omega

/-- **Sequencing.** What the first value does not take is left to the next one. -/
theorem bind (hd : d.Takes measure) (hf : ∀ a, (f a).Takes fun b => total b - measure a) :
    (d >>= f).Takes total := by
  intro cursor b next hrun
  obtain ⟨a, mid, hfirst, hnext⟩ := run_bind_eq_ok.1 hrun
  have hfirst' := hd hfirst
  have hnext' := hf a hnext
  simp only at hnext'
  omega

/-- Repacking a value takes nothing. -/
theorem map (hd : d.Takes measure) {g : α → β} (h : ∀ a, total (g a) ≤ measure a) :
    (do return g (← d) : Decoder β).Takes total :=
  hd.bind fun a => pure (Nat.sub_eq_zero_of_le (h a))

/-- Bytes are taken as many as are asked for. -/
theorem bytes (n : Nat) : (Decoder.bytes n).Takes fun _ => n := by
  intro cursor read next hrun
  obtain ⟨hlength, -, hposition⟩ := run_bytes_eq_ok.1 hrun
  show cursor.position + n ≤ next.position
  omega

theorem byte : Decoder.byte.Takes fun _ => 1 := by
  intro cursor read next hrun
  obtain ⟨-, hposition⟩ := run_byte_eq_ok.1 hrun
  exact Nat.le_of_eq hposition.symm

/-- An integer takes a byte for each byte of its width. -/
theorem natural (width : Nat) : (Decoder.natural width).Takes fun _ => width :=
  (bytes width).map fun _ => Nat.le_refl width

/-- **Repetition.** Items in a row take what each of them takes. -/
theorem times (hd : d.Takes measure) (count : Nat) :
    (Decoder.times count d).Takes fun items => (items.map measure).sum := by
  induction count with
  | zero => exact pure rfl
  | succ count ih =>
    refine hd.bind fun a => ih.bind fun items => pure ?_
    simp only [List.map_cons, List.sum_cons]
    omega

end Takes

theorem Sequential.takes_zero (hd : d.Sequential) : d.Takes fun _ => 0 :=
  fun _ _ _ hrun => hd.position_le hrun

/-- A sequential decoder that does not read the empty input takes a byte of each input. -/
theorem Sequential.takes_one (hd : d.Sequential)
    (hempty : ∀ position, ∃ fault next, d.run ⟨position, []⟩ = (.error fault, next)) :
    d.Takes fun _ => 1 := by
  intro cursor a next hrun
  obtain ⟨read, hspans⟩ := hd.spans hrun
  have hposition : next.position = cursor.position + read.length := hspans.2
  -- with nothing read, the empty input would be read in the same way
  have hread : read ≠ [] := by
    rintro rfl
    obtain ⟨hcursor, hnext⟩ := Cursor.Spans.eq_iff.1 hspans
    rw [hcursor, hnext] at hrun
    have hstable := hd.stable hrun (not_ranOut_ok a) []
    obtain ⟨fault, _, hfault⟩ := hempty cursor.position
    rw [List.append_nil, hfault] at hstable
    cases hstable
  have hpos := List.length_pos_iff.2 hread
  show cursor.position + 1 ≤ next.position
  omega

/-! ### Loops -/

/-- Where the iterations of a loop begin: the first one where the loop does, and each further
    one where the one before it ended well. -/
def laps (d : Decoder α) : (count : Nat) → Cursor → List Cursor
  | 0, _ => []
  | count + 1, cursor =>
    cursor :: match d.run cursor with
      | (.ok _, next) => laps d count next
      | (.error _, _) => []

/-- A lap that succeeds is followed by the others. -/
theorem laps_of_ok {a : α} (count : Nat) (h : d.run cursor = (.ok a, next)) :
    d.laps (count + 1) cursor = cursor :: d.laps count next := by
  rw [laps, h]

theorem laps_of_error {fault : DecodeFault} (count : Nat)
    (h : d.run cursor = (.error fault, next)) : d.laps (count + 1) cursor = [cursor] := by
  rw [laps, h]

/-- Repeating goes on behind an item that was read. -/
theorem run_times_of_ok {a : α} (count : Nat) (h : d.run cursor = (.ok a, next)) :
    (times (count + 1) d).run cursor = (do return a :: (← times count d) : Decoder _).run next := by
  rw [times, run_bind, h]

theorem run_times_of_error {fault : DecodeFault} (count : Nat)
    (h : d.run cursor = (.error fault, next)) :
    (times (count + 1) d).run cursor = (.error fault, next) := by
  rw [times, run_bind, h]

/-- The loop over `count` items, of at least `width` bytes each, is bounded by its bytes. -/
structure Contained (d : Decoder α) (width count : Nat) (cursor : Cursor) : Prop where
  /-- The loop ends well only if there are bytes for as many items as were announced. -/
  count_le : ∀ ⦃items next⦄, (times count d).run cursor = (.ok items, next) →
    cursor.position + count * width ≤ next.position
  /-- A loop that ends well has had an iteration for each item. -/
  completes : ∀ ⦃items next⦄, (times count d).run cursor = (.ok items, next) →
    (d.laps count cursor).length = count
  /-- The loop fails where the last of its iterations does. -/
  fails_iff : ∀ ⦃fault next⦄, (times count d).run cursor = (.error fault, next) ↔
    ∃ last, (d.laps count cursor).getLast? = some last ∧ d.run last = (.error fault, next)
  /-- Each iteration that ends well goes forward by an item. -/
  strides : ∀ ⦃lap a next⦄, lap ∈ d.laps count cursor → d.run lap = (.ok a, next) →
    lap.position + width ≤ next.position
  /-- From one iteration to each later one the cursor goes forward. -/
  advances : (d.laps count cursor).Pairwise fun lap later => lap.position + width ≤ later.position
  /-- There are no more iterations than items that fit what is left, and one that fails. -/
  length_laps_le : (d.laps count cursor).length ≤ cursor.remaining / width + 1
  /-- All counts that what is left does not suffice for come to the same. -/
  capped : cursor.remaining / width < count →
    (times count d).run cursor = (times (cursor.remaining / width + 1) d).run cursor

/-- The decoder reads a count, then as many items, and finishes with them; whatever count it
    reads, the loop over the items is bounded by its bytes. -/
structure Loops (d : Decoder β) (item : Decoder α) (width : Nat) : Prop where
  reads : ∃ finish : List α → Decoder β,
    d = decodeLength >>= fun count => times count item >>= finish
  contained : ∀ count cursor, item.Contained width count cursor

section

variable {width : Nat}

/-- An item that is read leaves room for one item less. -/
theorem remaining_div_lt (hd : d.Sequential) (hwidth : d.Takes fun _ => width)
    (hpos : 0 < width) {a : α} (h : d.run cursor = (.ok a, next)) :
    next.remaining / width + 1 ≤ cursor.remaining / width := by
  have hend := hd.end_eq h
  have htaken : cursor.position + width ≤ next.position := hwidth h
  have hroom : next.remaining + width ≤ cursor.remaining := by omega
  calc next.remaining / width + 1
      = (next.remaining + width) / width := (Nat.add_div_right _ hpos).symm
    _ ≤ cursor.remaining / width := Nat.div_le_div_right hroom

/-- **Repetitions** take the bytes of all their items. -/
theorem count_le_of_run_times (hwidth : d.Takes fun _ => width) {count : Nat} {items : List α}
    (h : (times count d).run cursor = (.ok items, next)) :
    cursor.position + count * width ≤ next.position := by
  have htaken : cursor.position + (items.map fun _ => width).sum ≤ next.position :=
    hwidth.times count h
  have hsum : (items.map fun _ => width).sum = count * width := by
    rw [List.map_const', List.sum_replicate_nat, length_of_times h]
  rwa [hsum] at htaken

/-- Each item that was read had a lap. -/
theorem length_laps_of_run_times {count : Nat} {items : List α}
    (h : (times count d).run cursor = (.ok items, next)) :
    (d.laps count cursor).length = count := by
  induction count generalizing cursor items with
  | zero => rfl
  | succ count ih =>
    obtain ⟨a, mid, hfirst, hrest⟩ := run_bind_eq_ok.1 h
    obtain ⟨items, _, hitems, hend⟩ := run_bind_eq_ok.1 hrest
    obtain ⟨-, rfl⟩ := run_pure_eq_ok.1 hend
    rw [laps_of_ok count hfirst, List.length_cons, ih hitems]

/-- A loop fails where its last iteration does. -/
theorem run_times_eq_error_iff {count : Nat} {fault : DecodeFault} :
    (times count d).run cursor = (.error fault, next) ↔
      ∃ last, (d.laps count cursor).getLast? = some last ∧
        d.run last = (.error fault, next) := by
  induction count generalizing cursor with
  | zero => simp [times, laps]
  | succ count ih =>
    obtain ⟨a, mid, hrun⟩ | ⟨fault, mid, hrun⟩ := d.run_ok_or_error cursor
    · rw [run_times_of_ok count hrun, laps_of_ok count hrun, run_map_eq_error, ih]
      cases hlaps : d.laps count mid with
      -- the first iteration is the last one, and it ended well
      | nil => simp [hrun]
      | cons lap later => rw [List.getLast?_cons_cons]
    · rw [run_times_of_error count hrun, laps_of_error count hrun]
      simp [hrun]

/-- All iterations begin where the loop does or behind it. -/
theorem position_le_of_mem_laps (hd : d.Sequential) {count : Nat} {lap : Cursor}
    (h : lap ∈ d.laps count cursor) : cursor.position ≤ lap.position := by
  -- on the laps to go, with the cursor of the first of them
  induction count generalizing cursor with
  | zero => simp [laps] at h
  | succ count ih =>
    obtain ⟨a, mid, hrun⟩ | ⟨fault, mid, hrun⟩ := d.run_ok_or_error cursor
    · rw [laps_of_ok count hrun, List.mem_cons] at h
      rcases h with rfl | hlater
      · exact Nat.le_refl _
      · exact Nat.le_trans (hd.position_le hrun) (ih hlater)
    · rw [laps_of_error count hrun, List.mem_singleton] at h
      exact Nat.le_of_eq (congrArg Cursor.position h.symm)

/-- **Laps move on**: each begins behind the bytes of those before it. -/
theorem pairwise_laps (hd : d.Sequential) (hwidth : d.Takes fun _ => width) (count : Nat)
    (cursor : Cursor) :
    (d.laps count cursor).Pairwise fun lap later => lap.position + width ≤ later.position := by
  induction count generalizing cursor with
  | zero => exact .nil
  | succ count ih =>
    obtain ⟨a, mid, hrun⟩ | ⟨fault, mid, hrun⟩ := d.run_ok_or_error cursor
    · rw [laps_of_ok count hrun]
      refine List.pairwise_cons.2 ⟨fun later hlater => ?_, ih mid⟩
      exact Nat.le_trans (hwidth hrun) (position_le_of_mem_laps hd hlater)
    · rw [laps_of_error count hrun]
      exact List.pairwise_singleton _ _

/-- So there are no more laps than what is left has room for, and one that fails. -/
theorem length_laps_le (hd : d.Sequential) (hwidth : d.Takes fun _ => width) (hpos : 0 < width)
    (count : Nat) (cursor : Cursor) :
    (d.laps count cursor).length ≤ cursor.remaining / width + 1 := by
  induction count generalizing cursor with
  | zero => exact Nat.zero_le _
  | succ count ih =>
    obtain ⟨a, mid, hrun⟩ | ⟨fault, mid, hrun⟩ := d.run_ok_or_error cursor
    · have hroom := remaining_div_lt hd hwidth hpos hrun
      have hlater := ih mid
      rw [laps_of_ok count hrun, List.length_cons]
      omega
    · rw [laps_of_error count hrun, List.length_singleton]
      exact Nat.le_add_left 1 _

/-- **Counts beyond what is left** all come to the same, as none of the loops gets to its
    end. -/
theorem run_times_eq_of_lt (hd : d.Sequential) (hwidth : d.Takes fun _ => width)
    (hpos : 0 < width) {count more : Nat} (hcount : cursor.remaining / width < count)
    (hmore : cursor.remaining / width < more) :
    (times count d).run cursor = (times more d).run cursor := by
  induction count generalizing cursor more with
  | zero => exact absurd hcount (Nat.not_lt_zero _)
  | succ count ih =>
    -- both counts are above zero, so both go on with the same lap
    obtain ⟨more, rfl⟩ := Nat.exists_eq_add_one_of_ne_zero (Nat.ne_zero_of_lt hmore)
    obtain ⟨a, mid, hrun⟩ | ⟨fault, mid, hrun⟩ := d.run_ok_or_error cursor
    · have hroom := remaining_div_lt hd hwidth hpos hrun
      have hrest : (times count d).run mid = (times more d).run mid :=
        ih (by omega) (by omega)
      rw [run_times_of_ok count hrun, run_times_of_ok more hrun, run_bind, run_bind, hrest]
    · rw [run_times_of_error count hrun, run_times_of_error more hrun]

/-- **Loops over items that take bytes** are bounded by their bytes. -/
theorem contained_of_takes (hd : d.Sequential) (hwidth : d.Takes fun _ => width)
    (hpos : 0 < width) (count : Nat) (cursor : Cursor) : d.Contained width count cursor where
  count_le _ _ h := count_le_of_run_times hwidth h
  completes _ _ h := length_laps_of_run_times h
  fails_iff _ _ := run_times_eq_error_iff
  strides _ _ _ _ h := hwidth h
  advances := pairwise_laps hd hwidth count cursor
  length_laps_le := length_laps_le hd hwidth hpos count cursor
  capped h := run_times_eq_of_lt hd hwidth hpos h (Nat.lt_succ_self _)

end

/-! ### Costs -/

/-- What a second decoder costs where the first one ended well. -/
def after (d : Decoder α) (cost : α → Cursor → Nat) (cursor : Cursor) : Nat :=
  match d.run cursor with
  | (.ok a, next) => cost a next
  | (.error _, _) => 0

/-- A cost after a step that succeeds is counted where the step ends. -/
theorem after_of_ok {cost : α → Cursor → Nat} {a : α} (h : d.run cursor = (.ok a, next)) :
    d.after cost cursor = cost a next := by
  rw [after, h]

theorem after_of_error {cost : α → Cursor → Nat} {fault : DecodeFault}
    (h : d.run cursor = (.error fault, next)) : d.after cost cursor = 0 := by
  rw [after, h]

/-- What all iterations of a loop cost together. -/
def eachLap (d : Decoder α) (count : Nat) (cost : Cursor → Nat) (cursor : Cursor) : Nat :=
  ((d.laps count cursor).map cost).sum

/-- The cost of all laps is that of the first and of those behind it. -/
theorem eachLap_of_ok {cost : Cursor → Nat} {a : α} (count : Nat)
    (h : d.run cursor = (.ok a, next)) :
    d.eachLap (count + 1) cost cursor = cost cursor + d.eachLap count cost next := by
  rw [eachLap, laps_of_ok count h, List.map_cons, List.sum_cons, eachLap]

theorem eachLap_of_error {cost : Cursor → Nat} {fault : DecodeFault} (count : Nat)
    (h : d.run cursor = (.error fault, next)) :
    d.eachLap (count + 1) cost cursor = cost cursor := by
  rw [eachLap, laps_of_error count h, List.map_singleton, List.sum_singleton]

/-- What the decoder costs is paid for by the bytes that it reads. Where it ends well, the cost
    is known from the value; where it fails, one unit may be left to pay. -/
structure Pays (cost : Cursor → Nat) (measure : α → Nat) (d : Decoder α) : Prop where
  eq : ∀ ⦃cursor a next⦄, d.run cursor = (.ok a, next) → cost cursor = measure a
  ok : ∀ ⦃cursor a next⦄, d.run cursor = (.ok a, next) →
    cursor.position + cost cursor ≤ next.position
  error : ∀ ⦃cursor fault next⦄, d.run cursor = (.error fault, next) →
    cursor.position + cost cursor ≤ next.position + 1

namespace Pays

variable {cost : Cursor → Nat} {measure : α → Nat} {total : β → Nat}

/-- No bytes are needed where there is nothing to pay. -/
theorem free (hd : d.Sequential)
    (h : ∀ ⦃cursor a next⦄, d.run cursor = (.ok a, next) → measure a = 0) :
    d.Pays (fun _ => 0) measure where
  eq _ _ _ hrun := (h hrun).symm
  ok _ _ _ hrun := hd.position_le hrun
  error _ _ _ hrun := Nat.le_succ_of_le (hd.position_le hrun)

/-- A value that is there without a byte must be worth nothing. -/
theorem pure {a : α} (h : measure a = 0) :
    (Pure.pure a : Decoder α).Pays (fun _ => 0) measure := by
  refine free (.pure a) fun cursor b next hrun => ?_
  obtain ⟨rfl, -⟩ := run_pure_eq_ok.1 hrun
  exact h

/-- One unit may be left to pay where there is no value. -/
theorem fail {fault : DecodeFault} (h : ∀ cursor, cost cursor ≤ 1) :
    (Decoder.fail fault : Decoder α).Pays cost measure where
  eq _ _ _ hrun := (run_fail_eq_ok.1 hrun).elim
  ok _ _ _ hrun := (run_fail_eq_ok.1 hrun).elim
  error cursor _ _ hrun := by
    obtain ⟨-, rfl⟩ := run_fail_eq_error.1 hrun
    exact Nat.add_le_add_left (h cursor) _

/-- The position is known at no cost. -/
theorem offset {f : Nat → Decoder β} (hf : ∀ offset, (f offset).Pays cost total) :
    (position >>= f).Pays cost total where
  eq _ _ _ hrun := (hf _).eq hrun
  ok _ _ _ hrun := (hf _).ok hrun
  error _ _ _ hrun := (hf _).error hrun

/-- **Sequencing** behind a decoder that costs nothing. -/
theorem after {cost : α → Cursor → Nat} (hd : d.Sequential)
    (hf : ∀ a, (f a).Pays (cost a) total) : (d >>= f).Pays (d.after cost) total where
  eq cursor b next hrun := by
    obtain ⟨a, mid, hfirst, hnext⟩ := run_bind_eq_ok.1 hrun
    rw [after_of_ok hfirst, (hf a).eq hnext]
  ok cursor b next hrun := by
    obtain ⟨a, mid, hfirst, hnext⟩ := run_bind_eq_ok.1 hrun
    have hforward := hd.position_le hfirst
    have hpaid := (hf a).ok hnext
    rw [after_of_ok hfirst]
    omega
  error cursor fault next hrun := by
    obtain hfirst | ⟨a, mid, hfirst, hnext⟩ := run_bind_eq_error.1 hrun
    -- nothing is begun where the first part fails, so nothing is to be paid
    · rw [after_of_error hfirst]
      exact Nat.le_succ_of_le (hd.position_le hfirst)
    · have hforward := hd.position_le hfirst
      have hpaid := (hf a).error hnext
      rw [after_of_ok hfirst]
      omega

/-- **Sequencing** behind a decoder whose first byte pays for one unit. -/
theorem succ_after {cost : α → Cursor → Nat} {inner : β → Nat} (hd : d.Sequential)
    (hwidth : d.Takes fun _ => 1) (hf : ∀ a, (f a).Pays (cost a) inner)
    (htotal : ∀ b, total b = inner b + 1) :
    (d >>= f).Pays (fun cursor => d.after cost cursor + 1) total where
  eq cursor b next hrun := by
    rw [(after hd hf).eq hrun, htotal]
  ok cursor b next hrun := by
    obtain ⟨a, mid, hfirst, hnext⟩ := run_bind_eq_ok.1 hrun
    have htaken : cursor.position + 1 ≤ mid.position := hwidth hfirst
    have hpaid := (hf a).ok hnext
    rw [after_of_ok hfirst]
    omega
  error cursor fault next hrun := by
    obtain hfirst | ⟨a, mid, hfirst, hnext⟩ := run_bind_eq_error.1 hrun
    · have hforward := hd.position_le hfirst
      rw [after_of_error hfirst]
      omega
    · have htaken : cursor.position + 1 ≤ mid.position := hwidth hfirst
      have hpaid := (hf a).error hnext
      rw [after_of_ok hfirst]
      omega

/-- **Sequencing** in front of a decoder that costs nothing. -/
theorem before (hd : d.Pays cost measure) (hf : ∀ a, (f a).Sequential)
    (htotal : ∀ ⦃a cursor b next⦄, (f a).run cursor = (.ok b, next) → total b = measure a) :
    (d >>= f).Pays cost total where
  eq cursor b next hrun := by
    obtain ⟨a, mid, hfirst, hnext⟩ := run_bind_eq_ok.1 hrun
    rw [hd.eq hfirst, htotal hnext]
  ok cursor b next hrun := by
    obtain ⟨a, mid, hfirst, hnext⟩ := run_bind_eq_ok.1 hrun
    have hpaid := hd.ok hfirst
    have hforward := (hf a).position_le hnext
    omega
  error cursor fault next hrun := by
    obtain hfirst | ⟨a, mid, hfirst, hnext⟩ := run_bind_eq_error.1 hrun
    · exact hd.error hfirst
    · have hpaid := hd.ok hfirst
      have hforward := (hf a).position_le hnext
      omega

/-- Repacking a value costs nothing. -/
theorem map (hd : d.Pays cost measure) {g : α → β} (h : ∀ a, total (g a) = measure a) :
    (do return g (← d) : Decoder β).Pays cost total := by
  refine hd.before (fun a => .pure (g a)) fun a cursor b next hrun => ?_
  obtain ⟨rfl, -⟩ := run_pure_eq_ok.1 hrun
  exact h a

/-- **Repetition.** Each iteration is paid for by its own bytes, and only the last one may
    fail. -/
theorem times (hd : d.Pays cost measure) (count : Nat) :
    (Decoder.times count d).Pays (d.eachLap count cost)
      (fun items => (items.map measure).sum) := by
  induction count with
  | zero => exact pure rfl
  | succ count ih =>
    refine ⟨fun cursor items next hrun => ?_, fun cursor items next hrun => ?_,
      fun cursor fault next hrun => ?_⟩
    · obtain ⟨a, mid, hfirst, hrest⟩ := run_bind_eq_ok.1 hrun
      obtain ⟨items, _, hitems, hend⟩ := run_bind_eq_ok.1 hrest
      obtain ⟨rfl, rfl⟩ := run_pure_eq_ok.1 hend
      rw [eachLap_of_ok count hfirst, hd.eq hfirst, ih.eq hitems, List.map_cons, List.sum_cons]
    · obtain ⟨a, mid, hfirst, hrest⟩ := run_bind_eq_ok.1 hrun
      obtain ⟨items, _, hitems, hend⟩ := run_bind_eq_ok.1 hrest
      obtain ⟨-, rfl⟩ := run_pure_eq_ok.1 hend
      have hpaid := hd.ok hfirst
      have hlater := ih.ok hitems
      rw [eachLap_of_ok count hfirst]
      omega
    -- no lap follows one that fails, so it is the only one that may have a unit left to pay
    · obtain hfirst | ⟨a, mid, hfirst, hrest⟩ := run_bind_eq_error.1 hrun
      · rw [eachLap_of_error count hfirst]
        exact hd.error hfirst
      · have hpaid := hd.ok hfirst
        have hlater := ih.error (run_map_eq_error.1 hrest)
        rw [eachLap_of_ok count hfirst]
        omega

/-- So what is left bounds what the decoder may cost. -/
theorem le_remaining (h : d.Pays cost measure) (hd : d.Sequential) (cursor : Cursor) :
    cost cursor ≤ cursor.remaining + 1 := by
  obtain ⟨a, next, hrun⟩ | ⟨fault, next, hrun⟩ := d.run_ok_or_error cursor
  · have hend := hd.end_eq hrun
    have hpaid := h.ok hrun
    omega
  · have hend := hd.end_eq hrun
    have hpaid := h.error hrun
    omega

end Pays

end Decoder

end Registrar.Wire
