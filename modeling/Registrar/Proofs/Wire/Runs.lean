import Registrar.Proofs.Wire.Location

namespace Registrar.Wire

/-!
# Runs of reads

Whoever holds a cursor may ask for a byte, for any number of bytes, for a block or for an
integer, as often as wanted and in any order, also after reads that failed.

* `Read` — the reads, how many bytes each of them takes, and the bytes that its result writes;
* `Read.run_cases` — what one read does to a cursor;
* `Attempt`, `Read.runs` — reads made one after another, and what came of each;
* `Read.runs_of_within` — what a whole run does, by induction on the reads;
* `Read.runs_start_outcome` — the outcome of every run from the start of an input.
-/

/-! ### Reads -/

/-- A read of the next bytes. -/
inductive Read where
  | byte
  | bytes (n : Nat)
  | block (n : Nat)
  | word16
  | word32
  | word64
deriving DecidableEq

namespace Read

/-- How many bytes the read takes. -/
def width : Read → Nat
  | byte => 1
  | bytes n => n
  | block n => n
  | word16 => 2
  | word32 => 4
  | word64 => 8

/-- The type of what is read. -/
abbrev Result : Read → Type
  | byte => UInt8
  | bytes _ => Bytes
  | block n => Vector UInt8 n
  | word16 => UInt16
  | word32 => UInt32
  | word64 => UInt64

/-- The decoder that makes the read. -/
def decoder : (read : Read) → Decoder read.Result
  | byte => Decoder.byte
  | bytes n => Decoder.bytes n
  | block n => Decoder.block n
  | word16 => decode
  | word32 => decode
  | word64 => decode

/-- The bytes that a result writes, an integer's most significant byte first. -/
def written : (read : Read) → read.Result → Bytes
  | byte, (b : UInt8) => [b]
  | bytes _, (bs : Bytes) => bs
  | block _, b => Vector.toList b
  | word16, (n : UInt16) => Bytes.ofNat 2 n.toNat
  | word32, (n : UInt32) => Bytes.ofNat 4 n.toNat
  | word64, (n : UInt64) => Bytes.ofNat 8 n.toNat

/-- However long, a result writes as many bytes as the read takes. -/
theorem length_written_of_run {read : Read} {result : read.Result} {cursor next : Cursor}
    (h : read.decoder.run cursor = (.ok result, next)) :
    (read.written result).length = read.width := by
  cases read with
  | bytes n => exact (Decoder.run_bytes_eq_ok.1 h).1
  | block n =>
    show (Vector.toList (n := n) result).length = n
    exact Vector.length_toList
  | byte => rfl
  | word16 | word32 | word64 => exact Bytes.length_ofNat _ _

/-- A read that ends well goes over the bytes that its result writes. -/
theorem spans_of_run {read : Read} {result : read.Result} {cursor next : Cursor}
    (h : read.decoder.run cursor = (.ok result, next)) :
    cursor.Spans (read.written result) next := by
  cases read with
  | byte => exact Decoder.run_byte_eq_ok.1 h
  | bytes n => exact (Decoder.run_bytes_eq_ok.1 h).2
  | block n => exact Decoder.run_block_eq_ok.1 h
  | word16 | word32 | word64 =>
    obtain ⟨_, ⟨⟩, hspans⟩ := run_decode_eq_ok_iff.1 h
    exact hspans

/-- A read that fails wanted more bytes than were left, and leaves the cursor. -/
theorem missing_of_run {read : Read} {fault : DecodeFault} {cursor next : Cursor}
    (h : read.decoder.run cursor = (.error fault, next)) :
    cursor.remaining < read.width ∧
      .outOfBounds cursor.position read.width cursor.remaining = fault ∧ cursor = next := by
  cases read with
  | byte =>
    obtain ⟨hempty, hfault, hnext⟩ := Decoder.run_byte_eq_error.1 h
    rw [hempty]
    exact ⟨Nat.one_pos, hfault, hnext⟩
  | bytes n => exact Decoder.run_bytes_eq_error.1 h
  | block n => exact Decoder.run_bytes_eq_error.1 (Decoder.run_map_eq_error.1 h)
  | word16 | word32 | word64 =>
    -- the integer is made of the number that the bytes write
    exact Decoder.run_bytes_eq_error.1 (Decoder.run_map_eq_error.1 (Decoder.run_map_eq_error.1 h))

/-- **A read** takes as many bytes as it wants, those that its result writes, or it finds too
    few and leaves the cursor as it was. -/
theorem run_cases (read : Read) (cursor : Cursor) :
    (∃ result next, read.decoder.run cursor = (.ok result, next) ∧
      read.width ≤ cursor.remaining ∧ (read.written result).length = read.width ∧
      cursor.Spans (read.written result) next) ∨
    (read.decoder.run cursor =
      (.error (.outOfBounds cursor.position read.width cursor.remaining), cursor) ∧
      cursor.remaining < read.width) := by
  obtain ⟨result, next, hrun⟩ | ⟨fault, next, hrun⟩ := read.decoder.run_ok_or_error cursor
  · have hlength := length_written_of_run hrun
    have hspans := spans_of_run hrun
    have hremaining := hspans.remaining_eq
    exact .inl ⟨result, next, hrun, by omega, hlength, hspans⟩
  · obtain ⟨hmissing, rfl, rfl⟩ := missing_of_run hrun
    exact .inr ⟨hrun, hmissing⟩

end Read

/-! ### Attempts -/

/-- A read that was made, where the cursor stood before and after it, and what came of it. -/
structure Attempt where
  read : Read
  before : Cursor
  outcome : Except DecodeFault read.Result
  after : Cursor

namespace Attempt

/-- The bytes that were consumed, by what their values write. -/
def taken (attempt : Attempt) : Bytes :=
  match attempt.outcome with
  | .ok result => attempt.read.written result
  | .error _ => []

/-- What is to be expected of every attempt on an input. -/
structure Orderly (input : Bytes) (attempt : Attempt) : Prop where
  /-- It is the read's decoder that was run. -/
  run_eq : attempt.read.decoder.run attempt.before = (attempt.outcome, attempt.after)
  remaining_eq : attempt.before.remaining = input.length - attempt.before.position
  /-- The cursor does not go back. -/
  position_le : attempt.before.position ≤ attempt.after.position
  /-- The cursor does not leave the input. -/
  position_le_length : attempt.after.position ≤ input.length
  /-- It takes as many bytes as the read wants for the read to end well, and no more. -/
  exists_ok_iff : (∃ result, attempt.outcome = .ok result) ↔
    attempt.read.width ≤ attempt.before.remaining
  /-- The bytes at the cursor are read, and the cursor goes behind them. -/
  of_ok : ∀ result, attempt.outcome = .ok result →
    attempt.read.written result = (input.drop attempt.before.position).take attempt.read.width ∧
      attempt.after.position = attempt.before.position + attempt.read.width
  /-- A failure leaves the cursor and tells what was wanted. -/
  of_error : ∀ fault, attempt.outcome = .error fault → attempt.after = attempt.before ∧
    fault = .outOfBounds attempt.before.position attempt.read.width attempt.before.remaining

end Attempt

namespace Read

variable {input : Bytes} {cursor : Cursor}

/-- The attempt at a read from a cursor. -/
def attempt (read : Read) (cursor : Cursor) : Attempt :=
  ⟨read, cursor, (read.decoder.run cursor).1, (read.decoder.run cursor).2⟩

/-- **An attempt** on an input is orderly, goes over the bytes that it takes and does not leave
    the input. -/
theorem attempt_orderly (read : Read) (h : cursor.Within input) :
    (read.attempt cursor).Orderly input ∧
      cursor.Spans (read.attempt cursor).taken (read.attempt cursor).after := by
  unfold attempt
  obtain ⟨result, next, hrun, henough, hlength, hspans⟩ | ⟨hrun, hmissing⟩ :=
    read.run_cases cursor
  · simp only [hrun]
    have hposition : next.position = cursor.position + (read.written result).length := hspans.2
    -- what is left at the cursor is the input from its position on
    have hrest : input.drop cursor.position = read.written result ++ next.rest :=
      h.rest_eq ▸ hspans.1
    refine ⟨⟨hrun, h.remaining_eq, ?_, (h.of_spans hspans).position_le, ?_, ?_, ?_⟩, hspans⟩
    · show cursor.position ≤ next.position
      omega
    · exact iff_of_true ⟨result, rfl⟩ henough
    · rintro _ ⟨⟩
      refine ⟨?_, hlength ▸ hposition⟩
      rw [hrest, ← hlength, List.take_left]
    · rintro _ ⟨⟩
  · simp only [hrun]
    refine ⟨⟨hrun, h.remaining_eq, Nat.le_refl _, h.position_le, ?_, ?_, ?_⟩, .refl cursor⟩
    · exact iff_of_false (by rintro ⟨_, ⟨⟩⟩) (Nat.not_le_of_lt hmissing)
    · rintro _ ⟨⟩
    · rintro _ ⟨⟩
      exact ⟨rfl, rfl⟩

/-! ### Runs -/

/-- The attempts at reads that are made one after another from a cursor on, and where the
    cursor stands after them. -/
def runs (cursor : Cursor) : List Read → List Attempt × Cursor
  | [] => ([], cursor)
  | read :: reads =>
    let attempt := read.attempt cursor
    let (attempts, last) := runs attempt.after reads
    (attempt :: attempts, last)

/-- Each attempt begins where the one before it has left the cursor. -/
theorem after_eq_before (cursor : Cursor) (reads : List Read) :
    cursor :: (runs cursor reads).1.map Attempt.after =
      (runs cursor reads).1.map Attempt.before ++ [(runs cursor reads).2] := by
  induction reads generalizing cursor with
  | nil => rfl
  | cons read reads ih =>
    have hrest := ih (read.attempt cursor).after
    simp only [runs, List.map_cons, List.cons_append, List.cons.injEq]
    exact ⟨rfl, hrest⟩

/-- One attempt is made for each read, in their order. -/
theorem map_read_runs (cursor : Cursor) (reads : List Read) :
    (runs cursor reads).1.map Attempt.read = reads := by
  induction reads generalizing cursor with
  | nil => rfl
  | cons read reads ih => exact congrArg (read :: ·) (ih (read.attempt cursor).after)

/-- **A run** on an input is made of orderly attempts that go forward, and goes over all that
    they take. -/
theorem runs_of_within (reads : List Read) (h : cursor.Within input) :
    (∀ attempt ∈ (runs cursor reads).1,
      attempt.Orderly input ∧ cursor.position ≤ attempt.before.position) ∧
    ((runs cursor reads).1.Pairwise fun earlier later =>
      earlier.after.position ≤ later.before.position) ∧
    cursor.Spans ((runs cursor reads).1.flatMap Attempt.taken) (runs cursor reads).2 := by
  -- on the reads; an attempt leaves the cursor within the input, where the others go on
  induction reads generalizing cursor with
  | nil => exact ⟨by simp [runs], .nil, .refl cursor⟩
  | cons read reads ih =>
    obtain ⟨horderly, hspans⟩ := read.attempt_orderly h
    obtain ⟨hattempts, hforward, hrest⟩ := ih (h.of_spans hspans)
    simp only [runs, List.forall_mem_cons, List.pairwise_cons, List.flatMap_cons]
    refine ⟨⟨⟨horderly, Nat.le_refl _⟩, fun attempt hattempt => ?_⟩, ⟨?_, hforward⟩,
      hspans.trans hrest⟩
    · obtain ⟨hlater, hposition⟩ := hattempts attempt hattempt
      exact ⟨hlater, Nat.le_trans horderly.position_le hposition⟩
    · exact fun attempt hattempt => (hattempts attempt hattempt).2

/-- **Every run of reads** from the start of an input is made of one attempt for each read, and
    each of them begins where the last one ended. A read ends well exactly if as many bytes as
    it wants are left; the cursor then goes behind them, and never out of the input. Otherwise
    the read leaves the cursor as it was. The bytes that have been read, one after another, are
    those of the input up to the cursor. -/
theorem runs_start_outcome (input : Bytes) (reads : List Read) :
    ∃ attempts cursor, runs (.start input) reads = (attempts, cursor) ∧
      attempts.map Attempt.read = reads ∧
      Cursor.start input :: attempts.map Attempt.after =
        attempts.map Attempt.before ++ [cursor] ∧
      (∀ attempt ∈ attempts, attempt.Orderly input) ∧
      (attempts.Pairwise fun earlier later => earlier.after.position ≤ later.before.position) ∧
      cursor.position ≤ input.length ∧
      cursor.remaining = input.length - cursor.position ∧
      attempts.flatMap Attempt.taken = input.take cursor.position := by
  obtain ⟨hattempts, hforward, hspans⟩ := runs_of_within reads (.start input)
  have hmap := map_read_runs (.start input) reads
  have hchain := after_eq_before (.start input) reads
  generalize runs (.start input) reads = outcome at hattempts hforward hspans hmap hchain
  obtain ⟨attempts, cursor⟩ := outcome
  have hwithin : cursor.Within input := Cursor.Within.of_spans (.start input) hspans
  refine ⟨attempts, cursor, rfl, hmap, hchain, fun attempt h => (hattempts attempt h).1,
    hforward, hwithin.position_le, hwithin.remaining_eq, ?_⟩
  have hinput : input = attempts.flatMap Attempt.taken ++ cursor.rest := hspans.1
  have hposition : cursor.position = 0 + (attempts.flatMap Attempt.taken).length := hspans.2
  calc attempts.flatMap Attempt.taken
      = (attempts.flatMap Attempt.taken ++ cursor.rest).take
          (attempts.flatMap Attempt.taken).length := List.take_left.symm
    _ = input.take cursor.position := by rw [← hinput, hposition, Nat.zero_add]

/-- A read of more bytes than there can be, and reads that end well before and after one that
    fails. -/
def sampleReads : List Read := [.bytes 0xFFFFFFFFFFFFFFFF, .word16, .word32, .byte]

/-- Of four reads two ask for more than there is, and leave the cursor where it stood. -/
theorem runs_start_outcome_sampleReads :
    ∃ attempts cursor, runs (.start [0xAA, 0xBB, 0xCC]) sampleReads = (attempts, cursor) ∧
      cursor.position = 3 ∧ attempts.flatMap Attempt.taken = [0xAA, 0xBB, 0xCC] ∧
      ∃ attempt ∈ attempts, attempt.read = .word32 ∧ attempt.before.position = 2 ∧
        attempt.after = attempt.before := by
  obtain ⟨attempts, cursor, hruns, -, -, horderly, -, -, -, htaken⟩ :=
    runs_start_outcome [0xAA, 0xBB, 0xCC] sampleReads
  have hattempts : (runs (.start [0xAA, 0xBB, 0xCC]) sampleReads).1 = attempts := by rw [hruns]
  have hcursor : (runs (.start [0xAA, 0xBB, 0xCC]) sampleReads).2 = cursor := by rw [hruns]
  -- four bytes are wanted where one is left
  have hmem : word32.attempt ⟨2, [0xCC]⟩ ∈ attempts :=
    hattempts ▸ .tail _ (.tail _ (.head _))
  have hposition : cursor.position = 3 := hcursor ▸ rfl
  rw [hposition] at htaken
  exact ⟨attempts, cursor, hruns, hposition, htaken, _, hmem, rfl, rfl,
    ((horderly _ hmem).of_error _ rfl).1⟩

end Read

end Registrar.Wire
