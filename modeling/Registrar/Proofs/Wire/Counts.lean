import Registrar.Proofs.Value.Size
import Registrar.Proofs.Wire.Faults

namespace Registrar

open Wire
open Wire.Decoder (Takes Loops contained_of_takes times)

/-!
# Announced counts

The number of items of a list, a list value or a tuple is announced in four bytes, and may be
anything that fits them. No loop goes by what was announced alone.

* `Wire.IsReader.takes_one` — no wire type is empty;
* `Wire.IsReader.loops`, `Value.loops_list`, `Value.loops_tuple` — the loops over items of a
  wire type, over values and over entries are bounded by their bytes;
* `Value.loops_and_nodes_le` — and so are the values that a reading begins and those that it
  ends with.
-/

/-! ### Lists of wire types -/

namespace Wire.IsReader

variable {α : Type}

/-- **No wire type is empty.** Whatever is read of it takes a byte. -/
theorem takes_one {d : Decoder α} (h : IsReader d) : d.Takes fun _ => 1 := by
  have hseq := h.sequential
  cases h with
  | block hpos => exact (Takes.bytes _).map fun _ => hpos
  | name hwidth =>
    refine Name.decode_takes.mono fun name => ?_
    omega
  -- all others begin with a tag or a number, which the empty input has not
  | _ => exact hseq.takes_one fun position => ⟨_, _, rfl⟩

/-- **Lists of a wire type** are read item by item, each of one byte at least. -/
theorem loops [Format α] (h : IsReader (decode : Decoder α)) :
    (decode : Decoder (List α)).Loops (decode : Decoder α) 1 where
  reads := by
    refine ⟨pure, ?_⟩
    simp only [bind_pure]
    rfl
  contained := contained_of_takes h.sequential h.takes_one Nat.one_pos

end Wire.IsReader

/-! ### List values and tuples -/

namespace Value

/-- A value has one byte at least, its tag. -/
theorem decodeWithin_takes_one (levels : Nat) : (decodeWithin levels).Takes fun _ => 1 := by
  intro cursor value next hrun
  obtain ⟨-, htaken⟩ := nodes_of_run_decodeWithin hrun
  have hnodes := value.nodes_eq
  show cursor.position + 1 ≤ next.position
  omega

/-- The list in a value is read item by item, each of one byte at least. -/
theorem loops_list (levels offset : Nat) :
    (decodeContent (decodeWithin levels) offset .list).Loops (decodeWithin levels) 1 where
  reads := ⟨fun items => pure (list items), rfl⟩
  contained :=
    contained_of_takes (decodeWithin_sequential levels) (decodeWithin_takes_one levels) Nat.one_pos

/-- A tuple is read entry by entry, each of three bytes at least: a key has two. -/
theorem loops_tuple (levels offset : Nat) :
    (decodeContent (decodeWithin levels) offset .tuple).Loops
      (decodeEntry (decodeWithin levels)) 3 where
  reads := ⟨_, rfl⟩
  contained := by
    have hentry : (decodeEntry (decodeWithin levels)).Sequential :=
      .field fun key => (decodeWithin_sequential levels).map (key, ·)
    exact contained_of_takes hentry (decodeEntry_takes (decodeWithin_takes_one levels))
      (by decide)

/-- **Announced counts cannot run away.** Lists of any wire type, list values and tuples read a
    count and run a loop that is bounded by its bytes: it ends well only if each item has had
    its bytes, goes forward with each iteration and has no more iterations than items that fit
    what is left, and one that fails. So a reading begins no more values than there are bytes
    left, and one that fails; and a value that is read has as many values standing in it as its
    reading began, and no more than bytes were read for it. -/
theorem loops_and_nodes_le :
    (∀ (α : Type) [Format α], IsReader (decode : Decoder α) →
      (decode : Decoder (List α)).Loops (decode : Decoder α) 1) ∧
    (∀ levels offset : Nat,
      (decodeContent (decodeWithin levels) offset .list).Loops (decodeWithin levels) 1) ∧
    (∀ levels offset : Nat,
      (decodeContent (decodeWithin levels) offset .tuple).Loops
        (decodeEntry (decodeWithin levels)) 3) ∧
    (∀ (levels : Nat) (cursor : Cursor), begun levels cursor ≤ cursor.remaining + 1) ∧
    (∀ (levels : Nat) (cursor next : Cursor) (value : Value),
      (decodeWithin levels).run cursor = (.ok value, next) →
        begun levels cursor = value.nodes ∧ cursor.position + value.nodes ≤ next.position) := by
  refine ⟨?_, loops_list, loops_tuple, begun_le_remaining, ?_⟩
  · intro α _ h
    exact h.loops
  · intro levels cursor next value hrun
    exact nodes_of_run_decodeWithin hrun

/-- Three bytes behind a count: two values and a value whose content is missing. -/
def shortItems : Cursor := ⟨5, [3, 4, 10]⟩

/-- However many items are announced for three bytes, they are read up to the end and no more
    than four iterations are begun. -/
theorem loops_and_nodes_le_shortItems :
    IsReader (decode : Decoder Value) ∧
    (times 4294967295 (decode : Decoder Value)).run shortItems =
      (.error (.outOfBounds 8 1 0), ⟨8, []⟩) ∧
    ((decode : Decoder Value).laps 4294967295 shortItems).length ≤ 4 ∧
    begun maxDepth shortItems ≤ 4 := by
  have hvalue : IsReader (decode : Decoder Value) := .value
  obtain ⟨hlists, -, -, hbegun, -⟩ := loops_and_nodes_le
  have hloop := (hlists Value hvalue).contained 4294967295 shortItems
  -- three bytes are left for three laps, and the fourth one fails
  have hremaining : shortItems.remaining / 1 + 1 = 4 := by rfl
  refine ⟨hvalue, ?_, hloop.length_laps_le, hbegun maxDepth shortItems⟩
  rw [hloop.capped (by decide), hremaining]
  rfl

end Value

end Registrar
