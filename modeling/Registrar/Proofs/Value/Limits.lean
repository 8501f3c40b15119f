import Mathlib.Tactic.MkIffOfInductiveProp
import Registrar.Proofs.Value.Canonical

namespace Registrar.Value

open Wire

/-!
# Which values have a wire form

Writing and reading count the levels of nesting on their own, and each checks texts and
lengths by itself. The two agree on every value.

* `Value.depth`, `Value.extent` — how deep a value nests, and how long its content is;
* `Value.Inside` — the values that stand in a value, at any depth;
* `Value.WithinLimits` — what the wire demands of a value, said without the writer;
* `exists_encodeWithin_iff` — with any number of levels to spare, a value is written
  exactly if it nests no deeper and all that stands in it fits, by induction on the levels;
* `exists_encode_iff_withinLimits` — the values that are written, those that are read and
  those within the limits are the same.
-/

/-! ### Depth -/

mutual

/-- How many levels a value nests: one for a value with no values inside, and one more
    than the deepest value inside for the others. -/
def depth : Value → Nat
  | response _ data => depth data + 1
  | some value => depth value + 1
  | list items => depthItems items + 1
  | tuple ⟨keys, _, value⟩ =>
    ((List.finRange keys.length).map fun i => depth (value i)).foldr max 0 + 1
  | _ => 1
termination_by structural v => v

/-- The greatest depth among the items of a list. -/
def depthItems : List Value → Nat
  | [] => 0
  | item :: items => max (depth item) (depthItems items)
termination_by structural items => items

end

/-- The values directly inside a value. -/
def children : Value → List Value
  | response _ data => [data]
  | some value => [value]
  | list items => items
  | tuple entries => entries.toList.map Prod.snd
  | _ => []

theorem depth_pos (value : Value) : 0 < value.depth := by
  cases value <;> exact Nat.succ_pos _

/-- Items are no deeper than some levels exactly if none of them is. -/
theorem depthItems_le {items : List Value} {levels : Nat} :
    depthItems items ≤ levels ↔ ∀ item ∈ items, item.depth ≤ levels := by
  induction items with
  | nil => simp [depthItems]
  | cons item items ih => rw [depthItems, Nat.max_le, ih, List.forall_mem_cons]

/-- The greatest of some depths is bounded exactly if each of them is. -/
theorem foldr_max_le {depths : List Nat} {levels : Nat} :
    depths.foldr max 0 ≤ levels ↔ ∀ depth ∈ depths, depth ≤ levels := by
  induction depths with
  | nil => simp
  | cons depth depths ih => rw [List.foldr_cons, Nat.max_le, ih, List.forall_mem_cons]

/-- A value nests one level more than the values directly inside it. -/
theorem depth_le_succ {value : Value} {levels : Nat} :
    value.depth ≤ levels + 1 ↔ ∀ child ∈ value.children, child.depth ≤ levels := by
  cases value with
  | response committed data => simp [depth, children]
  | some inner => simp [depth, children]
  | list items => rw [depth, Nat.add_le_add_iff_right, depthItems_le, children]
  | tuple entries =>
    obtain ⟨keys, sorted, value⟩ := entries
    rw [depth, Nat.add_le_add_iff_right, foldr_max_le]
    simp [children, Tuple.toList]
  | _ => simp [depth, children]

/-! ### Limits -/

/-- The number of bytes, items or entries that is written in front of the content. -/
def extent : Value → Nat
  | buffer bytes => bytes.length
  | list items => items.length
  | tuple entries => entries.size
  | ascii text | utf8 text => (Text.bytes text).length
  | _ => 0

/-- The first value is the second or stands inside it, at any depth. -/
inductive Inside : Value → Value → Prop where
  | self (value : Value) : Inside value value
  | child {inner child value : Value} (hchild : child ∈ value.children)
      (hinner : Inside inner child) : Inside inner value

/-- What the wire demands of a value apart from the values inside it. -/
@[mk_iff]
structure Fits (value : Value) : Prop where
  isAscii : ∀ text, value = ascii text → Text.isAscii (Text.bytes text) = true
  extent_le : value.extent ≤ UInt32.size - 1

/-- What the wire demands of a value with all that stands in it. -/
structure WithinLimits (value : Value) : Prop where
  depth_le : value.depth ≤ maxDepth
  isAscii : ∀ text, Inside (ascii text) value → Text.isAscii (Text.bytes text) = true
  extent_le : ∀ inner, Inside inner value → inner.extent ≤ UInt32.size - 1

/-- What holds of all that stands in a value holds of the value and of all that stands in
    its children. -/
theorem forall_inside {P : Value → Prop} {value : Value} :
    (∀ inner, Inside inner value → P inner) ↔
      P value ∧ ∀ child ∈ value.children, ∀ inner, Inside inner child → P inner := by
  constructor
  · intro h
    refine ⟨h value (.self value), ?_⟩
    intro child hchild inner hinner
    exact h inner (.child hchild hinner)
  · rintro ⟨hself, hchildren⟩ inner hinner
    cases hinner with
    | self => exact hself
    | child hchild hinner => exact hchildren _ hchild inner hinner

/-- **Within the limits** are values that are not too deep, with nothing in them that has no wire
    form. -/
theorem withinLimits_iff {value : Value} :
    value.WithinLimits ↔
      value.depth ≤ maxDepth ∧ ∀ inner, Inside inner value → inner.Fits := by
  constructor
  · rintro ⟨hdepth, hascii, hextent⟩
    refine ⟨hdepth, fun inner hinner => ⟨?_, hextent inner hinner⟩⟩
    rintro text rfl
    exact hascii text hinner
  · rintro ⟨hdepth, hfits⟩
    refine ⟨hdepth, fun text hinner => ?_, fun inner hinner => (hfits inner hinner).extent_le⟩
    exact (hfits _ hinner).isAscii text rfl

/-! ### Values that are written -/

/-- A number of things is written if four bytes have room for it. -/
theorem exists_encodeLength_iff {length : Nat} :
    (∃ written, encodeLength length = .ok written) ↔ length ≤ UInt32.size - 1 := by
  have hcapacity : Bytes.capacity 4 = UInt32.size := rfl
  have hpos : 0 < UInt32.size := by decide
  simp only [encodeLength_eq_ok, exists_and_left, exists_eq, and_true, hcapacity]
  omega

theorem exists_encodeCounted_iff {bytes : Bytes} :
    (∃ written, encodeCounted bytes = .ok written) ↔ bytes.length ≤ UInt32.size - 1 := by
  rw [encodeCounted, exists_joined_iff, List.forall_mem_cons, exists_encodeLength_iff]
  simp

/-- A principal can always be written. -/
theorem exists_principal_body (p : Principal) : ∃ written, p.body = .ok written := by
  cases p <;> exact ⟨_, rfl⟩

section

variable {encodeValue : Value → Except EncodeFault Bytes}

/-- An entry is written exactly if its value is, since a key always is. -/
theorem exists_encodeEntry_iff {entry : Tuple.Entry Value} :
    (∃ written, encodeEntry encodeValue entry = .ok written) ↔
      ∃ written, encodeValue entry.2 = .ok written := by
  have hkey : ∃ written, encode entry.1 = .ok written := ⟨_, rfl⟩
  rw [encodeEntry, exists_joined_iff, List.forall_mem_cons, List.forall_mem_singleton]
  exact and_iff_right hkey

/-- **What follows the type tag** is written exactly if the value itself fits and the
    values directly inside it are written. -/
theorem exists_encodeContent_iff {value : Value} :
    (∃ written, encodeContent encodeValue value = .ok written) ↔
      value.Fits ∧ ∀ child ∈ value.children, ∃ written, encodeValue child = .ok written := by
  cases value with
  | principal p => simp [encodeContent, fits_iff, children, extent, exists_principal_body]
  | buffer bytes => simp [encodeContent, fits_iff, children, extent, exists_encodeCounted_iff]
  | list items =>
    rw [encodeContent, exists_joined_iff, List.forall_mem_cons, exists_encodeLength_iff,
      List.forall_mem_map]
    simp [fits_iff, children, extent]
  | tuple entries =>
    rw [encodeContent, exists_joined_iff, List.forall_mem_cons, exists_encodeLength_iff,
      List.forall_mem_map, children, List.forall_mem_map]
    simp only [exists_encodeEntry_iff, fits_iff, extent]
    simp
  | ascii text =>
    -- text that is not ASCII is refused before its length is looked at
    by_cases hascii : Text.isAscii (Text.bytes text) = true
    · simp [encodeContent, fits_iff, children, extent, exists_encodeCounted_iff, hascii]
    · simp [encodeContent, fits_iff, children, hascii]
  | utf8 text => simp [encodeContent, fits_iff, children, extent, exists_encodeCounted_iff]
  | _ => simp [encodeContent, fits_iff, children, extent]

end

/-- **Values with levels to spare** are written exactly if they nest no deeper and all
    that stands in them fits. -/
theorem exists_encodeWithin_iff {levels : Nat} {value : Value} :
    (∃ written, encodeWithin levels value = .ok written) ↔
      value.depth ≤ levels ∧ ∀ inner, Inside inner value → inner.Fits := by
  induction levels generalizing value with
  | zero =>
    have hdeep : ¬ value.depth ≤ 0 := Nat.not_le.2 value.depth_pos
    simp [encodeWithin, hdeep]
  | succ levels ih =>
    have htag : ∃ written, (.ok [code value.kind] : Except EncodeFault Bytes) = .ok written :=
      ⟨_, rfl⟩
    rw [encodeWithin, exists_joined_iff, List.forall_mem_cons, List.forall_mem_singleton,
      exists_encodeContent_iff, forall_inside, depth_le_succ]
    simp only [ih, htag, true_and]
    -- the children split into their depths and what stands in them
    constructor
    · rintro ⟨hfits, hchildren⟩
      exact ⟨fun child hchild => (hchildren child hchild).1, hfits,
        fun child hchild => (hchildren child hchild).2⟩
    · rintro ⟨hdepth, hfits, hinside⟩
      exact ⟨hfits, fun child hchild => ⟨hdepth child hchild, hinside child hchild⟩⟩

/-! ### Values that are read -/

/-- What is read was written, or could have been. -/
theorem exists_encode_iff_exists_ofBytes {value : Value} :
    (∃ written, encode value = .ok written) ↔ ∃ bytes, ofBytes bytes = .ok value := by
  constructor
  · rintro ⟨written, h⟩
    exact ⟨written, ofBytes_of_reads (reads h)⟩
  · rintro ⟨bytes, h⟩
    obtain ⟨written, hwritten, -⟩ := exists_encode_of_ofBytes h
    exact ⟨written, hwritten⟩

/-- **The values with a wire form** are those that some bytes are read as, and those
    that nest at most 32 levels, hold only ASCII where they say so and have no length
    beyond 32 bits; a fault is all that there is for the others. -/
theorem exists_encode_iff_withinLimits (value : Value) :
    ((∃ written, encode value = .ok written) ↔ ∃ bytes, ofBytes bytes = .ok value) ∧
    ((∃ written, encode value = .ok written) ↔ value.WithinLimits) ∧
    ((∃ fault, encode value = .error fault) ↔ ¬ value.WithinLimits) := by
  have hwritten : (∃ written, encode value = .ok written) ↔ value.WithinLimits := by
    rw [withinLimits_iff]
    exact exists_encodeWithin_iff
  refine ⟨exists_encode_iff_exists_ofBytes, hwritten, ?_⟩
  rw [← hwritten]
  cases encode value <;> simp

/-- With 31 wrappers around it a flag can be written, and with one more it cannot. -/
example : (encode (Nat.repeat some 31 (bool true))).isOk = true ∧
    (encode (Nat.repeat some 32 (bool true))).isOk = false := by decide

end Registrar.Value
