import Registrar.Bytes

namespace Registrar.Bytes

/-!
# Numbers and blocks as bytes

* `toNat_lt_capacity` — the bytes of a width write a number that the width can hold;
* `fit_toList`, `toList_fit`, `block?_eq_some_iff` — blocks of a length and byte strings of
  that length.
-/

/-- The number that bytes write has room in as many bytes. -/
theorem toNat_lt_capacity {width : Nat} {bytes : Bytes} (h : bytes.length = width) :
    toNat bytes < capacity width := by
  induction width generalizing bytes with
  | zero =>
    obtain rfl := List.length_eq_zero_iff.1 h
    decide
  | succ width ih =>
    -- the last byte is the lowest digit
    obtain ⟨front, last, rfl⟩ : ∃ front last, bytes = front ++ [last] :=
      ⟨bytes.dropLast, bytes.getLast (by intro e; simp [e] at h),
        (List.dropLast_concat_getLast _).symm⟩
    have hfront : toNat front < capacity width := ih (by simpa using h)
    have hlast := last.toNat_lt
    rw [toNat_concat, capacity_succ]
    omega

/-- A block fitted to its own size stays as it is. -/
@[simp] theorem fit_toList {n : Nat} (block : Vector UInt8 n) : fit n block.toList = block := by
  apply Vector.ext
  intro i hi
  simp [fit]

/-- Bytes of the right number are neither cut off nor filled up. -/
theorem toList_fit {n : Nat} {bytes : Bytes} (h : bytes.length = n) :
    (fit n bytes).toList = bytes := by
  subst h
  apply List.ext_getElem
  · simp
  · intro i _ _
    simp [fit]

/-- Exactly the bytes of a block are taken for one. -/
theorem block?_eq_some_iff {n : Nat} {bytes : Bytes} {block : Vector UInt8 n} :
    block? n bytes = some block ↔ bytes = block.toList := by
  constructor
  · intro h
    unfold block? at h
    split at h
    · cases h
      rfl
    · cases h
  · rintro rfl
    simp [block?, Vector.toList]

end Registrar.Bytes
