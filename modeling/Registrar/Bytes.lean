namespace Registrar

/-!
# Byte strings

The wire format, the digests and the checked texts all work on byte strings.

* `Bytes` — a list of bytes, first byte first;
* `Bytes.ofNat` / `Bytes.toNat` — numbers as bytes, most significant first;
* `Bytes.capacity` — how many numbers a count of bytes can hold;
* `Bytes.fit` — a byte string cut or padded with zeros to a fixed length;
* `toNat_ofNat`, `ofNat_toNat` — the two number conversions are inverse on
  numbers that fit the width.
-/

/-- A string of bytes, first byte first. -/
abbrev Bytes := List UInt8

namespace Bytes

/-! ### Numbers, most significant byte first -/

/-- How many numbers `width` bytes can hold. -/
def capacity (width : Nat) : Nat := Nat.pow 256 width

/-- The `width` low bytes of `n`, most significant first. -/
def ofNat : (width n : Nat) → Bytes
  | 0, _ => []
  | width + 1, n => ofNat width (n / 256) ++ [UInt8.ofNat n]

/-- The number that the bytes write, most significant byte first. -/
def toNat (bytes : Bytes) : Nat :=
  bytes.foldl (fun n byte => n * 256 + byte.toNat) 0

theorem capacity_succ (width : Nat) : capacity (width + 1) = capacity width * 256 := rfl

@[simp] theorem length_ofNat (width n : Nat) : (ofNat width n).length = width := by
  induction width generalizing n with
  | zero => rfl
  | succ width ih => simp [ofNat, ih]

@[simp] theorem toNat_nil : toNat [] = 0 := rfl

@[simp] theorem toNat_concat (bytes : Bytes) (byte : UInt8) :
    toNat (bytes ++ [byte]) = toNat bytes * 256 + byte.toNat := by
  simp [toNat]

/-- Reading back a number that fits its width gives the number. -/
theorem toNat_ofNat {width n : Nat} (h : n < capacity width) : toNat (ofNat width n) = n := by
  induction width generalizing n with
  | zero =>
    have hzero : n = 0 := Nat.lt_one_iff.1 h
    simp [ofNat, hzero]
  | succ width ih =>
    have hdiv : n / 256 < capacity width := by
      rw [capacity_succ] at h
      omega
    rw [ofNat, toNat_concat, ih hdiv]
    simp only [UInt8.toNat_ofNat']
    omega

/-- Bytes of a given width are the bytes of the number they write. -/
theorem ofNat_toNat {width : Nat} {bytes : Bytes} (h : bytes.length = width) :
    ofNat width (toNat bytes) = bytes := by
  induction width generalizing bytes with
  | zero => simp_all [ofNat]
  | succ width ih =>
    obtain ⟨front, last, rfl⟩ : ∃ front last, bytes = front ++ [last] :=
      ⟨bytes.dropLast, bytes.getLast (by intro e; simp [e] at h),
        (List.dropLast_concat_getLast _).symm⟩
    have hlast := last.toNat_lt
    have hdiv : (toNat front * 256 + last.toNat) / 256 = toNat front := by omega
    have hmod : UInt8.ofNat (toNat front * 256 + last.toNat) = last := by
      apply UInt8.toNat_inj.1
      simp only [UInt8.toNat_ofNat']
      omega
    rw [toNat_concat, ofNat, hdiv, hmod, ih (by simpa using h)]

/-! ### Fixed lengths -/

/-- The first `n` bytes, padded with zeros where there are fewer. -/
def fit (n : Nat) (bytes : Bytes) : Vector UInt8 n :=
  Vector.ofFn fun i => bytes.getD i 0

/-- The bytes as a block of their length, if that is `n`. -/
def block? (n : Nat) (bytes : Bytes) : Option (Vector UInt8 n) :=
  if h : bytes.length = n then some ⟨bytes.toArray, by simpa using h⟩ else none

end Bytes

end Registrar
