import Mathlib.Data.Bool.AllAny
import Registrar.Proofs.Base32.Regroup

namespace Registrar.Base32

/-!
# Base 32 text and bytes are one another's inverse

Bytes and digits alike are a number with zeros in front, most significant first.

* `zeros`, `number`, `numeral` — a list of digits as its zeros in front and its number, and
  back again;
* `encode_eq_numeral`, `decode_eq_numeral` — text and bytes write the same number, the
  characters `0` in front standing for the zeros;
* `decode_encode`, `exists_encode_eq` — so bytes are read back from their text, and any text
  of digits is the text of some bytes;
* `decode_encode_inverse` — both together.
-/

open Nat (ofDigits digits)

/-! ### Numbers with zeros in front -/

/-- How many zeros stand in front. -/
def zeros (values : List Nat) : Nat := (values.takeWhile (· == 0)).length

/-- The number that the digits write, most significant digit first. -/
def number (base : Nat) (values : List Nat) : Nat := ofDigits base values.reverse

/-- The digits of a number behind some zeros, most significant digit first. -/
def numeral (base zeros number : Nat) : List Nat :=
  List.replicate zeros 0 ++ (digits base number).reverse

section

variable {base : Nat} (hbase : 1 < base)

include hbase

/-- A number does not start with a zero digit. -/
theorem takeWhile_reverse_digits (n : Nat) :
    (digits base n).reverse.takeWhile (· == 0) = [] := by
  have hleading : (digits base n).reverse.dropWhile (· == 0) = (digits base n).reverse := by
    have hlt : ∀ digit ∈ digits base n, digit < base := fun _ => Nat.digits_lt_base hbase
    have h := leading_eq_digits hbase hlt
    rwa [Nat.ofDigits_digits] at h
  have hsplit := List.takeWhile_append_dropWhile (p := (· == 0)) (l := (digits base n).reverse)
  rw [hleading] at hsplit
  exact List.append_left_eq_self.1 hsplit

/-- Zeros in front of a numeral are counted right, as a number itself begins with none. -/
theorem zeros_numeral (count n : Nat) : zeros (numeral base count n) = count := by
  have hzero : ∀ value ∈ List.replicate count 0, (value == 0) = true := by simp
  rw [zeros, numeral, List.takeWhile_append_of_pos hzero, takeWhile_reverse_digits hbase,
    List.append_nil, List.length_replicate]

omit hbase in
/-- Zeros in front of a numeral do not change its number. -/
theorem number_numeral (count n : Nat) : number base (numeral base count n) = n := by
  rw [number, numeral, List.reverse_append, List.reverse_reverse, List.reverse_replicate,
    Nat.ofDigits_append_replicate_zero, Nat.ofDigits_digits]

/-- Digits are known by their zeros in front and their number. -/
theorem numeral_zeros_number {values : List Nat} (h : ∀ value ∈ values, value < base) :
    numeral base (zeros values) (number base values) = values := by
  have hleading : (digits base (number base values)).reverse = values.dropWhile (· == 0) := by
    rw [number, ← leading_eq_digits hbase (by simpa using h), leading, List.reverse_reverse]
  have hzeros : List.replicate (zeros values) 0 = values.takeWhile (· == 0) := by
    symm
    rw [List.eq_replicate_iff]
    refine ⟨rfl, fun value hvalue => ?_⟩
    simpa using List.mem_takeWhile_imp hvalue
  rw [numeral, hleading, hzeros, List.takeWhile_append_dropWhile]

/-- No digit of a number is too great, nor are the zeros. -/
theorem lt_of_mem_numeral {count n value : Nat} (h : value ∈ numeral base count n) :
    value < base := by
  rcases List.mem_append.1 h with h | h
  · rw [List.eq_of_mem_replicate h]
    exact Nat.zero_lt_of_lt hbase
  · exact Nat.digits_lt_base hbase (List.mem_reverse.1 h)

end

/-! ### Digits -/

/-- A digit is read as its value. -/
theorem value?_digit : ∀ value < 32, value? (digit value) = some value := by decide

theorem digit_toNat_lt : ∀ value < 32, (digit value).toNat < 0x80 := by decide

/-- Only the value zero is written as a zero. -/
theorem digit_eq_zero_iff : ∀ value < 32, digit value = '0' ↔ value = 0 := by decide

/-- What is written for a value is in the alphabet. -/
theorem digit_mem_alphabet : ∀ value < 32, digit value ∈ alphabet := by decide

/-- All of the alphabet is written for some value. -/
theorem exists_digit_eq {c : Char} (h : c ∈ alphabet) : ∃ value < 32, digit value = c := by
  have hlength : alphabet.length = 32 := by decide
  obtain ⟨value, hvalue, rfl⟩ := List.getElem_of_mem h
  refine ⟨value, hlength ▸ hvalue, ?_⟩
  rw [digit, List.getD_eq_getElem?_getD, List.getElem?_eq_getElem hvalue, Option.getD_some]

theorem toNat_lt_of_mem_alphabet {c : Char} (h : c ∈ alphabet) : c.toNat < 0x80 := by
  obtain ⟨value, hvalue, rfl⟩ := exists_digit_eq h
  exact digit_toNat_lt value hvalue

/-- A text of digits is the digits of some values. -/
theorem exists_map_digit_eq {text : List Char} (h : ∀ c ∈ text, c ∈ alphabet) :
    ∃ values : List Nat, (∀ value ∈ values, value < 32) ∧ values.map digit = text := by
  induction text with
  | nil => exact ⟨[], by simp, rfl⟩
  | cons c text ih =>
    obtain ⟨hc, htext⟩ := List.forall_mem_cons.1 h
    obtain ⟨value, hvalue, rfl⟩ := exists_digit_eq hc
    obtain ⟨values, hvalues, rfl⟩ := ih htext
    exact ⟨value :: values, List.forall_mem_cons.2 ⟨hvalue, hvalues⟩, rfl⟩

/-! ### Bytes to text -/

/-- Bytes are digits of the base 256. -/
theorem byte_lt_of_mem {bytes : Bytes} : ∀ value ∈ bytes.map UInt8.toNat, value < 256 := by
  intro value hvalue
  obtain ⟨byte, -, rfl⟩ := List.mem_map.1 hvalue
  exact byte.toNat_lt

/-- **The text of bytes** is the number that they write, with as many zeros in front. -/
theorem encode_eq_numeral (bytes : Bytes) :
    encode bytes = (numeral 32 (zeros (bytes.map UInt8.toNat))
      (number 256 (bytes.map UInt8.toNat))).map digit := by
  have hgroups : ∀ group ∈ bytes.reverse.map UInt8.toNat, group < 2 ^ 8 := byte_lt_of_mem
  have hfront : (bytes.takeWhile (· == 0)).length = zeros (bytes.map UInt8.toNat) := by
    rw [zeros, List.takeWhile_map, List.length_map]
    have hzero : ((fun value => value == 0) ∘ UInt8.toNat : UInt8 → Bool) = (· == 0) := by
      funext byte
      simp only [Function.comp_apply, beq_eq_beq]
      exact UInt8.toNat_inj (b := 0)
    rw [hzero]
  have hnumber : ofDigits (2 ^ 8) (bytes.reverse.map UInt8.toNat) =
      number 256 (bytes.map UInt8.toNat) := by
    rw [number, List.map_reverse]
    rfl
  rw [encode, leading_regroup (by decide) hgroups, hnumber, numeral, List.map_append,
    List.map_replicate, ← hfront, List.map_const']
  rfl

/-! ### Text to bytes -/

/-- What stands for a digit is an ASCII character. -/
theorem toNat_lt_of_value?_eq_some {c : Char} {value : Nat} (h : value? c = some value) :
    c.toNat < 0x80 := by
  rw [value?] at h
  split_ifs at h with hzero hone
  · rcases hzero with rfl | rfl <;> decide
  · rcases hone with rfl | rfl | rfl | rfl <;> decide
  -- all other characters are looked up in upper case
  · have hupper : c.toUpper ∈ alphabet := by
      rw [← List.isSome_idxOf?, h]
      rfl
    have hascii := toNat_lt_of_mem_alphabet hupper
    -- letters are all that changes its case, and they are ASCII in both
    by_cases hlower : 'a'.val ≤ c.val ∧ c.val ≤ 'z'.val
    · exact lt_of_le_of_lt (UInt32.le_iff_toNat_le.1 hlower.2) (by decide)
    · have hsame : c.toUpper = c := dif_neg hlower
      rwa [hsame] at hascii

theorem lt_of_value?_eq_some {c : Char} {value : Nat} (h : value? c = some value) :
    value < 32 := by
  rw [value?] at h
  split_ifs at h
  · cases h
    decide
  · cases h
    decide
  · rw [List.idxOf?, List.findIdx?_eq_some_iff_getElem] at h
    exact h.1

section

variable {text : List Char} {values : List Nat} (h : text.map value? = values.map some)

include h

/-- The characters are read from the last to the first. -/
theorem valuesFromEnd_of_map_value? : valuesFromEnd text = .ok values.reverse := by
  have hread : text.reverse.map value? = values.reverse.map some := by
    rw [List.map_reverse, List.map_reverse, h]
  rw [valuesFromEnd]
  -- the characters are read from the last one on
  generalize text.reverse = chars, values.reverse = read at hread ⊢
  induction chars generalizing read with
  | nil =>
    obtain rfl : read = [] := by simpa using hread.symm
    rfl
  | cons c chars ih =>
    cases read with
    | nil => cases hread
    | cons value read =>
      obtain ⟨hc, hchars⟩ := List.cons.inj hread
      rw [List.mapM_cons, ih read hchars, hc]
      rfl

/-- **The bytes of a text** are the number that its digits write, with a zero in front for
    each character `0` in front. -/
theorem decode_eq_numeral : decode text =
    .ok ((numeral 256 (text.takeWhile (· == '0')).length (number 32 values)).map
      UInt8.ofNat) := by
  have hread : ∀ c ∈ text, ∃ value, value? c = some value := by
    intro c hc
    have hvalue : value? c ∈ values.map some := h ▸ List.mem_map_of_mem hc
    obtain ⟨value, -, hvalue⟩ := List.mem_map.1 hvalue
    exact ⟨value, hvalue.symm⟩
  have hascii : (text.any fun c => 0x80 ≤ c.toNat) = false := by
    simp only [List.any_eq_false, decide_eq_true_eq, not_le]
    intro c hc
    obtain ⟨value, hvalue⟩ := hread c hc
    exact toNat_lt_of_value?_eq_some hvalue
  have hgroups : ∀ group ∈ values.reverse, group < 2 ^ 5 := by
    intro value hvalue
    have hvalue : some value ∈ text.map value? :=
      h ▸ List.mem_map_of_mem (List.mem_reverse.1 hvalue)
    obtain ⟨c, -, hc⟩ := List.mem_map.1 hvalue
    exact lt_of_value?_eq_some hc
  have hnumber : ofDigits (2 ^ 5) values.reverse = number 32 values := rfl
  rw [decode, hascii, valuesFromEnd_of_map_value? h]
  show Except.ok _ = _
  rw [leading_regroup (by decide) hgroups, hnumber, List.map_const', numeral, List.map_append,
    List.map_replicate]
  rfl

end

section

variable {values : List Nat} (h : ∀ value ∈ values, value < 32)

include h

/-- Zero digits are the only ones written `0`. -/
theorem length_takeWhile_map_digit :
    ((values.map digit).takeWhile (· == '0')).length = zeros values := by
  induction values with
  | nil => rfl
  | cons value values ih =>
    obtain ⟨hvalue, hvalues⟩ := List.forall_mem_cons.1 h
    have hzero : (digit value == '0') = (value == 0) := by
      simp only [beq_eq_beq, digit_eq_zero_iff value hvalue]
    rw [zeros, List.map_cons, List.takeWhile_cons, List.takeWhile_cons, hzero]
    -- zeros are counted up to the first other digit
    cases value == 0
    · rfl
    · exact congrArg (· + 1) (ih hvalues)

/-- The bytes of digits are their number, with as many zeros in front. -/
theorem decode_map_digit : decode (values.map digit) =
    .ok ((numeral 256 (zeros values) (number 32 values)).map UInt8.ofNat) := by
  have hread : (values.map digit).map value? = values.map some := by
    rw [List.map_map]
    exact List.map_congr_left fun value hvalue => value?_digit value (h value hvalue)
  rw [decode_eq_numeral hread, length_takeWhile_map_digit h]

end

/-! ### There and back -/

/-- Bytes are read back from their text. -/
theorem decode_encode (bytes : Bytes) : decode (encode bytes) = .ok bytes := by
  have hdigits : ∀ value ∈ numeral 32 (zeros (bytes.map UInt8.toNat))
      (number 256 (bytes.map UInt8.toNat)), value < 32 :=
    fun _ => lt_of_mem_numeral (by decide)
  have hback : (bytes.map UInt8.toNat).map UInt8.ofNat = bytes := by
    simp [Function.comp_def]
  rw [encode_eq_numeral, decode_map_digit hdigits, zeros_numeral (by decide), number_numeral,
    numeral_zeros_number (by decide) byte_lt_of_mem, hback]

/-- So no two byte strings have one text. -/
theorem encode_injective : Function.Injective encode := by
  intro a b h
  have hdecode := decode_encode a
  rw [h, decode_encode] at hdecode
  exact (Except.ok.inj hdecode).symm

/-- Any text of digits is the text of some bytes. -/
theorem exists_encode_eq {text : List Char} (h : ∀ c ∈ text, c ∈ alphabet) :
    ∃ bytes, encode bytes = text := by
  obtain ⟨values, hvalues, rfl⟩ := exists_map_digit_eq h
  -- the same zeros and the same number, written in bytes
  generalize hbytes : numeral 256 (zeros values) (number 32 values) = bytes
  have hlt : ∀ value ∈ bytes, value < 256 := by
    rw [← hbytes]
    exact fun _ => lt_of_mem_numeral (by decide)
  have hback : (bytes.map UInt8.ofNat).map UInt8.toNat = bytes := by
    rw [List.map_map]
    refine (List.map_congr_left fun value hvalue => ?_).trans (List.map_id bytes)
    exact UInt8.toNat_ofNat_of_lt (hlt value hvalue)
  refine ⟨bytes.map UInt8.ofNat, ?_⟩
  rw [encode_eq_numeral, hback, ← hbytes, zeros_numeral (by decide), number_numeral,
    numeral_zeros_number (by decide) hvalues]

/-- Only digits of the alphabet are written. -/
theorem mem_alphabet_of_mem_encode {bytes : Bytes} {c : Char} (h : c ∈ encode bytes) :
    c ∈ alphabet := by
  rw [encode_eq_numeral] at h
  obtain ⟨value, hvalue, rfl⟩ := List.mem_map.1 h
  exact digit_mem_alphabet value (lt_of_mem_numeral (by decide) hvalue)

/-- **Bytes and texts of digits** are one another's inverse: bytes are written in digits and
    read back, and any text of digits is read as bytes that are written as this text. -/
theorem decode_encode_inverse :
    (∀ bytes, decode (encode bytes) = .ok bytes ∧ ∀ c ∈ encode bytes, c ∈ alphabet) ∧
    ∀ text : List Char, (∀ c ∈ text, c ∈ alphabet) →
      ∃ bytes, decode text = .ok bytes ∧ encode bytes = text := by
  refine ⟨fun bytes => ⟨decode_encode bytes, fun c => mem_alphabet_of_mem_encode⟩, ?_⟩
  intro text htext
  obtain ⟨bytes, rfl⟩ := exists_encode_eq htext
  exact ⟨bytes, decode_encode bytes, rfl⟩

/-- Zeros in front of a digit group that is not full. -/
theorem decode_encode_inverse_zeros :
    (∀ c ∈ "000ZZZ".toList, c ∈ alphabet) ∧
    ∃ bytes, decode "000ZZZ".toList = .ok bytes ∧ encode bytes = "000ZZZ".toList :=
  have hdigits : ∀ c ∈ "000ZZZ".toList, c ∈ alphabet :=
    List.all_iff_forall_prop.1 (by decide)
  ⟨hdigits, decode_encode_inverse.2 _ hdigits⟩

/-- In a smaller base a number has no fewer digits. -/
theorem length_digits_le_length_digits {small great : Nat} (hsmall : 1 < small)
    (hle : small ≤ great) (n : Nat) : (digits great n).length ≤ (digits small n).length := by
  rw [Nat.digits_length_le_iff (by omega)]
  calc n < small ^ (digits small n).length := Nat.lt_base_pow_length_digits hsmall
    _ ≤ great ^ (digits small n).length := Nat.pow_le_pow_left hle _

/-- A text has no fewer digits than there are bytes. -/
theorem length_le_length_encode (bytes : Bytes) : bytes.length ≤ (encode bytes).length := by
  have hbytes : ∀ value ∈ bytes.map UInt8.toNat, value < 256 := byte_lt_of_mem
  have hlength := congrArg List.length (numeral_zeros_number (by decide) hbytes)
  -- a number has no more digits in the greater base
  have hfewer := length_digits_le_length_digits (by decide : 1 < 32) (by decide : 32 ≤ 256)
    (number 256 (bytes.map UInt8.toNat))
  simp only [numeral, List.length_append, List.length_replicate, List.length_reverse,
    List.length_map] at hlength
  simp only [encode_eq_numeral, numeral, List.length_append, List.length_replicate,
    List.length_reverse, List.length_map]
  omega

end Registrar.Base32
