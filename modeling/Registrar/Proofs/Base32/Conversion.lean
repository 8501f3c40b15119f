import Registrar.Proofs.Address.Aliases
import Registrar.Proofs.Base32.Moments

namespace Registrar.Base32

/-!
# Base 32 text as base conversion

The text of bytes and the bytes of a text write one number in two bases, without any zero in
front but those that are kept on purpose, and words of few bits are enough to find it.

* `number_toNat` — bytes write the number that they are read as elsewhere;
* `values` — the digits of a text by their values;
* `encode_eq_digits`, `decode_eq_ok_iff` — what is written, and what is read and when;
* `widen?_of_valuesFromEnd` — the pending bits of a text are looked at once for each character,
  and make bytes that are never refused;
* `base_conversion` — both, and how the bits are moved.
-/

open Nat (digits)

/-! ### Bytes to text -/

/-- Bytes are the digits of the number that they write. -/
theorem number_toNat (bytes : Bytes) : number 256 (bytes.map UInt8.toNat) = bytes.toNat := by
  induction bytes using List.reverseRecOn with
  | nil => rfl
  | append_singleton bytes last ih =>
    rw [Bytes.toNat_concat, ← ih, number, List.map_append, List.map_singleton,
      List.reverse_append, List.reverse_singleton, List.singleton_append, Nat.ofDigits_cons,
      number]
    omega

/-- **The text of bytes** is a zero for each zero byte in front and then the digits of the
    number. -/
theorem encode_eq_digits (bytes : Bytes) : encode bytes =
    List.replicate (bytes.takeWhile (· == 0)).length '0' ++
      (digits 32 bytes.toNat).reverse.map digit := by
  have hgroups : ∀ group ∈ bytes.reverse.map UInt8.toNat, group < 2 ^ 8 := byte_lt_of_mem
  have hnumber : Nat.ofDigits (2 ^ 8) (bytes.reverse.map UInt8.toNat) = bytes.toNat := by
    rw [← number_toNat, number, List.map_reverse]
    rfl
  rw [encode, leading_regroup (by decide) hgroups, hnumber, List.map_const']
  rfl

/-! ### Text to bytes -/

/-- The digits of a text by their values, the first character first. -/
def values (text : List Char) : List Nat := text.map fun c => (value? c).getD 0

/-- Where all characters pass for digits, the values are what they are read as. -/
theorem map_value?_of_readable {text : List Char} (h : Readable text) :
    text.map value? = (values text).map some := by
  rw [values, List.map_map]
  refine List.map_congr_left fun c hc => ?_
  obtain ⟨value, hvalue⟩ := Option.isSome_iff_exists.1 (h c hc)
  rw [Function.comp_apply, hvalue, Option.getD_some]

/-- **The bytes of a text** are there exactly if all its characters are ASCII and pass for
    digits. They are a zero for each character `0` in front and then the bytes of the number. -/
theorem decode_eq_ok_iff {text : List Char} {bytes : Bytes} : decode text = .ok bytes ↔
    (∀ c ∈ text, c.toNat < 0x80 ∧ (value? c).isSome) ∧
      bytes = List.replicate (text.takeWhile (· == '0')).length 0 ++
        (digits 256 (number 32 (values text))).reverse.map UInt8.ofNat := by
  have hascii : Readable text → ∀ c ∈ text, c.toNat < 0x80 ∧ (value? c).isSome := by
    intro hreadable c hc
    obtain ⟨value, hvalue⟩ := Option.isSome_iff_exists.1 (hreadable c hc)
    exact ⟨toNat_lt_of_value?_eq_some hvalue, hreadable c hc⟩
  have hdecode : Readable text → decode text =
      .ok (List.replicate (text.takeWhile (· == '0')).length 0 ++
        (digits 256 (number 32 (values text))).reverse.map UInt8.ofNat) := by
    intro hreadable
    rw [decode_eq_numeral (map_value?_of_readable hreadable), numeral, List.map_append,
      List.map_replicate]
    rfl
  constructor
  · intro h
    have hreadable := readable_of_decode h
    exact ⟨hascii hreadable, Except.ok.inj (h.symm.trans (hdecode hreadable))⟩
  · rintro ⟨hchars, rfl⟩
    exact hdecode fun c hc => (hchars c hc).2

/-- **One look for each character.** The digits of a text have five bits and its bytes eight, so
    no character makes more than one byte full, and the bits left in the end fit a byte. -/
theorem widen?_of_valuesFromEnd {text : List Char} {found : List Nat}
    (h : valuesFromEnd text = .ok found) :
    widen? 5 8 .empty found = some (regroup 5 8 .empty found) ∧
      ∀ group ∈ regroup 5 8 .empty found, group < 256 := by
  have hvalues := map_value?_of_readable (readable_of_valuesFromEnd h)
  obtain rfl := Except.ok.inj (h.symm.trans (valuesFromEnd_of_map_value? hvalues))
  have hgroups : ∀ group ∈ (values text).reverse, group < 2 ^ 5 := fun group hgroup =>
    lt_of_map_value? hvalues group (List.mem_reverse.1 hgroup)
  have hempty : Pending.empty.Bounded := Nat.one_pos
  have hbits : Pending.empty.bits < 8 := by decide
  exact ⟨widen?_eq (by decide) hempty hbits hgroups,
    (regroup_spec (by decide) hempty hbits hgroups).2⟩

/-- **Base conversion.** Bytes are written as one zero for each zero byte in front and then the
    digits of their number, and texts are read the other way round, exactly if all their
    characters are ASCII and pass for digits; bytes that hold a text are read as the text is.
    Bytes are taken into words of 32 bits and the characters of any text, from the last one on
    as far as they pass for digits, into words of 16 bits. At every moment the pending bits are
    as many as their value needs and at most twelve, no bit is ever shifted out of a word, and
    the bits left in the end fit the last digit or byte. -/
theorem base_conversion :
    (∀ bytes : Bytes, encode bytes =
      List.replicate (bytes.takeWhile (· == 0)).length '0' ++
        (digits 32 bytes.toNat).reverse.map digit) ∧
    (∀ (text : List Char) (bytes : Bytes), decode text = .ok bytes ↔
      (∀ c ∈ text, c.toNat < 0x80 ∧ (value? c).isSome) ∧
        bytes = List.replicate (text.takeWhile (· == '0')).length 0 ++
          (digits 256 (number 32 (values text))).reverse.map UInt8.ofNat) ∧
    (∀ input : Bytes, decodeBytes input = decode (input.map fun byte => Char.ofNat byte.toNat)) ∧
    (∀ bytes : Bytes, InWords 32 8 5 (bytes.reverse.map UInt8.toNat)) ∧
    ∀ text : List Char,
      InWords 16 5 8 (values (text.reverse.takeWhile fun c => (value? c).isSome)) := by
  refine ⟨encode_eq_digits, fun text bytes => decode_eq_ok_iff, fun input => rfl,
    fun bytes => ?_, fun text => ?_⟩
  · have hgroups : ∀ group ∈ bytes.reverse.map UInt8.toNat, group < 2 ^ 8 := byte_lt_of_mem
    exact inWords (by decide) rfl (by decide) hgroups
  -- reading goes from the end to the first character that has no value
  · have hreadable : Readable (text.reverse.takeWhile fun c => (value? c).isSome) :=
      fun c hc => List.mem_takeWhile_imp (p := fun c => (value? c).isSome) hc
    have hgroups := lt_of_map_value? (map_value?_of_readable hreadable)
    exact inWords (by decide) rfl (by decide) hgroups

/-- A zero in front and a letter that passes for one. -/
theorem base_conversion_letterForOne :
    InWords 16 5 8 [31, 1, 0] ∧ decode "0lZ".toList = .ok [0, 63] ∧
      encode [0, 63] = "01Z".toList := by
  obtain ⟨hencode, hdecode, -, -, hwords⟩ := base_conversion
  have hvalues : values ("0lZ".toList.reverse.takeWhile fun c => (value? c).isSome) =
      [31, 1, 0] := by decide
  refine ⟨hvalues ▸ hwords "0lZ".toList, (hdecode _ _).2 ⟨?_, ?_⟩, ?_⟩
  · exact List.all_iff_forall_prop.1 (by decide)
  · have hnumber : number 32 (values "0lZ".toList) = 63 := by decide
    have hdigits : digits 256 63 = [63] := Nat.digits_of_lt 256 63 (by decide) (by decide)
    rw [hnumber, hdigits]
    rfl
  · have hnumber : Bytes.toNat [0, 63] = 63 := rfl
    have hdigits : digits 32 63 = [31, 1] := by simp
    rw [hencode, hnumber, hdigits]
    rfl

end Registrar.Base32
