import Mathlib.Data.String.Basic
import Registrar.Address.Json
import Registrar.Proofs.Base32.RoundTrip
import Registrar.Proofs.Bytes
import Registrar.Proofs.Outcome

namespace Registrar

/-!
# Addresses and their texts

* `Base32.decodeChecked_eq_ok_iff` — checked text of digits is read as the version and the
  data that it was made of, and as nothing else;
* `Address.Canonical` — texts that use none of the other characters read as digits;
* `Address.readText_eq_ok_iff`, `Address.parse_eq_ok_iff` — the same for the text of an
  address;
* `Address.readText_parse_inverse` — so an address and its canonical text determine each
  other.
-/

/-! ### Checked base 32 text -/

namespace Base32

theorem length_guard (version : UInt8) (data : Bytes) : (guard version data).length = 4 := by
  simp [guard, Digest.checksum]

/-- A single digit is read as a byte of its value, as the version of a checked text is. -/
theorem decode_digit {value : Nat} (h : value < 32) :
    decode [digit value] = .ok [UInt8.ofNat value] := by
  have hnumber : number 32 [value] = number 256 [value] := by simp [number]
  have hdigit : ∀ other ∈ [value], other < 32 := by simpa using h
  have hbyte : ∀ other ∈ [value], other < 256 := fun other hother =>
    (hdigit other hother).trans (by decide)
  have hdecode := decode_map_digit hdigit
  rwa [hnumber, numeral_zeros_number (by decide) hbyte] at hdecode

/-- Version and data are written in digits of the alphabet only. -/
theorem mem_alphabet_of_mem_encodeChecked {version : UInt8} (hversion : version.toNat < 32)
    {data : Bytes} {c : Char} (h : c ∈ encodeChecked version data) : c ∈ alphabet := by
  rcases List.mem_cons.1 h with rfl | h
  · exact digit_mem_alphabet _ hversion
  · exact mem_alphabet_of_mem_encode h

/-- A checked text of digits is taken apart in front of the last four of its bytes. -/
theorem decodeChecked_digit_encode {value : Nat} (h : value < 32) (guarded : Bytes) :
    decodeChecked (digit value :: encode guarded) =
      if guarded.length < 4 then .error .malformed
      else if guard (UInt8.ofNat value) (guarded.take (guarded.length - 4)) =
          guarded.drop (guarded.length - 4) then
        .ok (UInt8.ofNat value, guarded.take (guarded.length - 4))
      else .error (.badChecksum
        (guard (UInt8.ofNat value) (guarded.take (guarded.length - 4)))
        (guarded.drop (guarded.length - 4))) := by
  have hascii : ((digit value :: encode guarded).any fun c => 0x80 ≤ c.toNat) = false := by
    simp only [List.any_eq_false, decide_eq_true_eq, not_le, List.forall_mem_cons]
    exact ⟨digit_toNat_lt value h, fun c hc => toNat_lt_of_mem_alphabet
      (mem_alphabet_of_mem_encode hc)⟩
  -- the one character of the version is read as one byte
  have hversion : [UInt8.ofNat value].getLastD 0 = UInt8.ofNat value := rfl
  simp only [decodeChecked, hascii, decode_encode, decode_digit h, Bool.false_eq_true, if_false,
    bind, Except.bind]
  rw [hversion]

/-- Version and data are read back from their checked text. -/
theorem decodeChecked_encodeChecked {version : UInt8} (hversion : version.toNat < 32)
    (data : Bytes) : decodeChecked (encodeChecked version data) = .ok (version, data) := by
  have hlength : (data ++ guard version data).length - 4 = data.length := by
    simp [length_guard]
  rw [encodeChecked, decodeChecked_digit_encode hversion, hlength, List.take_left,
    List.drop_left, UInt8.ofNat_toNat, if_neg (by simp [length_guard]), if_pos rfl]

/-- **Checked text** of digits is read as the version and the data that it was made of. -/
theorem decodeChecked_eq_ok_iff {text : List Char} (h : ∀ c ∈ text, c ∈ alphabet)
    {version : UInt8} {data : Bytes} :
    decodeChecked text = .ok (version, data) ↔
      version.toNat < 32 ∧ text = encodeChecked version data := by
  constructor
  · intro hdecode
    cases text with
    | nil => cases hdecode
    | cons first rest =>
      obtain ⟨hfirst, hrest⟩ := List.forall_mem_cons.1 h
      obtain ⟨value, hvalue, rfl⟩ := exists_digit_eq hfirst
      obtain ⟨guarded, rfl⟩ := exists_encode_eq hrest
      rw [decodeChecked_digit_encode hvalue] at hdecode
      -- four bytes are left for the checksum, or the text is too short
      by_cases hlength : guarded.length < 4
      · rw [if_pos hlength] at hdecode
        cases hdecode
      · rw [if_neg hlength] at hdecode
        split at hdecode
        · next hguard =>
          simp only [Except.ok.injEq, Prod.mk.injEq] at hdecode
          obtain ⟨rfl, rfl⟩ := hdecode
          have hback : (UInt8.ofNat value).toNat = value :=
            UInt8.toNat_ofNat_of_lt (hvalue.trans (by decide))
          rw [encodeChecked, hback, hguard, List.take_append_drop]
          exact ⟨hvalue, rfl⟩
        · simp at hdecode
  · rintro ⟨hversion, rfl⟩
    exact decodeChecked_encodeChecked hversion data

end Base32

namespace Address

/-! ### Text of an address -/

/-- A text has at least as many bytes as characters. -/
theorem length_le_utf8Len (text : List Char) : text.length ≤ String.utf8Len text := by
  induction text with
  | nil => exact Nat.zero_le _
  | cons c text ih =>
    have hsize := c.utf8Size_pos
    rw [String.utf8Len_cons, List.length_cons]
    omega

/-- The codes of the versions are small enough for one digit each. -/
theorem code_toNat_lt (version : AddressVersion) : (Wire.code version).toNat < 32 := by
  cases version <;> decide

/-- What follows the first character of the text is made of digits, not of the other
    characters that are read as digits. -/
def Canonical (text : String) : Prop := ∀ c ∈ text.toList.tail, c ∈ Base32.alphabet

theorem toList_textOf (version : AddressVersion) (data : Bytes) :
    (textOf version data).toList = 'S' :: Base32.encodeChecked (Wire.code version) data :=
  String.toList_ofList ..

/-- What is written for a version and data is canonical text. -/
theorem canonical_textOf (version : AddressVersion) (data : Bytes) :
    Canonical (textOf version data) := by
  intro c hc
  rw [toList_textOf] at hc
  exact Base32.mem_alphabet_of_mem_encodeChecked (code_toNat_lt version) hc

/-- The text of an address is never too short, whatever the data and its checksum are. -/
theorem utf8ByteSize_textOf (version : AddressVersion) (data : Bytes) :
    5 < (textOf version data).utf8ByteSize := by
  -- leading zeros of the data or of the checksum are digits too, so four bytes are four digits
  have hguarded := Base32.length_le_length_encode
    (data ++ Base32.guard (Wire.code version) data)
  have htext := length_le_utf8Len ('S' :: Base32.encodeChecked (Wire.code version) data)
  simp only [List.length_append, Base32.length_guard] at hguarded
  simp only [Base32.encodeChecked, List.length_cons] at htext
  rw [textOf, String.utf8ByteSize_ofList, Base32.encodeChecked]
  omega

/-- **Text of an address**: a text of digits is read as a version and some data exactly if
    it is their text. -/
theorem readText_eq_ok_iff {text : String} (h : Canonical text) {version : AddressVersion}
    {data : Bytes} : readText text = .ok (version, data) ↔ text = textOf version data := by
  constructor
  · intro hread
    unfold readText at hread
    split at hread
    · next checked htext =>
      have hdigits : ∀ c ∈ text.toList.tail, c ∈ Base32.alphabet := h
      rw [htext, List.tail_cons] at hdigits
      split_ifs at hread
      -- the digits decide, and then whether the version that they give is in use
      obtain ⟨⟨byte, found⟩, hdecode, hread⟩ := Except.bind_eq_ok_iff.1 hread
      obtain ⟨-, hchecked⟩ := (Base32.decodeChecked_eq_ok_iff hdigits).1 hdecode
      dsimp only at hread
      split at hread
      · next version hversion =>
        simp only [Except.ok.injEq, Prod.mk.injEq] at hread
        obtain ⟨rfl, rfl⟩ := hread
        rw [textOf, Wire.ofCode?_eq_some_iff.1 hversion, ← hchecked, ← htext,
          String.ofList_toList]
      · cases hread
    · cases hread
  · rintro rfl
    have hdecode : Base32.decodeChecked (Base32.encodeChecked (Wire.code version) data) =
        .ok (Wire.code version, data) :=
      Base32.decodeChecked_encodeChecked (code_toNat_lt version) data
    have hversion : Wire.ofCode? (Wire.code version) = some version :=
      Wire.ofCode?_eq_some_iff.2 rfl
    have hsize := utf8ByteSize_textOf version data
    simp only [readText, toList_textOf, if_neg (not_le.2 hsize)]
    exact Except.bind_eq_ok_iff.2 ⟨_, hdecode, by simp only [hversion]⟩

/-! ### Addresses -/

/-- In particular the text of an address is. -/
theorem canonical_toText (address : Address) : Canonical address.toText :=
  canonical_textOf address.version address.hash.toList

/-- **Addresses**: a text of digits is parsed as an address exactly if it is its text. -/
theorem parse_eq_ok_iff {text : String} (h : Canonical text) {address : Address} :
    parse text = .ok address ↔ text = address.toText := by
  obtain ⟨version, hash⟩ := address
  constructor
  · intro hparse
    unfold parse at hparse
    obtain ⟨⟨_, data⟩, hread, hhash⟩ := Except.bind_eq_ok_iff.1 hparse
    dsimp only at hhash
    -- what is read is an address if it is as long as a hash
    split at hhash
    · next hblock =>
      simp only [Except.ok.injEq, mk.injEq] at hhash
      obtain ⟨rfl, rfl⟩ := hhash
      rw [toText, ← Bytes.block?_eq_some_iff.1 hblock]
      exact (readText_eq_ok_iff h).1 (Except.mapError_eq_ok_iff.1 hread)
    · cases hhash
  · rintro rfl
    have hread : readText (textOf version hash.toList) = .ok (version, hash.toList) :=
      (readText_eq_ok_iff (canonical_textOf version hash.toList)).2 rfl
    have hblock : Bytes.block? 20 hash.toList = some hash := Bytes.block?_eq_some_iff.2 rfl
    exact Except.bind_eq_ok_iff.2 ⟨_, Except.mapError_eq_ok_iff.2 hread, by simp only [hblock]⟩

/-- **Addresses are read back** from their text. -/
theorem parse_toText (address : Address) : parse address.toText = .ok address :=
  (parse_eq_ok_iff (canonical_toText address)).2 rfl

/-- So no two addresses have one text. -/
theorem toText_injective : Function.Injective toText := by
  intro a b h
  have hparse := parse_toText a
  rw [h, parse_toText] at hparse
  exact (Except.ok.inj hparse).symm

/-- As a member of a record an address is its text, and is read back the same way. -/
theorem ofJson_toJson (address : Address) : ofJson address.toJson = .ok address := by
  show (parse address.toText).mapError _ = _
  rw [parse_toText]
  rfl

/-- **Text and addresses determine each other**: the text of a version and some data, of
    any length, is canonical, and it is the only canonical text that is read as them. So
    every address is read back from its text, also in JSON, and has no other canonical text,
    nor has another address that text. -/
theorem readText_parse_inverse :
    (∀ version data, Canonical (textOf version data)) ∧
    (∀ text, Canonical text → ∀ version data,
      readText text = .ok (version, data) ↔ text = textOf version data) ∧
    (∀ address, parse address.toText = .ok address ∧ ofJson address.toJson = .ok address) ∧
    (∀ a b : Address, a.toText = b.toText → a = b) ∧
    ∀ address, ∃! text, Canonical text ∧ parse text = .ok address := by
  refine ⟨canonical_textOf, fun text h version data => readText_eq_ok_iff h,
    fun address => ⟨parse_toText address, ofJson_toJson address⟩,
    fun a b => @toText_injective a b, fun address => ?_⟩
  refine ⟨address.toText, ⟨canonical_toText address, parse_toText address⟩, ?_⟩
  rintro text ⟨hcanonical, hparse⟩
  exact (parse_eq_ok_iff hcanonical).1 hparse

/-- The zero bytes of a digest are zero digits of its text. -/
example : textOf .mainnetSingle (List.replicate 20 0) = "SP000000000000000000002Q6VF78" := by
  decide +kernel

end Address

end Registrar
