import Registrar.Hex
import Registrar.Proofs.Outcome

namespace Registrar

/-!
# Hexadecimal text

A byte is written in two digits. Texts are written in lower case and read in either.

* `Text.bytes_ofList_cons` — the UTF-8 bytes of a text, character by character;
* `Hex.Spells` — a text writes some bytes, in digits of either case and after at most one `0x`;
* `Hex.decode_eq_ok_iff`, `Hex.decodeTagged_eq_ok_iff` — what is read from a text is what it
  writes;
* `Hex.decodeTagged_encode`, `Hex.decodeTagged_tagged_encode` — so the digits of bytes are read
  back as the bytes, with and without `0x`.
-/

/-! ### Bytes of a text -/

theorem Text.bytes_ofList_nil : bytes (String.ofList []) = [] := by
  simp [bytes]

/-- The bytes of a text are those of its characters one after another. -/
theorem Text.bytes_ofList_cons (c : Char) (cs : List Char) :
    bytes (String.ofList (c :: cs)) = String.utf8EncodeChar c ++ bytes (String.ofList cs) := by
  simp [bytes, List.utf8Encode]

/-- A text is known by its bytes. -/
theorem Text.bytes_injective : Function.Injective Text.bytes := by
  intro text other h
  have hread := Text.ofBytes_bytes text
  rw [h, Text.ofBytes_bytes] at hread
  exact (Except.ok.inj hread).symm

namespace Hex

/-! ### Digits -/

/-- A fact about the numbers below sixteen that holds of each of them. -/
private theorem forall_lt_sixteen {P : UInt8 → Prop} (h : ∀ k < 16, P (UInt8.ofNat k))
    {n : UInt8} (hn : n < 16) : P n := by
  rw [← UInt8.ofNat_toNat (x := n)]
  exact h n.toNat (UInt8.lt_iff_toNat_lt.1 hn)

/-- No digit is the letter of the tag `0x`, so the tag is told from digits. -/
theorem digit_ne_x {n : UInt8} (h : n < 16) : digit n ≠ 'x' :=
  forall_lt_sixteen (P := fun n => digit n ≠ 'x') (by decide) h

/-- Digits are letters or numerals. -/
theorem isAlphanum_digit {n : UInt8} (h : n < 16) : (digit n).isAlphanum = true :=
  forall_lt_sixteen (P := fun n => (digit n).isAlphanum = true) (by decide) h

/-- Digits are written in lower case. -/
theorem toLower_digit {n : UInt8} (h : n < 16) : (digit n).toLower = digit n :=
  forall_lt_sixteen (P := fun n => (digit n).toLower = digit n) (by decide) h

theorem toNat_digit_lt {n : UInt8} (h : n < 16) : (digit n).toNat < 0x80 :=
  forall_lt_sixteen (P := fun n => (digit n).toNat < 0x80) (by decide) h

/-- Both halves of a byte are below sixteen. -/
theorem halves_lt (byte : UInt8) : byte / 16 < 16 ∧ byte % 16 < 16 := by
  have hbyte := byte.toNat_lt
  simp only [UInt8.lt_iff_toNat_lt, UInt8.toNat_div, UInt8.toNat_mod, UInt8.reduceToNat]
  omega

/-- A byte is its halves put together. -/
theorem halves_eq (byte : UInt8) : byte / 16 * 16 + byte % 16 = byte := by
  have hbyte := byte.toNat_lt
  apply UInt8.toNat_inj.1
  simp only [UInt8.toNat_add, UInt8.toNat_mul, UInt8.toNat_div, UInt8.toNat_mod, UInt8.reduceToNat]
  omega

/-- Two halves are those of the byte that they are put together to. -/
theorem digits_of_halves {high low : UInt8} (hhigh : high < 16) (hlow : low < 16) :
    digits (high * 16 + low) = [digit high, digit low] := by
  have hhigh' : high.toNat < 16 := UInt8.lt_iff_toNat_lt.1 hhigh
  have hlow' : low.toNat < 16 := UInt8.lt_iff_toNat_lt.1 hlow
  -- quotient and remainder by sixteen give the digits back, and nothing overflows
  have hdiv : (high * 16 + low) / 16 = high := by
    apply UInt8.toNat_inj.1
    simp only [UInt8.toNat_add, UInt8.toNat_mul, UInt8.toNat_div, UInt8.reduceToNat]
    omega
  have hmod : (high * 16 + low) % 16 = low := by
    apply UInt8.toNat_inj.1
    simp only [UInt8.toNat_add, UInt8.toNat_mul, UInt8.toNat_mod, UInt8.reduceToNat]
    omega
  rw [digits, hdiv, hmod]

/-- All that is written for bytes are digits. -/
theorem exists_digit_of_mem {bytes : Bytes} {c : Char} (h : c ∈ bytes.flatMap digits) :
    ∃ n < 16, c = digit n := by
  obtain ⟨byte, -, hc⟩ := List.mem_flatMap.1 h
  obtain ⟨hhigh, hlow⟩ := halves_lt byte
  rcases List.mem_cons.1 hc with rfl | hc
  · exact ⟨_, hhigh, rfl⟩
  · exact ⟨_, hlow, List.mem_singleton.1 hc⟩

/-- So hexadecimal text has letters and numerals only. -/
theorem isAlphanum_of_mem_encode {bytes : Bytes} {c : Char} (h : c ∈ bytes.flatMap digits) :
    c.isAlphanum = true := by
  obtain ⟨n, hn, rfl⟩ := exists_digit_of_mem h
  exact isAlphanum_digit hn

/-! ### Characters that are read as digits -/

/-- A byte that is read as a digit is that of an ASCII character. -/
theorem toNat_lt_of_value? {byte value : UInt8} (h : value? byte = some value) :
    byte.toNat < 0x80 := by
  simp only [value?, Bool.and_eq_true, decide_eq_true_eq, UInt8.le_iff_toNat_le,
    UInt8.reduceToNat] at h
  split at h
  · omega
  · split at h
    · omega
    · split at h
      · omega
      · cases h

/-- Only the characters below `0x80` are a single byte, and all bytes of the others are above. -/
theorem utf8EncodeChar_eq_cons {c : Char} {byte : UInt8} {tail : Bytes}
    (h : String.utf8EncodeChar c = byte :: tail) (hbyte : byte.toNat < 0x80) :
    c.toNat < 0x80 ∧ byte = UInt8.ofNat c.toNat ∧ tail = [] := by
  have hval : c.val.toNat = c.toNat := rfl
  simp only [String.utf8EncodeChar, hval] at h
  split at h
  · next hle =>
    obtain ⟨rfl, rfl⟩ := List.cons.inj h
    exact ⟨by omega, rfl, rfl⟩
  · -- the first byte of several tells how many they are, from `0xc0` on
    exfalso
    split at h
    · obtain ⟨rfl, -⟩ := List.cons.inj h
      simp only [UInt8.toNat_ofNat'] at hbyte
      omega
    · split at h
      · obtain ⟨rfl, -⟩ := List.cons.inj h
        simp only [UInt8.toNat_ofNat'] at hbyte
        omega
      · obtain ⟨rfl, -⟩ := List.cons.inj h
        simp only [UInt8.toNat_ofNat'] at hbyte
        omega

/-- An ASCII character is one byte of UTF-8, which is its code. -/
theorem utf8EncodeChar_of_lt {c : Char} (h : c.toNat < 0x80) :
    String.utf8EncodeChar c = [UInt8.ofNat c.toNat] := by
  have hval : c.val.toNat = c.toNat := rfl
  simp only [String.utf8EncodeChar, hval]
  exact if_pos (Nat.le_of_lt_succ h)

/-- Among the characters below `0x80` those are read as a digit that are it in lower case. -/
theorem value?_eq_some_iff {c : Char} (hc : c.toNat < 0x80) {n : UInt8} :
    value? (UInt8.ofNat c.toNat) = some n ↔ n < 16 ∧ c.toLower = digit n := by
  -- there are so few characters and digits that all can be tried
  have hread : ∀ k < 0x80, ∀ n ∈ value? (UInt8.ofNat k),
      n < 16 ∧ (Char.ofNat k).toLower = digit n := by decide +kernel
  have hwritten : ∀ n < 16, ∀ k < 0x80, (Char.ofNat k).toLower = digit (UInt8.ofNat n) →
      value? (UInt8.ofNat k) = some (UInt8.ofNat n) := by decide +kernel
  have hback : Char.ofNat c.toNat = c := Char.ofNat_toNat c
  constructor
  · intro h
    rw [← hback]
    exact hread c.toNat hc n h
  · rintro ⟨hn, hlower⟩
    rw [← hback, ← UInt8.ofNat_toNat (x := n)] at hlower
    rw [hwritten n.toNat (UInt8.lt_iff_toNat_lt.1 hn) c.toNat hc hlower, UInt8.ofNat_toNat]

/-- A character that is a digit in lower case is a single byte. -/
theorem toNat_lt_of_toLower {c : Char} {n : UInt8} (hn : n < 16) (h : c.toLower = digit n) :
    c.toNat < 0x80 := by
  unfold Char.toLower at h
  split at h
  · next hupper =>
    have hle : c.toNat ≤ 90 := UInt32.le_iff_toNat_le.1 hupper.2
    omega
  · rw [h]
    exact toNat_digit_lt hn

/-! ### Reading -/

/-- Where a digit stands has no part in its value; the position is for the fault only. -/
theorem valueAt_eq_ok_iff {position : Nat} {byte value : UInt8} :
    valueAt position byte = .ok value ↔ value? byte = some value := by
  unfold valueAt
  cases value? byte <;> simp

/-- Two digits are read as a byte, and so on. -/
theorem decodeFrom_eq_ok_cons {position : Nat} {input : Bytes} {byte : UInt8} {bytes : Bytes} :
    decodeFrom position input = .ok (byte :: bytes) ↔
      ∃ first second rest high low, input = first :: second :: rest ∧
        value? first = some high ∧ value? second = some low ∧ high * 16 + low = byte ∧
        decodeFrom (position + 2) rest = .ok bytes := by
  match input with
  | [] => simp [decodeFrom]
  | [_] => simp [decodeFrom]
  | first :: second :: rest =>
    simp only [decodeFrom, Except.bind_eq_ok_iff, valueAt_eq_ok_iff, pure, Except.pure,
      Except.ok.injEq, List.cons.injEq]
    constructor
    · rintro ⟨high, hhigh, low, hlow, _, hrest, hbyte, rfl⟩
      exact ⟨first, second, rest, high, low, ⟨rfl, rfl, rfl⟩, hhigh, hlow, hbyte, hrest⟩
    · rintro ⟨_, _, _, high, low, ⟨rfl, rfl, rfl⟩, hhigh, hlow, hbyte, hrest⟩
      exact ⟨high, hhigh, low, hlow, bytes, hrest, hbyte, rfl⟩

theorem decodeFrom_eq_ok_nil {position : Nat} {input : Bytes} :
    decodeFrom position input = .ok [] ↔ input = [] := by
  match input with
  | [] => simp [decodeFrom]
  | [_] => simp [decodeFrom]
  | first :: second :: rest =>
    simp [decodeFrom, Except.bind_eq_ok_iff, pure, Except.pure]

/-- Two characters are read for each byte. -/
theorem length_of_decodeFrom {position : Nat} {input bytes : Bytes}
    (h : decodeFrom position input = .ok bytes) : input.length = 2 * bytes.length := by
  induction bytes generalizing position input with
  | nil =>
    obtain rfl := decodeFrom_eq_ok_nil.1 h
    rfl
  | cons byte bytes ih =>
    obtain ⟨_, _, rest, _, _, rfl, -, -, -, hrest⟩ := decodeFrom_eq_ok_cons.1 h
    have hlength := ih hrest
    simp only [List.length_cons]
    omega

/-- A text that starts with a byte read as a digit starts with a character that is the digit
    in lower case, and the other bytes are those of the other characters. -/
theorem bytes_eq_digit_cons {written : List Char} {byte value : UInt8} {rest : Bytes}
    (hvalue : value? byte = some value) :
    Text.bytes (String.ofList written) = byte :: rest ↔
      ∃ c cs, written = c :: cs ∧ String.utf8EncodeChar c = [byte] ∧
        Text.bytes (String.ofList cs) = rest := by
  cases written with
  | nil =>
    rw [Text.bytes_ofList_nil]
    simp
  | cons c cs =>
    rw [Text.bytes_ofList_cons]
    constructor
    · intro h
      -- a digit is below 0x80, so its byte is all there is of the character
      cases hchar : String.utf8EncodeChar c with
      | nil => exact absurd hchar String.utf8EncodeChar_ne_nil
      | cons first tail =>
        rw [hchar, List.cons_append] at h
        obtain ⟨rfl, hrest⟩ := List.cons.inj h
        obtain ⟨-, -, rfl⟩ := utf8EncodeChar_eq_cons hchar (toNat_lt_of_value? hvalue)
        exact ⟨c, cs, rfl, hchar, hrest⟩
    · rintro ⟨_, _, hcons, hchar, rfl⟩
      obtain ⟨rfl, rfl⟩ := List.cons.inj hcons
      rw [hchar, List.singleton_append]

/-- The characters whose only byte is read as a digit are those that are the digit in lower
    case. -/
theorem exists_utf8EncodeChar_iff {c : Char} {n : UInt8} :
    (∃ byte, String.utf8EncodeChar c = [byte] ∧ value? byte = some n) ↔
      n < 16 ∧ c.toLower = digit n := by
  constructor
  · rintro ⟨byte, hchar, hvalue⟩
    obtain ⟨hc, rfl, -⟩ := utf8EncodeChar_eq_cons hchar (toNat_lt_of_value? hvalue)
    exact (value?_eq_some_iff hc).1 hvalue
  · rintro ⟨hn, hlower⟩
    have hc := toNat_lt_of_toLower hn hlower
    exact ⟨_, utf8EncodeChar_of_lt hc, (value?_eq_some_iff hc).2 ⟨hn, hlower⟩⟩

/-- **Digits.** Characters are read as some bytes exactly if in lower case they are the digits
    of the bytes. -/
theorem decodeFrom_eq_ok_iff {position : Nat} {written : List Char} {bytes : Bytes} :
    decodeFrom position (Text.bytes (String.ofList written)) = .ok bytes ↔
      written.map Char.toLower = bytes.flatMap digits := by
  induction bytes generalizing position written with
  | nil =>
    rw [decodeFrom_eq_ok_nil, List.flatMap_nil, List.map_eq_nil_iff]
    cases written with
    | nil => exact iff_of_true Text.bytes_ofList_nil rfl
    | cons c cs =>
      rw [Text.bytes_ofList_cons]
      simp
  | cons byte bytes ih =>
    -- two characters are read for a byte, whatever case they are in
    rw [decodeFrom_eq_ok_cons, List.flatMap_cons]
    constructor
    · rintro ⟨first, second, rest, high, low, hinput, hfirst, hsecond, rfl, hrest⟩
      obtain ⟨c, _, rfl, hc, htail⟩ := (bytes_eq_digit_cons hfirst).1 hinput
      obtain ⟨d, cs, rfl, hd, rfl⟩ := (bytes_eq_digit_cons hsecond).1 htail
      obtain ⟨hhigh, hclower⟩ := exists_utf8EncodeChar_iff.1 ⟨first, hc, hfirst⟩
      obtain ⟨hlow, hdlower⟩ := exists_utf8EncodeChar_iff.1 ⟨second, hd, hsecond⟩
      rw [digits_of_halves hhigh hlow, List.map_cons, List.map_cons, ih.1 hrest, hclower, hdlower]
      rfl
    · intro h
      rw [digits, List.cons_append, List.cons_append, List.nil_append] at h
      obtain ⟨c, _, rfl, hclower, htail⟩ := List.map_eq_cons_iff.1 h
      obtain ⟨d, cs, rfl, hdlower, hcs⟩ := List.map_eq_cons_iff.1 htail
      obtain ⟨hhigh, hlow⟩ := halves_lt byte
      obtain ⟨first, hc, hfirst⟩ := exists_utf8EncodeChar_iff.2 ⟨hhigh, hclower⟩
      obtain ⟨second, hd, hsecond⟩ := exists_utf8EncodeChar_iff.2 ⟨hlow, hdlower⟩
      refine ⟨first, second, _, _, _, ?_, hfirst, hsecond, halves_eq byte, ih.2 hcs⟩
      rw [Text.bytes_ofList_cons, Text.bytes_ofList_cons, hc, hd]
      rfl

/-- **Texts of digits** are read as the bytes whose digits they are in lower case. -/
theorem decode_eq_ok_iff {text : String} {bytes : Bytes} :
    decode text = .ok bytes ↔ text.toList.map Char.toLower = bytes.flatMap digits := by
  rw [← @decodeFrom_eq_ok_iff 0, String.ofList_toList, decode]
  constructor
  · intro h
    split at h
    · cases h
    · exact h
  · intro h
    -- two digits a byte are an even number of them
    have hlength := length_of_decodeFrom h
    have heven : ¬ (Text.bytes text).length % 2 = 1 := by omega
    rw [if_neg heven, h]

/-! ### Texts that write bytes -/

/-- The text writes the bytes: in two digits each, of either case, and with at most one `0x`
    in front of them all. -/
def Spells (text : String) (bytes : Bytes) : Prop :=
  ∃ written : List Char, (text.toList = written ∨ text.toList = '0' :: 'x' :: written) ∧
    written.map Char.toLower = bytes.flatMap digits

/-- No digits look as if they had `0x` in front. -/
theorem ne_tagged {written rest : List Char} {bytes : Bytes}
    (h : written.map Char.toLower = bytes.flatMap digits) : written ≠ '0' :: 'x' :: rest := by
  rintro rfl
  cases bytes with
  | nil => cases h
  | cons byte bytes =>
    rw [List.flatMap_cons, digits, List.map_cons, List.map_cons, List.cons_append] at h
    have hlow : 'x'.toLower = digit (byte % 16) := (List.cons.inj (List.cons.inj h).2).1
    exact digit_ne_x (halves_lt byte).2 hlow.symm

/-- **Hexadecimal texts** are read as the bytes that they write, and other texts are not
    read. -/
theorem decodeTagged_eq_ok_iff {text : String} {bytes : Bytes} :
    decodeTagged text = .ok bytes ↔ Spells text bytes := by
  rw [decodeTagged, decode_eq_ok_iff, untagged]
  split
  · next rest htext =>
    rw [String.toList_ofList]
    constructor
    · exact fun h => ⟨rest, .inr htext, h⟩
    · rintro ⟨written, hwritten | hwritten, h⟩
      -- no digit is the second character of the tag, so a tagged text is not all digits
      · exact absurd (hwritten.symm.trans htext) (ne_tagged h)
      · rw [htext] at hwritten
        obtain rfl : rest = written := by simpa using hwritten
        exact h
  · next hplain =>
    constructor
    · exact fun h => ⟨text.toList, .inl rfl, h⟩
    · rintro ⟨written, rfl | hwritten, h⟩
      · exact h
      · exact absurd hwritten (hplain written)

/-! ### Bytes that are written -/

/-- What is written is in lower case already. -/
theorem map_toLower_encode (bytes : Bytes) :
    (bytes.flatMap digits).map Char.toLower = bytes.flatMap digits := by
  have hlower : (bytes.flatMap digits).map Char.toLower = (bytes.flatMap digits).map id := by
    apply List.map_congr_left
    intro c hc
    obtain ⟨n, hn, rfl⟩ := exists_digit_of_mem hc
    exact toLower_digit hn
  rw [hlower, List.map_id]

/-- Bytes are read back from their text. -/
theorem decodeTagged_encode (bytes : Bytes) : decodeTagged (encode bytes) = .ok bytes :=
  decodeTagged_eq_ok_iff.2
    ⟨_, .inl (String.toList_ofList ..), map_toLower_encode bytes⟩

theorem decodeTagged_tagged_encode (bytes : Bytes) :
    decodeTagged ("0x" ++ encode bytes) = .ok bytes :=
  decodeTagged_eq_ok_iff.2 ⟨bytes.flatMap digits, .inr (by simp [encode]), map_toLower_encode bytes⟩

/-- Bytes are known by their digits. -/
theorem encode_injective : Function.Injective encode := by
  intro bytes other h
  have hdecode := decodeTagged_encode bytes
  rw [h, decodeTagged_encode] at hdecode
  exact (Except.ok.inj hdecode).symm

end Hex

end Registrar
