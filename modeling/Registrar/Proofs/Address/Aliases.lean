import Registrar.Proofs.Address

namespace Registrar

/-!
# Characters that pass for digits

A digit may be written in either case, and some letters pass for zero and one. What is read is
the same as for the digits themselves, with one exception: a zero byte in front is told only by
the character `0`, so zeros in front that another letter writes are lost.

* `Base32.fold` — the digit that a character passes for;
* `Base32.missed` — how many zeros in front are lost;
* `Base32.exists_decode_map_fold` — with the digits themselves, the bytes are the same but for
  the zeros that are lost;
* `Base32.map_fold_eq_encode`, `Address.map_fold_eq_of_readText` — and the digits are those of
  the text of these bytes;
* `Address.decode_readText_map_fold_iff` — so a text and its digits are read alike exactly if
  no zero in front is lost.
-/

namespace Base32

/-! ### Digits in place of what passes for them -/

/-- The digit that a character passes for; any other character in upper case. -/
def fold (c : Char) : Char :=
  if c = 'O' ∨ c = 'o' then '0'
  else if c = 'I' ∨ c = 'i' ∨ c = 'L' ∨ c = 'l' then '1'
  else c.toUpper

/-- Every character of the text passes for a digit. -/
def Readable (text : List Char) : Prop := ∀ c ∈ text, (value? c).isSome

instance (text : List Char) : Decidable (Readable text) :=
  List.decidableBAll _ text

/-- How many zeros in front are lost: those from the first one on that a letter writes. -/
def missed (text : List Char) : Nat :=
  ((text.dropWhile (· == '0')).takeWhile fun c => c = '0' ∨ c = 'O' ∨ c = 'o').length

/-- A character that passes for a digit is folded to this digit. -/
theorem fold_eq_digit {c : Char} {value : Nat} (h : value? c = some value) :
    fold c = digit value := by
  unfold value? at h
  unfold fold
  split_ifs at h ⊢
  · cases h
    rfl
  · cases h
    rfl
  · -- the digits stand in the alphabet at their values
    rw [List.idxOf?, List.findIdx?_eq_some_iff_getElem] at h
    obtain ⟨hlt, hat, -⟩ := h
    rw [digit, List.getD_eq_getElem?_getD, List.getElem?_eq_getElem hlt, Option.getD_some]
    exact (eq_of_beq hat).symm

/-- No lower case letter becomes a zero. -/
theorem toUpper_eq_zero_iff {c : Char} : c.toUpper = '0' ↔ c = '0' := by
  unfold Char.toUpper
  split
  · next hlower =>
    constructor
    · -- a small letter becomes a capital one
      intro h
      have hval := congrArg UInt32.toNat (congrArg Char.val h)
      simp only [Char.reduceVal, UInt32.le_iff_toNat_le, UInt32.reduceToNat, Char.toNat_val,
        UInt32.reduceSub, UInt32.toNat_add, Nat.reducePow] at hlower hval
      omega
    · rintro rfl
      exact absurd hlower (by decide)
  · rfl

/-- Only a zero and the letter like it pass for zero. -/
theorem fold_eq_zero_iff {c : Char} : fold c = '0' ↔ c = '0' ∨ c = 'O' ∨ c = 'o' := by
  unfold fold
  split_ifs with hzero hone
  · simp [hzero]
  · rcases hone with rfl | rfl | rfl | rfl <;> decide
  · rw [toUpper_eq_zero_iff, or_iff_left hzero]

/-- What passes for a digit is an ASCII character. -/
theorem any_not_ascii_eq_false {text : List Char} (h : Readable text) :
    (text.any fun c => 0x80 ≤ c.toNat) = false := by
  simp only [List.any_eq_false, decide_eq_true_eq, not_le]
  intro c hc
  obtain ⟨value, hvalue⟩ := Option.isSome_iff_exists.1 (h c hc)
  exact toNat_lt_of_value?_eq_some hvalue

/-- A text that can be read is known by the values of its characters. -/
theorem exists_values {text : List Char} (h : Readable text) :
    ∃ values : List Nat, text.map value? = values.map some := by
  refine ⟨text.map fun c => (value? c).getD 0, ?_⟩
  rw [List.map_map]
  refine List.map_congr_left fun c hc => ?_
  obtain ⟨value, hvalue⟩ := Option.isSome_iff_exists.1 (h c hc)
  simp [hvalue]

section

variable {text : List Char} {values : List Nat} (h : text.map value? = values.map some)

include h

theorem lt_of_map_value? : ∀ value ∈ values, value < 32 := by
  intro value hvalue
  have hmem : some value ∈ text.map value? := h ▸ List.mem_map_of_mem hvalue
  obtain ⟨c, -, hc⟩ := List.mem_map.1 hmem
  exact lt_of_value?_eq_some hc

/-- Folded, a text is the digits of its values. -/
theorem map_fold_eq_map_digit : text.map fold = values.map digit := by
  induction text generalizing values with
  | nil =>
    obtain rfl : values = [] := by simpa using h.symm
    rfl
  | cons c text ih =>
    cases values with
    | nil => cases h
    | cons value values =>
      obtain ⟨hc, htext⟩ := List.cons.inj h
      rw [List.map_cons, List.map_cons, fold_eq_digit hc, ih htext]

end

/-- The zeros in front of the folded text are those written `0` and those that are lost. -/
theorem length_takeWhile_map_fold (text : List Char) :
    ((text.map fold).takeWhile (· == '0')).length =
      missed text + (text.takeWhile (· == '0')).length := by
  induction text with
  | nil => rfl
  | cons c text ih =>
    by_cases hc : c = '0'
    · subst hc
      have hfold : fold '0' = '0' := by decide
      have hmissed : missed ('0' :: text) = missed text := rfl
      have hfront : (('0' :: text).takeWhile (· == '0')).length =
          (text.takeWhile (· == '0')).length + 1 := rfl
      rw [List.map_cons, hfold, hmissed, hfront, ← Nat.add_assoc, ← ih]
      rfl
    · -- from here on every zero is lost
      have hne : ¬ (fun c => c == '0') c = true := by simpa using hc
      have hdrop : (c :: text).dropWhile (· == '0') = c :: text := List.dropWhile_cons_of_neg hne
      have hfront : (c :: text).takeWhile (· == '0') = [] := List.takeWhile_cons_of_neg hne
      have hzero : (fun c => c == '0') ∘ fold =
          fun c => decide (c = '0' ∨ c = 'O' ∨ c = 'o') := by
        funext c
        simp only [Function.comp_apply, beq_eq_decide, fold_eq_zero_iff]
      rw [missed, hdrop, hfront, List.takeWhile_map, List.length_map, hzero]
      rfl

/-- More zeros in front of digits are zeros in front of all. -/
theorem numeral_add (base more zeros number : Nat) :
    numeral base (more + zeros) number = List.replicate more 0 ++ numeral base zeros number := by
  rw [numeral, numeral, List.replicate_add, List.append_assoc]

/-- **A text and its digits** are read as the same bytes, but for the zeros in front that the
    text loses. -/
theorem exists_decode_map_fold {text : List Char} (h : Readable text) :
    ∃ bytes, decode text = .ok bytes ∧
      decode (text.map fold) = .ok (List.replicate (missed text) 0 ++ bytes) := by
  obtain ⟨values, hvalues⟩ := exists_values h
  have hlt := lt_of_map_value? hvalues
  -- a letter that was missed is a zero once it is folded, so more zeros are in front
  have hzeros : zeros values = missed text + (text.takeWhile (· == '0')).length := by
    rw [← length_takeWhile_map_fold, map_fold_eq_map_digit hvalues,
      length_takeWhile_map_digit hlt]
  refine ⟨_, decode_eq_numeral hvalues, ?_⟩
  rw [map_fold_eq_map_digit hvalues, decode_map_digit hlt, hzeros, numeral_add, List.map_append,
    List.map_replicate]
  rfl

/-- A text and its digits are read alike exactly if no zero in front is lost. -/
theorem decode_map_fold_eq_iff {text : List Char} (h : Readable text) :
    decode (text.map fold) = decode text ↔ missed text = 0 := by
  obtain ⟨bytes, hbytes, hfold⟩ := exists_decode_map_fold h
  rw [hfold, hbytes, Except.ok.injEq, List.append_left_eq_self, List.replicate_eq_nil_iff]

/-- The characters of a text with values pass for digits. -/
theorem readable_of_valuesFromEnd {text : List Char} {values : List Nat}
    (h : valuesFromEnd text = .ok values) : Readable text := by
  intro c hc
  obtain ⟨value, hvalue⟩ := Except.exists_eq_ok_of_mapM h c (List.mem_reverse.2 hc)
  split at hvalue
  · next found hfound => rw [hfound, Option.isSome_some]
  · cases hvalue

/-- What is read at all is made of characters that pass for digits. -/
theorem readable_of_decode {text : List Char} {bytes : Bytes} (h : decode text = .ok bytes) :
    Readable text := by
  unfold decode at h
  split_ifs at h
  obtain ⟨values, hvalues, -⟩ := Except.bind_eq_ok_iff.1 h
  exact readable_of_valuesFromEnd hvalues

/-- Folded, a text that is read as bytes is their text with the lost zeros in front. -/
theorem map_fold_eq_encode {text : List Char} {bytes : Bytes} (h : decode text = .ok bytes) :
    text.map fold = encode (List.replicate (missed text) 0 ++ bytes) := by
  have hread := readable_of_decode h
  obtain ⟨values, hvalues⟩ := exists_values hread
  -- the folded text is made of digits, so it is the text of some bytes
  have hdigits : ∀ c ∈ text.map fold, c ∈ alphabet := by
    rw [map_fold_eq_map_digit hvalues]
    exact List.forall_mem_map.2 fun value hvalue =>
      digit_mem_alphabet value (lt_of_map_value? hvalues value hvalue)
  obtain ⟨written, hwritten⟩ := exists_encode_eq hdigits
  obtain ⟨found, hfound, hfold⟩ := exists_decode_map_fold hread
  obtain rfl : found = bytes := Except.ok.inj (hfound.symm.trans h)
  rw [← hwritten, decode_encode, Except.ok.injEq] at hfold
  rw [← hwritten, hfold]

/-! ### Checked text -/

/-- What a version and guarded bytes are read as: the bytes in front of the last four, if those
    guard them. -/
def unguard (version : UInt8) (guarded : Bytes) : Except Fault (UInt8 × Bytes) :=
  if guarded.length < 4 then .error .malformed
  else if guard version (guarded.take (guarded.length - 4)) =
      guarded.drop (guarded.length - 4) then
    .ok (version, guarded.take (guarded.length - 4))
  else .error (.badChecksum (guard version (guarded.take (guarded.length - 4)))
    (guarded.drop (guarded.length - 4)))

/-- What is unguarded is the data in front of its own guard, under the version given. -/
theorem unguard_eq_ok {version found : UInt8} {guarded data : Bytes}
    (h : unguard version guarded = .ok (found, data)) :
    found = version ∧ guarded = data ++ guard version data := by
  unfold unguard at h
  by_cases hlength : guarded.length < 4
  · rw [if_pos hlength] at h
    cases h
  · rw [if_neg hlength] at h
    -- the last four bytes are the guard of those before them
    split at h
    · next hguard =>
      simp only [Except.ok.injEq, Prod.mk.injEq] at h
      obtain ⟨rfl, rfl⟩ := h
      exact ⟨rfl, by rw [hguard, List.take_append_drop]⟩
    · cases h

/-- A version digit is read as a byte of its value, or as no byte if it is a lost zero, which
    counts as zero as well. -/
theorem getLastD_of_decode {c : Char} {value : Nat} {bytes : Bytes}
    (hvalue : value? c = some value) (h : decode [c] = .ok bytes) :
    bytes.getLastD 0 = UInt8.ofNat value := by
  obtain ⟨found, hfound, hfold⟩ := exists_decode_map_fold (readable_of_decode h)
  obtain rfl : found = bytes := Except.ok.inj (hfound.symm.trans h)
  rw [List.map_singleton, fold_eq_digit hvalue, decode_digit (lt_of_value?_eq_some hvalue),
    Except.ok.injEq] at hfold
  -- either the byte is there, or it is the zero that was lost
  cases found with
  | nil =>
    have hmem : UInt8.ofNat value ∈ List.replicate (missed [c]) 0 := by
      rw [← List.append_nil (List.replicate _ _), ← hfold]
      exact List.mem_singleton_self _
    exact (List.eq_of_mem_replicate hmem).symm
  | cons first rest =>
    have hlast := congrArg List.getLast? hfold
    rw [List.getLast?_append_cons, List.getLast?_singleton] at hlast
    rw [List.getLastD_eq_getLast?, ← hlast, Option.getD_some]

/-- **Checked text** is read off the value of its version digit and the bytes of the rest. -/
theorem decodeChecked_eq_unguard {first : Char} {rest : List Char} {value : Nat}
    {guarded : Bytes} (hvalue : value? first = some value) (hrest : decode rest = .ok guarded) :
    decodeChecked (first :: rest) = unguard (UInt8.ofNat value) guarded := by
  have hread : (value? first).isSome := by rw [hvalue, Option.isSome_some]
  obtain ⟨bytes, hfirst, -⟩ := exists_decode_map_fold (List.forall_mem_singleton.2 hread)
  have hascii :=
    any_not_ascii_eq_false (List.forall_mem_cons.2 ⟨hread, readable_of_decode hrest⟩)
  have hversion := getLastD_of_decode hvalue hfirst
  simp only [decodeChecked, hascii, hrest, hfirst, Bool.false_eq_true, if_false, bind,
    Except.bind, hversion]
  rfl

/-- Where no zero in front of the data is lost, checked text is read as its digits are. -/
theorem decodeChecked_map_fold {text : List Char} (h : Readable text)
    (hmissed : missed text.tail = 0) : decodeChecked (text.map fold) = decodeChecked text := by
  cases text with
  | nil => rfl
  | cons first rest =>
    obtain ⟨hfirst, hrest⟩ := List.forall_mem_cons.1 h
    obtain ⟨value, hvalue⟩ := Option.isSome_iff_exists.1 hfirst
    obtain ⟨guarded, hguarded, hfold⟩ := exists_decode_map_fold hrest
    -- folding keeps the version, and no zero is missed behind it
    have hdigit : value? (fold first) = some value := by
      rw [fold_eq_digit hvalue, value?_digit value (lt_of_value?_eq_some hvalue)]
    rw [List.tail_cons] at hmissed
    rw [hmissed, List.replicate_zero, List.nil_append] at hfold
    rw [List.map_cons, decodeChecked_eq_unguard hdigit hfold,
      decodeChecked_eq_unguard hvalue hguarded]

/-- What is read at all as checked text has a digit for the version and bytes behind it. -/
theorem exists_of_decodeChecked {first : Char} {rest : List Char} {found : UInt8 × Bytes}
    (h : decodeChecked (first :: rest) = .ok found) :
    (∃ value, value? first = some value) ∧ ∃ guarded, decode rest = .ok guarded := by
  simp only [decodeChecked] at h
  split_ifs at h
  obtain ⟨guarded, hguarded, h⟩ := Except.bind_eq_ok_iff.1 h
  split_ifs at h
  obtain ⟨bytes, hfirst, -⟩ := Except.bind_eq_ok_iff.1 h
  have hread := readable_of_decode hfirst first (List.mem_singleton_self _)
  exact ⟨Option.isSome_iff_exists.1 hread, guarded, hguarded⟩

/-- Folded, a checked text is the checked text of what it is read as, with the lost zeros in
    front of the data. -/
theorem map_fold_eq_of_decodeChecked {text : List Char} {version : UInt8} {data : Bytes}
    (h : decodeChecked text = .ok (version, data)) :
    text.map fold = digit version.toNat ::
      encode (List.replicate (missed text.tail) 0 ++ (data ++ guard version data)) := by
  cases text with
  | nil => cases h
  | cons first rest =>
    obtain ⟨⟨value, hvalue⟩, guarded, hguarded⟩ := exists_of_decodeChecked h
    -- five bits fit into the byte of the version
    have hback : (UInt8.ofNat value).toNat = value :=
      UInt8.toNat_ofNat_of_lt ((lt_of_value?_eq_some hvalue).trans (by decide))
    rw [decodeChecked_eq_unguard hvalue hguarded] at h
    obtain ⟨rfl, rfl⟩ := unguard_eq_ok h
    rw [List.map_cons, fold_eq_digit hvalue, hback, List.tail_cons, map_fold_eq_encode hguarded]

end Base32

namespace Address

open Base32 (Readable fold missed)

/-! ### Text of an address -/

/-- A text that can be read is ASCII, so its characters are as many as its bytes. -/
theorem utf8Len_eq_length {text : List Char} (h : Readable text) :
    String.utf8Len text = text.length := by
  induction text with
  | nil => rfl
  | cons c text ih =>
    obtain ⟨hc, htext⟩ := List.forall_mem_cons.1 h
    obtain ⟨value, hvalue⟩ := Option.isSome_iff_exists.1 hc
    have hascii : c.toNat < 0x80 := Base32.toNat_lt_of_value?_eq_some hvalue
    have hsize : c.utf8Size = 1 :=
      Char.utf8Size_eq_one_iff.2 (UInt32.le_iff_toNat_le.2 (Nat.le_of_lt_succ hascii))
    rw [String.utf8Len_cons, List.length_cons, ih htext, hsize]

theorem readable_map_fold {text : List Char} (h : Readable text) : Readable (text.map fold) := by
  intro c hc
  obtain ⟨written, hwritten, rfl⟩ := List.mem_map.1 hc
  obtain ⟨value, hvalue⟩ := Option.isSome_iff_exists.1 (h written hwritten)
  rw [Base32.fold_eq_digit hvalue, Base32.value?_digit value (Base32.lt_of_value?_eq_some hvalue),
    Option.isSome_some]

/-- A text of more than four characters is long enough to be an address behind its `S`. -/
theorem lt_utf8ByteSize {text : List Char} (h : Readable text) (hlong : 4 < text.length) :
    ¬ (String.ofList ('S' :: text)).utf8ByteSize ≤ 5 := by
  have hfirst : 'S'.utf8Size = 1 := by decide
  rw [String.utf8ByteSize_ofList, String.utf8Len_cons, utf8Len_eq_length h, hfirst]
  omega

/-- Where no zero in front of the data is lost, the text of an address is read as its digits
    are. -/
theorem readText_map_fold {text : List Char} (h : Readable text) (hlong : 4 < text.length)
    (hmissed : missed text.tail = 0) :
    readText (.ofList ('S' :: text.map fold)) = readText (.ofList ('S' :: text)) := by
  have hlength : 4 < (text.map fold).length := by rwa [List.length_map]
  have htext (cs : List Char) : (String.ofList ('S' :: cs)).toList = 'S' :: cs :=
    String.toList_ofList ..
  simp only [readText, htext, if_neg (lt_utf8ByteSize h hlong),
    if_neg (lt_utf8ByteSize (readable_map_fold h) hlength), Base32.decodeChecked_map_fold h hmissed]

/-- Folded, a text that is read as an address is the text of that address with the lost zeros
    in front of the data. -/
theorem map_fold_eq_of_readText {text : List Char} {version : AddressVersion} {data : Bytes}
    (h : readText (.ofList ('S' :: text)) = .ok (version, data)) :
    text.map fold = Base32.digit (Wire.code version).toNat ::
      Base32.encode (List.replicate (missed text.tail) 0 ++
        (data ++ Base32.guard (Wire.code version) data)) := by
  have htext : (String.ofList ('S' :: text)).toList = 'S' :: text := String.toList_ofList ..
  simp only [readText, htext] at h
  split_ifs at h
  obtain ⟨⟨byte, found⟩, hdecode, h⟩ := Except.bind_eq_ok_iff.1 h
  dsimp only at h
  split at h
  · next known hknown =>
    simp only [Except.ok.injEq, Prod.mk.injEq] at h
    obtain ⟨rfl, rfl⟩ := h
    rw [Wire.ofCode?_eq_some_iff.1 hknown]
    exact Base32.map_fold_eq_of_decodeChecked hdecode
  · cases h

section

variable {text : List Char} {version : AddressVersion} {data : Bytes}
  (h : readText (.ofList ('S' :: text)) = .ok (version, data))

include h

/-- An address is written as the digits that it was read from exactly if none was lost. -/
theorem textOf_eq_map_fold_iff :
    textOf version data = .ofList ('S' :: text.map fold) ↔ missed text.tail = 0 := by
  rw [textOf, String.ofList_inj, map_fold_eq_of_readText h, Base32.encodeChecked,
    List.cons_inj_right, List.cons_inj_right, Base32.encode_injective.eq_iff, eq_comm,
    List.append_left_eq_self, List.replicate_eq_nil_iff]

/-- An address is read from the digits of its text exactly if none is lost. -/
theorem readText_map_fold_eq_ok_iff :
    readText (.ofList ('S' :: text.map fold)) = .ok (version, data) ↔ missed text.tail = 0 := by
  have hcanonical : Canonical (.ofList ('S' :: text.map fold)) := by
    intro c hc
    rw [String.toList_ofList, List.tail_cons, map_fold_eq_of_readText h] at hc
    rcases List.mem_cons.1 hc with rfl | hc
    · exact Base32.digit_mem_alphabet _ (code_toNat_lt version)
    · exact Base32.mem_alphabet_of_mem_encode hc
  rw [readText_eq_ok_iff hcanonical, eq_comm, textOf_eq_map_fold_iff h]

end

/-- **Letters that pass for digits** change nothing about what a text or an address is read
    as, nor about the text that an address is written as, exactly if none of them writes a zero
    in front of the data. -/
theorem decode_readText_map_fold_iff (text : List Char) :
    (Readable text →
      (Base32.decode (text.map fold) = Base32.decode text ↔ missed text = 0)) ∧
    (Readable text → 4 < text.length → missed text.tail = 0 →
      readText (.ofList ('S' :: text.map fold)) = readText (.ofList ('S' :: text))) ∧
    ∀ version data, readText (.ofList ('S' :: text)) = .ok (version, data) →
      (readText (.ofList ('S' :: text.map fold)) = .ok (version, data) ↔
        missed text.tail = 0) ∧
      (textOf version data = .ofList ('S' :: text.map fold) ↔ missed text.tail = 0) :=
  ⟨Base32.decode_map_fold_eq_iff, readText_map_fold, fun _ _ hread =>
    ⟨readText_map_fold_eq_ok_iff hread, textOf_eq_map_fold_iff hread⟩⟩

/-- Letters in the middle and at the end of a text are read as the digits are. -/
theorem decode_map_fold_lettersInside :
    Readable "41o6i06l".toList ∧
      Base32.decode ("41o6i06l".toList.map fold) = Base32.decode "41o6i06l".toList :=
  have hread : Readable "41o6i06l".toList := by decide
  ⟨hread, ((decode_readText_map_fold_iff _).1 hread).2 (by decide)⟩

/-- Not every text is read as its digits are: `O1` is one byte and `01` are two. And an address
    is read with a letter in front of its data that no text of an address has there. -/
theorem not_forall_map_fold :
    (¬ ∀ text, Readable text → Base32.decode (text.map fold) = Base32.decode text) ∧
    ¬ ∀ text version data, readText (.ofList ('S' :: text)) = .ok (version, data) →
      textOf version data = .ofList ('S' :: text.map fold) := by
  constructor
  · intro h
    -- the letter in front stands for a zero, but it adds no byte
    have hread : Readable "O1".toList := by decide
    have hmissed := (Base32.decode_map_fold_eq_iff hread).1 (h _ hread)
    exact absurd hmissed (by decide)
  · intro h
    -- so does the letter behind the version, though a zero there is a byte of the data
    have hok : (readText (.ofList
        ('S' :: "PO2J6ZY48GV1EZ5V2V5RB9MP66SW86PYKKNRV9EJ7".toList))).isOk = true := by
      decide +kernel
    obtain ⟨⟨version, data⟩, hread⟩ := Except.exists_eq_ok_of_isOk hok
    have hmissed := (textOf_eq_map_fold_iff hread).1 (h _ _ _ hread)
    exact absurd hmissed (by decide)

end Address

end Registrar
