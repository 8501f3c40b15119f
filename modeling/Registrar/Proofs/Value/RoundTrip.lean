import Registrar.Proofs.Hex
import Registrar.Proofs.Principal
import Registrar.Proofs.Tuple
import Registrar.Value.Wire

namespace Registrar.Value

open Wire
open Wire.Decoder (Reads)

/-!
# Values are read back

* `decodeContent_reads` — what follows the type tag is read back, if the values
  inside are;
* `decodeWithin_reads` — so is a value with any number of levels to spare, by
  induction on the levels;
* `decode_encode_append` — a value is read from the front of any input that starts
  with its wire form, a whole input is the value, and so is its hexadecimal text.
-/

/-! ### Words, counted bytes and texts -/

/-- A number of sixteen bytes is read back. -/
theorem word_reads (wrap : BitVec 128 → Value) (number : BitVec 128) :
    (do return wrap (BitVec.ofNat 128 (← Decoder.natural 16)) : Decoder Value).Reads
      (Bytes.ofNat 16 number.toNat) (wrap number) := by
  have hback : BitVec.ofNat 128 number.toNat = number := by
    rw [BitVec.ofNat_toNat, BitVec.setWidth_eq]
  exact .integer number.isLt (congrArg wrap hback)

/-- Bytes are read back behind their number. -/
theorem decodeCounted_reads {bytes written : Bytes} (h : encodeCounted bytes = .ok written) :
    decodeCounted.Reads written bytes := by
  simp only [encodeCounted, joined_cons_eq_ok, joined_nil, Except.ok.injEq] at h
  obtain ⟨_, _, hlength, ⟨_, _, rfl, rfl, rfl⟩, rfl⟩ := h
  rw [List.append_nil]
  exact (decodeLength_reads hlength).bind (.bytes rfl)

/-- A text is read back, as an ASCII string only if it is one. -/
theorem decodeText_reads {ascii : Bool} {text : String} {written : Bytes}
    (hascii : ascii = true → Text.isAscii (Text.bytes text) = true)
    (h : encodeCounted (Text.bytes text) = .ok written) :
    (decodeText ascii).Reads written text := by
  refine .position fun start => ?_
  refine (decodeCounted_reads h).last ?_
  -- text that is meant to be ASCII is, so the check lets it pass
  have hcheck : (ascii && !Text.isAscii (Text.bytes text)) = false := by
    cases ascii with
    | false => rfl
    | true => simp [hascii rfl]
  simp only [hcheck, Bool.false_eq_true, if_false, Text.ofBytes_bytes]
  exact .pure text

/-! ### Values with levels to spare -/

/-- An entry is read back if its value is. -/
theorem decodeEntry_reads {decodeValue : Decoder Value}
    {encodeValue : Value → Except EncodeFault Bytes} {entry : Tuple.Entry Value} {bytes : Bytes}
    (hvalue : ∀ written, encodeValue entry.2 = .ok written → decodeValue.Reads written entry.2)
    (h : encodeEntry encodeValue entry = .ok bytes) :
    (decodeEntry decodeValue).Reads bytes entry := by
  simp only [encodeEntry, joined_cons_eq_ok, joined_nil, Except.ok.injEq] at h
  obtain ⟨_, _, hkey, ⟨_, _, hinner, rfl, rfl⟩, rfl⟩ := h
  exact (reads hkey).bind ((hvalue _ hinner).bind (.pure entry))

/-- **What follows the type tag** is read back if the values inside are. -/
theorem decodeContent_reads {decodeValue : Decoder Value}
    {encodeValue : Value → Except EncodeFault Bytes}
    (hvalue : ∀ value written, encodeValue value = .ok written → decodeValue.Reads written value)
    {value : Value} {bytes : Bytes} (offset : Nat)
    (h : encodeContent encodeValue value = .ok bytes) :
    (decodeContent decodeValue offset value.kind).Reads bytes value := by
  cases value with
  | int number =>
    obtain rfl := Except.ok.inj h
    exact word_reads int number
  | uint number =>
    obtain rfl := Except.ok.inj h
    exact word_reads uint number
  | bool flag =>
    obtain rfl := Except.ok.inj h
    cases flag <;> exact .pure _
  | buffer content => exact (decodeCounted_reads h).map buffer
  | principal p =>
    have hbody := (Principal.body_reads h).map principal
    cases p <;> exact hbody
  | response committed data =>
    have hdata := (hvalue data bytes h).map (response committed)
    cases committed <;> exact hdata
  | none =>
    obtain rfl := Except.ok.inj h
    exact .pure none
  | some inner => exact (hvalue inner bytes h).map some
  | list items =>
    obtain ⟨front, back, hlength, hitems, rfl⟩ := joined_cons_eq_ok.1 h
    refine (decodeLength_reads hlength).bind ?_
    exact (Reads.times (fun item _ => hvalue item) hitems).map list
  | tuple entries =>
    obtain ⟨front, back, hlength, hentries, rfl⟩ := joined_cons_eq_ok.1 h
    rw [← Tuple.length_toList] at hlength
    refine (decodeLength_reads hlength).bind ?_
    refine (Reads.times (fun entry _ _ => decodeEntry_reads (hvalue entry.2)) hentries).last ?_
    -- the entries come out in key order, in which they make the tuple again
    simp only [Tuple.ofEntries_toList]
    exact .pure (tuple entries)
  | ascii text =>
    simp only [encodeContent] at h
    split at h
    · next hascii => exact (decodeText_reads (fun _ => hascii) h).map ascii
    · simp at h
  | utf8 text => exact (decodeText_reads (by simp) h).map utf8

/-- **Values with levels to spare** are read back with as many levels. -/
theorem decodeWithin_reads {levels : Nat} {value : Value} {bytes : Bytes}
    (h : encodeWithin levels value = .ok bytes) : (decodeWithin levels).Reads bytes value := by
  -- on the levels that are left; what is in a value has one less
  induction levels generalizing value bytes with
  | zero => simp [encodeWithin] at h
  | succ levels ih =>
    simp only [encodeWithin, joined_cons_eq_ok, joined_nil, Except.ok.injEq] at h
    obtain ⟨_, _, rfl, ⟨_, _, hcontent, rfl, rfl⟩, rfl⟩ := h
    rw [List.append_nil]
    refine Reads.code value.kind fun offset => ?_
    exact decodeContent_reads (fun _ _ => ih) offset hcontent

instance : RoundTrip Value where
  reads := decodeWithin_reads

/-! ### Values on a stream, in a whole input and as hexadecimal text -/

/-- **A value is read back** from the front of any input that starts with its wire
    form, which is all that is taken; alone the wire form is the value, with bytes
    behind it they are counted, and its digits are the value with and without `0x`. -/
theorem decode_encode_append {value : Value} {bytes : Bytes} (h : encode value = .ok bytes) :
    (∀ suffix, (decode : Decoder Value).run (.start (bytes ++ suffix)) =
      (.ok value, ⟨bytes.length, suffix⟩)) ∧
    ofBytes bytes = .ok value ∧
    (∀ suffix ≠ [], (ofBytes (bytes ++ suffix) : Except DecodeFault Value) =
      .error (.trailingBytes suffix.length)) ∧
    ∃ text, toHex value = .ok text ∧ ofHex text = .ok value ∧ ofHex ("0x" ++ text) = .ok value := by
  have hreads : (decode : Decoder Value).Reads bytes value := reads h
  have hwhole := ofBytes_of_reads hreads
  refine ⟨fun suffix => ?_, hwhole, fun suffix => ofBytes_append_of_reads hreads, ?_⟩
  · have hrun := hreads 0 suffix
    rwa [Nat.zero_add] at hrun
  · refine ⟨Hex.encode bytes, by simp only [toHex, h], ?_, ?_⟩
    · exact ofHex_of_decodeTagged (Hex.decodeTagged_encode bytes) hwhole
    · exact ofHex_of_decodeTagged (Hex.decodeTagged_tagged_encode bytes) hwhole

/-- A name for the samples. -/
def nameA : ClarityName := ⟨"a", by decide⟩

/-- A name behind it. -/
def nameB : ClarityName := ⟨"b", by decide⟩

/-- A tuple with a list, a negative number, a text beyond ASCII and a buffer in it. -/
def nestedValue : Value :=
  tuple (.ofIncreasing
    [(nameA, list [int (-1), some (utf8 "é")]), (nameB, buffer [1, 2])] (by decide))

/-- Its wire form. -/
def nestedBytes : Bytes :=
  [12, 0, 0, 0, 2, 1, 97, 11, 0, 0, 0, 2] ++ (0 :: List.replicate 16 255) ++
    [10, 14, 0, 0, 0, 2, 195, 169, 1, 98, 2, 0, 0, 0, 2, 1, 2]

/-- A value with every kind of nesting, alone and in front of other bytes, and as text. -/
theorem decode_encode_nestedValue :
    encode nestedValue = .ok nestedBytes ∧
      (decode : Decoder Value).run (.start (nestedBytes ++ [3, 4])) =
        (.ok nestedValue, ⟨46, [3, 4]⟩) ∧
      ofBytes nestedBytes = .ok nestedValue ∧
      (ofBytes (nestedBytes ++ [3, 4]) : Except DecodeFault Value) = .error (.trailingBytes 2) ∧
      ∃ text, toHex nestedValue = .ok text ∧ ofHex ("0x" ++ text) = .ok nestedValue := by
  have hencode : encode nestedValue = .ok nestedBytes := by rfl
  obtain ⟨hstream, hwhole, htrailing, text, htext, -, htagged⟩ := decode_encode_append hencode
  exact ⟨hencode, hstream [3, 4], hwhole, htrailing [3, 4] (by decide), text, htext, htagged⟩

end Registrar.Value
