import Registrar.Proofs.Value.Limits
import Registrar.Proofs.Value.Literal

namespace Registrar.Value

/-!
# Buffers shown as strings

A buffer of printable bytes may be shown as a string. The literal is then that of another value,
which has strings where the value has such buffers, however deep they stand.

* `Value.IsText`, `Value.textOf` — bytes that read as text, and the text;
* `Value.spelled` — the value with strings in the place of the buffers that read as text;
* `Value.literalChars_spelled` — its literal is the one with the buffers shown as strings, by
  induction on the value;
* `Value.spelled_eq_self_iff` — the values that stay as they are;
* `Value.literal_tryAscii_eq` — so much for the two styles of literals.
-/

/-! ### Bytes that read as text -/

/-- Whether there are bytes and all of them are printable ASCII characters. -/
def IsText (bytes : Bytes) : Prop := bytes ≠ [] ∧ ∀ byte ∈ bytes, 0x20 ≤ byte ∧ byte ≤ 0x7E

instance : DecidablePred IsText := fun bytes =>
  inferInstanceAs (Decidable (bytes ≠ [] ∧ ∀ byte ∈ bytes, 0x20 ≤ byte ∧ byte ≤ 0x7E))

/-- The text with a character for each byte. -/
def textOf (bytes : Bytes) : String := String.ofList (bytes.map fun byte => Char.ofNat byte.toNat)

/-- ASCII bytes are those of the text. -/
theorem bytes_textOf {bytes : Bytes} (h : ∀ byte ∈ bytes, byte < 0x80) :
    Text.bytes (textOf bytes) = bytes := by
  induction bytes with
  | nil => exact Text.bytes_ofList_nil
  | cons byte bytes ih =>
    obtain ⟨hbyte, hbytes⟩ := List.forall_mem_cons.1 h
    -- below 0x80 the number of a character is its only byte
    have hchar : (Char.ofNat byte.toNat).toNat = byte.toNat := toNat_ofNat_byte byte
    have hlt : (Char.ofNat byte.toNat).toNat < 0x80 := by
      rw [hchar]
      exact UInt8.lt_iff_toNat_lt.1 hbyte
    replace ih : Text.bytes (String.ofList (bytes.map fun byte => Char.ofNat byte.toNat)) = bytes :=
      ih hbytes
    rw [textOf, List.map_cons, Text.bytes_ofList_cons, ih, Hex.utf8EncodeChar_of_lt hlt, hchar,
      UInt8.ofNat_toNat, List.singleton_append]

/-- What is shown as text where it can be is what is text: printable and not empty. -/
theorem shownAsText_tryAscii_iff {bytes : Bytes} :
    shownAsText .tryAscii bytes = true ↔ IsText bytes := by
  simp [shownAsText, isPrintable, IsText]

/-! ### Values with strings for buffers -/

mutual

/-- The value with the text of each buffer in it that reads as text in the buffer's place. -/
def spelled : Value → Value
  | buffer bytes => if IsText bytes then ascii (textOf bytes) else buffer bytes
  | response committed data => response committed (spelled data)
  | some value => some (spelled value)
  | list items => list (spelledItems items)
  | tuple ⟨keys, sorted, value⟩ => tuple ⟨keys, sorted, fun i => spelled (value i)⟩
  | int n => int n
  | uint n => uint n
  | bool flag => bool flag
  | principal p => principal p
  | none => none
  | ascii text => ascii text
  | utf8 text => utf8 text
termination_by structural v => v

/-- The items of a list, each with strings for buffers. -/
def spelledItems : List Value → List Value
  | [] => []
  | item :: items => spelled item :: spelledItems items
termination_by structural items => items

end

theorem spelledItems_eq (items : List Value) : spelledItems items = items.map spelled := by
  induction items with
  | nil => rfl
  | cons item items ih => rw [spelledItems, ih, List.map_cons]

/-- **Literals with strings for buffers** are those of the values with strings for buffers. -/
theorem literalChars_spelled (value : Value) :
    literalChars .tryAscii value = literalChars .hex value.spelled := by
  induction value using induction with
  | int | uint | bool | principal | none | ascii | utf8 => rfl
  | buffer bytes =>
    show (if shownAsText .tryAscii bytes then quotedBytes bytes
      else '0' :: 'x' :: bytes.flatMap Hex.digits) = _
    by_cases htext : IsText bytes
    -- printable bytes are below 0x80, so the string has these bytes again
    · have hbytes : Text.bytes (textOf bytes) = bytes :=
        bytes_textOf fun byte hbyte => UInt8.lt_of_le_of_lt (htext.2 byte hbyte).2 (by decide)
      rw [if_pos (shownAsText_tryAscii_iff.2 htext), spelled, if_pos htext]
      show quotedBytes bytes = quotedBytes (Text.bytes (textOf bytes))
      rw [hbytes]
    · rw [if_neg (mt shownAsText_tryAscii_iff.1 htext), spelled, if_neg htext]
      rfl
  | response committed data ih => rw [spelled, literalChars_response, literalChars_response, ih]
  | some value ih => rw [spelled, literalChars_some, literalChars_some, ih]
  | list items ih =>
    show "(list".toList ++ itemsChars .tryAscii items ++ [')'] =
      "(list".toList ++ itemsChars .hex (spelledItems items) ++ [')']
    have hitems : items.flatMap (fun item => ' ' :: literalChars .tryAscii item) =
        items.flatMap fun item => ' ' :: literalChars .hex item.spelled :=
      List.flatMap_congr fun item hitem => congrArg (' ' :: ·) (ih item hitem)
    rw [itemsChars_eq, itemsChars_eq, spelledItems_eq, List.flatMap_map, hitems]
  | tuple entries ih =>
    obtain ⟨keys, sorted, value⟩ := entries
    show "(tuple".toList ++ (List.finRange keys.length).flatMap (fun i =>
        " (".toList ++ keys[i].text.toList ++ [' '] ++ literalChars .tryAscii (value i) ++ [')']) ++
        [')'] =
      "(tuple".toList ++ (List.finRange keys.length).flatMap (fun i =>
        " (".toList ++ keys[i].text.toList ++ [' '] ++ literalChars .hex (value i).spelled ++
          [')']) ++ [')']
    simp only [ih]

/-! ### Values that stay as they are -/

/-- No buffer that stands in the value reads as text. -/
def HasNoText (value : Value) : Prop := ∀ bytes, Inside (buffer bytes) value → ¬ IsText bytes

/-- A value holds no text exactly if it is none and none of the values in it holds any. -/
theorem hasNoText_iff {value : Value} : value.HasNoText ↔
    (∀ bytes, value = buffer bytes → ¬ IsText bytes) ∧
      ∀ child ∈ value.children, child.HasNoText := by
  have hinside (value : Value) : value.HasNoText ↔
      ∀ inner, Inside inner value → ∀ bytes, inner = buffer bytes → ¬ IsText bytes := by
    constructor
    · rintro h _ hinner bytes rfl
      exact h bytes hinner
    · intro h bytes hbytes
      exact h _ hbytes bytes rfl
  simp only [hinside]
  exact forall_inside

/-- A value stays as it is exactly if none of its buffers reads as text. -/
theorem spelled_eq_self_iff {value : Value} : value.spelled = value ↔ value.HasNoText := by
  induction value using induction with
  | int | uint | bool | principal | none | ascii | utf8 =>
    rw [hasNoText_iff]
    simp [spelled, children]
  | buffer bytes =>
    rw [hasNoText_iff, spelled]
    by_cases htext : IsText bytes <;> simp [children, htext]
  | response committed data ih =>
    rw [hasNoText_iff, spelled]
    simp [children, ih]
  | some value ih =>
    rw [hasNoText_iff, spelled]
    simp [children, ih]
  | list items ih =>
    have hitems : items.map spelled = items ↔ ∀ item ∈ items, item.spelled = item := by
      simpa only [List.map_id_fun, id_eq] using
        List.map_inj_left (l := items) (f := spelled) (g := id)
    rw [hasNoText_iff, spelled, spelledItems_eq, list.injEq, hitems, forall₂_congr ih]
    simp [children]
  | tuple entries ih =>
    obtain ⟨keys, sorted, value⟩ := entries
    rw [hasNoText_iff, spelled]
    simp [children, Tuple.toList_eq_map, funext_iff, ih]

/-! ### The two styles -/

/-- **Buffers shown as strings.** The literal with the buffers that read as text shown as
    strings is the one in hexadecimal of the value that has these strings in the buffers' place.
    It is the one of the value itself exactly if no buffer in the value, at any depth, reads as
    text. -/
theorem literal_tryAscii_eq (value : Value) :
    value.literal .tryAscii = value.spelled.literal .hex ∧
    (value.literal .tryAscii = value.literal .hex ↔
      ∀ bytes, Inside (buffer bytes) value → ¬ IsText bytes) := by
  have hspelled : value.literal .tryAscii = value.spelled.literal .hex :=
    congrArg String.ofList (literalChars_spelled value)
  refine ⟨hspelled, ?_⟩
  rw [hspelled]
  constructor
  · intro h
    -- literals are unambiguous, so one that is the same is one of the same value
    have hchars : literalChars .hex value.spelled ++ [] = literalChars .hex value ++ [] := by
      rw [String.ofList_inj.1 h]
    exact spelled_eq_self_iff.1
      (literalChars_unambiguous _ _ [] [] Text.stopped_nil Text.stopped_nil hchars).1
  · intro h
    rw [spelled_eq_self_iff.2 h]

/-- Inside other values too, a quotation mark in a buffer is escaped as one in a string, and a
    byte that is not printable keeps its buffer in hexadecimal. -/
example : literalChars .tryAscii (list [some (buffer [0x68, 0x22]), buffer [0x68, 0x7F]]) =
    "(list (some \"h\\\"\") 0x687f)".toList := by decide

end Registrar.Value
