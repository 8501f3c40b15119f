import Mathlib
import Registrar.Proofs.Hex
import Registrar.Proofs.Principal.Text
import Registrar.Proofs.Text.Unambiguous
import Registrar.Proofs.Tuple
import Registrar.Value.Literal

namespace Registrar

/-!
# Literals are unambiguous

Literals stand inside one another between blanks and parentheses, and strings may hold both. So
a literal has to tell where it ends, whatever stands behind it.

* `Value.unescape_escapeByte`, `Value.escapeChar_unambiguous` — each character inside quotation
  marks tells where it ends, and none looks like a quotation mark;
* `Value.shapeOf_literalChars` — a literal tells the sort of its value by what it starts with;
* `Value.word_unambiguous` — numbers, flags, buffers and principals are words that end at a
  blank or at a parenthesis;
* `Value.literalChars_unambiguous` — so a literal is one of a single value and ends at a single
  place, by induction on the value;
* `Value.toText_eq_iff` — and values are known by their literals.
-/

namespace Value

open Text (Unambiguous Stopped)

/-! ### Strings -/

/-- The number that a hexadecimal digit stands for. -/
def nibble (c : Char) : UInt8 := (Hex.value? (UInt8.ofNat c.toNat)).getD 0

/-- The byte that a text starts with inside quotation marks, and what stands behind it. -/
def unescape : List Char → UInt8 × List Char
  | '\\' :: 't' :: rest => (9, rest)
  | '\\' :: 'r' :: rest => (13, rest)
  | '\\' :: 'n' :: rest => (10, rest)
  | '\\' :: 'x' :: high :: low :: rest => (nibble high * 16 + nibble low, rest)
  | '\\' :: c :: rest => (UInt8.ofNat c.toNat, rest)
  | c :: rest => (UInt8.ofNat c.toNat, rest)
  | [] => (0, [])

theorem nibble_digit {n : UInt8} (h : n < 16) : nibble (Hex.digit n) = n := by
  have hall : ∀ k < 16, nibble (Hex.digit (UInt8.ofNat k)) = UInt8.ofNat k := by decide
  rw [← UInt8.ofNat_toNat (x := n)]
  exact hall n.toNat (UInt8.lt_iff_toNat_lt.1 h)

theorem toNat_ofNat_byte (byte : UInt8) : (Char.ofNat byte.toNat).toNat = byte.toNat := by
  have hvalid : byte.toNat.isValidChar := .inl (byte.toNat_lt.trans (by decide))
  rw [Char.ofNat, dif_pos hvalid]
  rfl

/-- A byte inside quotation marks is read back, whatever stands behind it. -/
theorem unescape_escapeByte (byte : UInt8) (rest : List Char) :
    unescape (escapeByte byte ++ rest) = (byte, rest) := by
  unfold escapeByte
  split_ifs with htab hreturn hbreak hmark hprintable
  · rw [htab]
    rfl
  · rw [hreturn]
    rfl
  · rw [hbreak]
    rfl
  · simp only [Bool.or_eq_true, decide_eq_true_eq] at hmark
    rcases hmark with (rfl | rfl) | rfl <;> rfl
  · -- a printable byte is its own character, and no backslash
    have hchar : (Char.ofNat byte.toNat).toNat = byte.toNat := toNat_ofNat_byte byte
    have hne : Char.ofNat byte.toNat ≠ '\\' := by
      intro h
      rw [h] at hchar
      simp [← UInt8.toNat_inj, ← hchar] at hmark
    simp [unescape, hne, hchar]
  · obtain ⟨hhigh, hlow⟩ := Hex.halves_lt byte
    show (nibble (Hex.digit (byte / 16)) * 16 + nibble (Hex.digit (byte % 16)), rest) = _
    rw [nibble_digit hhigh, nibble_digit hlow, Hex.halves_eq]

/-- Each byte is read back from its escape, whatever follows. -/
theorem escapeByte_unambiguous (byte : UInt8) : Unambiguous (fun _ => True) escapeByte byte := by
  intro other r s _ _ h
  have hread := congrArg unescape h
  rw [unescape_escapeByte, unescape_escapeByte, Prod.mk.injEq] at hread
  exact hread

/-- No byte inside quotation marks looks like the one that ends them. -/
theorem escapeByte_append_ne (byte : UInt8) (r s : List Char) :
    escapeByte byte ++ r ≠ '"' :: s := by
  intro h
  have hread := congrArg unescape h
  rw [unescape_escapeByte] at hread
  obtain rfl : byte = 34 := congrArg Prod.fst hread
  exact absurd (List.cons.inj h).1 (by decide)

/-- No byte inside quotation marks looks like the number of a character. -/
theorem escapeByte_append_ne_number (byte : UInt8) (r s : List Char) :
    escapeByte byte ++ r ≠ '\\' :: 'u' :: s := by
  intro h
  have hread := congrArg unescape h
  rw [unescape_escapeByte] at hread
  obtain rfl : byte = 117 := congrArg Prod.fst hread
  exact absurd (List.cons.inj h).1 (by decide)

/-- Each character is read back from its escape, whatever follows. -/
theorem escapeChar_unambiguous (c : Char) : Unambiguous (fun _ => True) escapeChar c := by
  intro d r s _ _ h
  unfold escapeChar at h
  split_ifs at h with hc hd hd
  · obtain ⟨hbyte, hrest⟩ := escapeByte_unambiguous _ _ _ _ trivial trivial h
    refine ⟨Char.toNat_inj.1 ?_, hrest⟩
    have hback {n : Nat} (hn : n < 0x80) : (UInt8.ofNat n).toNat = n :=
      UInt8.toNat_ofNat_of_lt (hn.trans (by decide))
    rw [← hback hc, ← hback hd, hbyte]
  · exact absurd h (escapeByte_append_ne_number _ _ _)
  · exact absurd h.symm (escapeByte_append_ne_number _ _ _)
  · -- the digits end at the brace
    simp only [List.cons_append, List.append_assoc, List.cons_inj_right, List.nil_append] at h
    have hdigits (n : Nat) : ∀ digit ∈ Nat.toDigits 16 n, ¬ digit = '\x7d' := by
      rintro _ hdigit rfl
      obtain ⟨digit, hlt, hbrace⟩ := Text.exists_digitChar_eq_of_mem (by decide) hdigit
      revert digit
      decide
    obtain ⟨hnumber, hrest⟩ := Text.append_inj_of_stop (hdigits _) (hdigits _)
      (Text.stopped_self _ r) (Text.stopped_self _ s) h
    exact ⟨Char.toNat_inj.1 (Text.toDigits_injective (by decide) (by decide) hnumber),
      (List.cons.inj hrest).2⟩

/-- No escape of a character begins with a quote, so the quote that ends a text is found. -/
theorem escapeChar_append_ne (c : Char) (r s : List Char) : escapeChar c ++ r ≠ '"' :: s := by
  unfold escapeChar
  split
  · exact escapeByte_append_ne _ r s
  · simp

/-- A string of bytes ends at its second quotation mark. -/
theorem quotedBytes_append_inj {bytes other : Bytes} {r s : List Char}
    (h : quotedBytes bytes ++ r = quotedBytes other ++ s) : bytes = other ∧ r = s := by
  simp only [quotedBytes, List.cons_append, List.append_assoc, List.nil_append,
    List.cons_inj_right] at h
  exact Unambiguous.flatMap escapeByte_append_ne (fun _ => trivial) (fun _ _ => trivial)
    (fun byte _ => escapeByte_unambiguous byte) h

/-- A string of characters, behind its letter, ends at its second quotation mark. -/
theorem quotedChars_append_inj {chars other r s : List Char}
    (h : 'u' :: '"' :: chars.flatMap escapeChar ++ ['"'] ++ r =
      'u' :: '"' :: other.flatMap escapeChar ++ ['"'] ++ s) : chars = other ∧ r = s := by
  simp only [List.cons_append, List.append_assoc, List.nil_append, List.cons_inj_right] at h
  exact Unambiguous.flatMap escapeChar_append_ne (fun _ => trivial) (fun _ _ => trivial)
    (fun c _ => escapeChar_unambiguous c) h

/-! ### The literals of the sorts of values

Each holds by unfolding. The equations that the definition would generate spell out every text in
it, which is slow. -/

section

variable {style : BufferStyle}

theorem literalChars_int (n : BitVec 128) :
    literalChars style (int n) = n.toInt.repr.toList := rfl

theorem literalChars_uint (n : BitVec 128) :
    literalChars style (uint n) = 'u' :: n.toNat.repr.toList := rfl

theorem literalChars_principal (p : Principal) :
    literalChars style (principal p) = p.toText.toList := rfl

theorem literalChars_response (committed : Bool) (data : Value) :
    literalChars style (response committed data) =
      (if committed then "(ok " else "(err ").toList ++ literalChars style data ++ [')'] := rfl

theorem literalChars_some (value : Value) :
    literalChars style (some value) = "(some ".toList ++ literalChars style value ++ [')'] := rfl

/-- Items are written with a blank in front of each. -/
theorem itemsChars_eq (items : List Value) :
    itemsChars style items = items.flatMap fun item => ' ' :: literalChars style item := by
  induction items with
  | nil => rfl
  | cons item items ih =>
    show ' ' :: literalChars style item ++ itemsChars style items = _
    rw [ih, List.flatMap_cons]

end

/-- The characters of an item of a list, behind a blank. -/
def itemChars (item : Value) : List Char := ' ' :: literalChars .hex item

/-- A list is written as the word, its items and a bracket. -/
theorem literalChars_list (items : List Value) :
    literalChars .hex (list items) = "(list".toList ++ items.flatMap itemChars ++ [')'] := by
  show "(list".toList ++ itemsChars .hex items ++ [')'] = _
  rw [itemsChars_eq]
  rfl

/-- The characters of an entry of a tuple, behind a blank. -/
def entryChars (entry : Tuple.Entry Value) : List Char :=
  " (".toList ++ entry.1.text.toList ++ [' '] ++ literalChars .hex entry.2 ++ [')']

/-- A tuple is written as the word, its entries and a bracket. -/
theorem literalChars_tuple (entries : Tuple Value) :
    literalChars .hex (tuple entries) =
      "(tuple".toList ++ entries.toList.flatMap entryChars ++ [')'] := by
  obtain ⟨keys, sorted, value⟩ := entries
  rw [Tuple.toList_eq_map, List.flatMap_map]
  rfl

/-! ### What a literal starts with -/

/-- The sorts of values that literals tell by what they start with. -/
inductive Shape where
  | int | uint | bool | buffer | principal | response | none | some | list | tuple | ascii | utf8
deriving DecidableEq

/-- The sort of a value. -/
def shape : Value → Shape
  | int _ => .int
  | uint _ => .uint
  | bool _ => .bool
  | buffer _ => .buffer
  | principal _ => .principal
  | response _ _ => .response
  | none => .none
  | some _ => .some
  | list _ => .list
  | tuple _ => .tuple
  | ascii _ => .ascii
  | utf8 _ => .utf8

/-- The sort of the value whose literal a text starts with. -/
def shapeOf : List Char → Shape
  | '"' :: _ => .ascii
  | '(' :: 's' :: _ => .some
  | '(' :: 'l' :: _ => .list
  | '(' :: 't' :: _ => .tuple
  | '(' :: _ => .response
  | 'S' :: _ => .principal
  | 'n' :: _ => .none
  | 't' :: _ => .bool
  | 'f' :: _ => .bool
  | 'u' :: '"' :: _ => .utf8
  | 'u' :: _ => .uint
  | _ :: 'x' :: _ => .buffer
  | _ => .int

/-- A blank or a closing parenthesis, with which a literal ends inside another one. -/
def IsStop (c : Char) : Prop := c = ' ' ∨ c = ')'

instance : DecidablePred IsStop := fun c => inferInstanceAs (Decidable (c = ' ' ∨ c = ')'))

/-- A digit or a minus begins a number with a sign, unless it is the front of `0x`. -/
theorem shapeOf_number {c : Char} {rest : List Char} (hc : c = '-' ∨ c.isDigit = true)
    (hrest : 'x' ∉ rest.head?) : shapeOf (c :: rest) = .int := by
  unfold shapeOf
  split <;> simp_all

/-- A `u` with a digit behind it begins a number without a sign. -/
theorem shapeOf_unsigned {c : Char} (hc : c.isDigit = true) (rest : List Char) :
    shapeOf ('u' :: c :: rest) = .uint := by
  unfold shapeOf
  split <;> simp_all

/-- A literal tells the sort of its value by what it starts with, whatever stops it. -/
theorem shapeOf_literalChars (value : Value) {rest : List Char} (hrest : Stopped IsStop rest) :
    shapeOf (literalChars .hex value ++ rest) = value.shape := by
  cases value with
  | int n =>
    obtain ⟨first, digits, htext, hfirst, hdigits⟩ := Text.exists_intRepr_eq_cons n.toInt
    rw [literalChars_int, htext]
    -- a buffer has its tag in second place, where a number goes on with a digit or ends
    refine shapeOf_number hfirst fun hx => ?_
    cases digits with
    | nil => exact absurd (hrest _ hx) (by decide)
    | cons c digits =>
      obtain rfl : c = 'x' := Option.some.inj hx
      exact absurd (hdigits _ List.mem_cons_self) (by decide)
  | uint n =>
    obtain ⟨first, digits, htext⟩ := Text.exists_natRepr_eq_cons n.toNat
    have hfirst : first.isDigit = true := Text.isDigit_of_mem_repr (htext ▸ List.mem_cons_self)
    rw [literalChars_uint, htext]
    exact shapeOf_unsigned hfirst _
  | bool flag => cases flag <;> rfl
  | buffer bytes => rfl
  | principal p =>
    obtain ⟨text, htext⟩ := p.exists_toText_eq_cons
    rw [literalChars_principal, htext]
    rfl
  | response committed data => cases committed <;> rfl
  | none => rfl
  | some v => rfl
  | list items => rfl
  | tuple entries => rfl
  | ascii text => rfl
  | utf8 text => rfl

/-- So literals that begin one text are of one shape. -/
theorem shape_eq_of_append_eq {value other : Value} {r s : List Char}
    (hr : Stopped IsStop r) (hs : Stopped IsStop s)
    (h : literalChars .hex value ++ r = literalChars .hex other ++ s) :
    value.shape = other.shape := by
  rw [← shapeOf_literalChars value hr, h, shapeOf_literalChars other hs]

/-! ### Words -/

/-- Whether literals of a sort are words, without blanks and parentheses. -/
def Shape.isWord : Shape → Bool
  | int | uint | bool | buffer | principal | none => true
  | response | some | list | tuple | ascii | utf8 => false

theorem not_isStop_of_isAlphanum {c : Char} (h : c.isAlphanum = true) : ¬ IsStop c := by
  rintro (rfl | rfl) <;> exact absurd h (by decide)

/-- Within a literal that is one word nothing ends it. -/
theorem not_isStop_of_mem_literalChars {value : Value} (h : value.shape.isWord = true) :
    ∀ c ∈ literalChars .hex value, ¬ IsStop c := by
  -- words are made of letters and digits, but for a few signs that are no stops either
  cases value with
  | int n =>
    intro c hc
    rw [literalChars_int] at hc
    rcases Text.eq_minus_or_isDigit_of_mem_repr hc with rfl | hdigit
    · decide
    · exact not_isStop_of_isAlphanum (by simp [Char.isAlphanum, hdigit])
  | uint n =>
    intro c hc
    rw [literalChars_uint] at hc
    rcases List.mem_cons.1 hc with rfl | hc
    · decide
    · exact not_isStop_of_isAlphanum (by simp [Char.isAlphanum, Text.isDigit_of_mem_repr hc])
  | bool flag => cases flag <;> exact List.all_iff_forall_prop.1 (by decide)
  | buffer bytes =>
    intro c hc
    replace hc : c ∈ ['0', 'x'] ++ bytes.flatMap Hex.digits := hc
    rcases List.mem_append.1 hc with hc | hc
    · have htag : ∀ c ∈ ['0', 'x'], ¬ IsStop c := List.all_iff_forall_prop.1 (by decide)
      exact htag c hc
    · exact not_isStop_of_isAlphanum (Hex.isAlphanum_of_mem_encode hc)
  | principal p =>
    intro c hc
    rcases p.forall_mem_toText c hc with halnum | hsign
    · exact not_isStop_of_isAlphanum halnum
    · have hall : ∀ sign ∈ ['.', '_', '-'], ¬ IsStop sign :=
        List.all_iff_forall_prop.1 (by decide)
      exact hall c hsign
  | none => exact List.all_iff_forall_prop.1 (by decide)
  | _ => cases h

/-- Values whose literals are words are known by them. -/
theorem eq_of_literalChars_eq {value other : Value} (hword : value.shape.isWord = true)
    (hshape : value.shape = other.shape)
    (h : literalChars .hex value = literalChars .hex other) : value = other := by
  cases value with
  | int m =>
    cases other with
    | int n =>
      rw [literalChars_int, literalChars_int, String.toList_inj] at h
      rw [BitVec.eq_of_toInt_eq (Int.repr_injective h)]
    | _ => cases hshape
  | uint m =>
    cases other with
    | uint n =>
      rw [literalChars_uint, literalChars_uint, List.cons_inj_right, String.toList_inj] at h
      rw [BitVec.eq_of_toNat_eq (Nat.repr_injective h)]
    | _ => cases hshape
  | bool a =>
    cases other with
    | bool b =>
      revert h
      cases a <;> cases b <;> decide
    | _ => cases hshape
  | buffer a =>
    cases other with
    | buffer b =>
      have hdigits : a.flatMap Hex.digits = b.flatMap Hex.digits :=
        (List.cons.inj (List.cons.inj h).2).2
      rw [Hex.encode_injective (congrArg String.ofList hdigits)]
    | _ => cases hshape
  | principal p =>
    cases other with
    | principal q => rw [Principal.toText_injective (String.toList_inj.1 h)]
    | _ => cases hshape
  | none =>
    cases other with
    | none => rfl
    | _ => cases hshape
  | _ => cases hword

/-- A value whose literal is a word is known by it, whatever stops the word. -/
theorem word_unambiguous {value : Value} (hword : value.shape.isWord = true) :
    Unambiguous (Stopped IsStop) (literalChars .hex) value := by
  intro other r s hr hs h
  have hshape := shape_eq_of_append_eq hr hs h
  obtain ⟨htext, hrest⟩ := Text.append_inj_of_stop (not_isStop_of_mem_literalChars hword)
    (not_isStop_of_mem_literalChars (hshape ▸ hword)) hr hs h
  exact ⟨eq_of_literalChars_eq hword hshape htext, hrest⟩

/-! ### Composed values -/

/-- A literal ends at a blank. -/
theorem stopped_blank (text : List Char) : Stopped IsStop (' ' :: text) :=
  Text.stopped_cons (.inl rfl) text

theorem stopped_close (text : List Char) : Stopped IsStop (')' :: text) :=
  Text.stopped_cons (.inr rfl) text

/-- An item is as unambiguous as the value in it, as the blank in front is always there. -/
theorem item_unambiguous {item : Value}
    (h : Unambiguous (Stopped IsStop) (literalChars .hex) item) :
    Unambiguous (Stopped IsStop) itemChars item := by
  intro other r s hr hs heq
  exact h other r s hr hs (List.cons.inj heq).2

/-- A key ends at the blank behind it, and the value at the parenthesis behind it. -/
theorem entry_unambiguous {entry : Tuple.Entry Value}
    (h : Unambiguous (Stopped IsStop) (literalChars .hex) entry.2) :
    Unambiguous (Stopped IsStop) entryChars entry := by
  rintro ⟨otherKey, other⟩ r s - - heq
  obtain ⟨key, value⟩ := entry
  have hword (name : ClarityName) : ∀ c ∈ name.text.toList, ¬ IsStop c := by
    intro c hc
    rcases name.forall_mem_clarity c hc with halnum | hsign
    · exact not_isStop_of_isAlphanum halnum
    · have hall : ∀ sign ∈ "-_!?+<>=/*".toList, ¬ IsStop sign :=
        List.all_iff_forall_prop.1 (by decide)
      exact hall c hsign
  simp only [entryChars, List.append_assoc, List.append_cancel_left_eq, List.cons_append,
    List.nil_append] at heq
  -- the key ends at the blank, and what comes behind it ends at the parenthesis
  obtain ⟨hkey, hvalue⟩ := Text.append_inj_of_stop (hword key) (hword otherKey)
    (stopped_blank _) (stopped_blank _) heq
  obtain ⟨rfl, hrest⟩ := h _ _ _ (stopped_close r) (stopped_close s) (List.cons.inj hvalue).2
  exact ⟨by rw [Name.text_injective (String.toList_inj.1 hkey)], (List.cons.inj hrest).2⟩

/-- **A literal** is one of a single value, and ends at a single place. -/
theorem literalChars_unambiguous (value : Value) :
    Unambiguous (Stopped IsStop) (literalChars .hex) value := by
  -- a word ends at the first stop; what is put together ends with what it opened
  induction value using induction with
  | int | uint | bool | buffer | principal | none => exact word_unambiguous rfl
  | response committed data ih =>
    intro other r s hr hs h
    have hshape := shape_eq_of_append_eq hr hs h
    cases other with
    | response kept other =>
      simp only [literalChars_response, List.append_assoc, List.cons_append, List.nil_append] at h
      -- the word behind the parenthesis says which side the response is on
      obtain rfl : committed = kept := by
        cases committed <;> cases kept <;> simp at h ⊢
      obtain ⟨rfl, hrest⟩ := ih _ _ _ (stopped_close r) (stopped_close s)
        (List.append_cancel_left h)
      exact ⟨rfl, (List.cons.inj hrest).2⟩
    | _ => cases hshape
  | some value ih =>
    intro other r s hr hs h
    have hshape := shape_eq_of_append_eq hr hs h
    cases other with
    | some other =>
      simp only [literalChars_some, List.append_assoc, List.cons_append, List.nil_append] at h
      obtain ⟨rfl, hrest⟩ := ih _ _ _ (stopped_close r) (stopped_close s)
        (List.append_cancel_left h)
      exact ⟨rfl, (List.cons.inj hrest).2⟩
    | _ => cases hshape
  | list items ih =>
    intro other r s hr hs h
    have hshape := shape_eq_of_append_eq hr hs h
    cases other with
    | list others =>
      simp only [literalChars_list, List.append_assoc, List.cons_append, List.nil_append] at h
      obtain ⟨rfl, hrest⟩ := Unambiguous.flatMap (by simp [itemChars]) stopped_close
        (fun item _ => stopped_blank _) (fun item hitem => item_unambiguous (ih item hitem))
        (List.append_cancel_left h)
      exact ⟨rfl, hrest⟩
    | _ => cases hshape
  | tuple entries ih =>
    intro other r s hr hs h
    have hshape := shape_eq_of_append_eq hr hs h
    have hentries : ∀ entry ∈ entries.toList,
        Unambiguous (Stopped IsStop) (literalChars .hex) entry.2 := Tuple.forall_mem_toList _ ih
    cases other with
    | tuple others =>
      simp only [literalChars_tuple, List.append_assoc, List.cons_append, List.nil_append] at h
      obtain ⟨htuple, hrest⟩ := Unambiguous.flatMap (by simp [entryChars]) stopped_close
        (fun entry _ => stopped_blank _)
        (fun entry hentry => entry_unambiguous (hentries entry hentry))
        (List.append_cancel_left h)
      exact ⟨by rw [Tuple.toList_injective htuple], hrest⟩
    | _ => cases hshape
  | ascii text =>
    intro other r s hr hs h
    have hshape := shape_eq_of_append_eq hr hs h
    cases other with
    | ascii other =>
      obtain ⟨hbytes, hrest⟩ := quotedBytes_append_inj h
      exact ⟨by rw [Text.bytes_injective hbytes], hrest⟩
    | _ => cases hshape
  | utf8 text =>
    intro other r s hr hs h
    have hshape := shape_eq_of_append_eq hr hs h
    cases other with
    | utf8 other =>
      obtain ⟨hchars, hrest⟩ := quotedChars_append_inj h
      exact ⟨by rw [String.toList_inj.1 hchars], hrest⟩
    | _ => cases hshape

/-- **Literals are unambiguous**: two values with the same literal are the same. -/
theorem toText_eq_iff (v w : Value) : v.toText = w.toText ↔ v = w := by
  constructor
  · intro h
    have hchars : literalChars .hex v ++ [] = literalChars .hex w ++ [] := by
      rw [String.ofList_inj.1 h]
    exact (literalChars_unambiguous v w [] [] Text.stopped_nil Text.stopped_nil hchars).1
  · rintro rfl
    rfl

/-- What looks like the end of a list inside a string ends nothing. -/
example : literalChars .hex (list [ascii ") u1", uint 1]) = "(list \") u1\" u1)".toList := by
  decide

end Value

end Registrar
