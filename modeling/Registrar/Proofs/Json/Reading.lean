import Registrar.Json.Printer
import Registrar.Json.Reader
import Registrar.Proofs.Json.Number

namespace Registrar.Json

open Registrar.Text (Stopped stopped_cons)

/-!
# The grammar of JSON text

A value can be spelled in several ways, with blanks between its parts.

* `readString_quote` — a text between quotation marks is read back, whatever its characters;
* `Spells`, `SpellsItems`, `SpellsMembers` — the texts that stand for a value, for the rest of
  an array and for the rest of an object;
* `reads_of_fuel`, `ofText?_of_spells` — the reader takes each of these texts for its
  value.
-/

/-! ### Strings -/

/-- What is read behind a character, with the character in front. -/
def behind (c : Char) (read : Option (List Char × List Char)) :
    Option (List Char × List Char) := do
  let (text, rest) ← read
  return (c :: text, rest)

/-- Four hexadecimal digits stand for each control character. -/
theorem fourHex?_fourDigits : ∀ n < 0x20,
    fourDigits n = ['0', '0', Nat.digitChar (n / 16), Nat.digitChar (n % 16)] ∧
      fourHex? '0' '0' (Nat.digitChar (n / 16)) (Nat.digitChar (n % 16)) = some n := by
  decide

/-- A character that needs no escape is read as it is. -/
theorem readChars_plain {c : Char} (hquote : c ≠ '"') (hbackslash : c ≠ '\\')
    (hplain : ¬ c.toNat < 0x20) (rest : List Char) :
    readChars (c :: rest) = behind c (readChars rest) := by
  have hkept : ¬ (decide (c.toNat < 0x20) || c == '\\') = true := by simp [hplain, hbackslash]
  rw [readChars, if_neg hkept]
  · rfl
  · exact hquote
  all_goals
    intros
    contradiction

/-- A character with an escape of its own is read from the letter of the escape. -/
theorem readChars_escaped {letter c : Char} (hletter : escaped? letter = some c)
    (rest : List Char) : readChars ('\\' :: letter :: rest) = behind c (readChars rest) := by
  have hu : letter ≠ 'u' := by
    rintro rfl
    cases hletter
  rw [readChars, hletter]
  · rfl
  all_goals
    intros
    contradiction

/-- Four digits that are no half of a character stand for themselves, whether or not four more
    follow them. -/
theorem readChars_unicode {a b c d : Char} {code : Nat} (hcode : fourHex? a b c d = some code)
    (hlow : code < 0xD800) (rest : List Char) :
    readChars ('\\' :: 'u' :: a :: b :: c :: d :: rest) =
      behind (Char.ofNat code) (readChars rest) := by
  have hnone (high : Nat) : ¬ (decide (0xD800 ≤ code) && decide (code < high)) = true := by
    rw [Bool.and_eq_true, decide_eq_true_eq]
    omega
  have hsecond : ¬ (decide (0xDC00 ≤ code) && decide (code < 0xE000)) = true := by
    rw [Bool.and_eq_true, decide_eq_true_eq]
    omega
  -- what follows decides which pattern is tried, but both of them go on with it alike
  by_cases hhalves : ∃ e f g h more, rest = '\\' :: 'u' :: e :: f :: g :: h :: more
  · obtain ⟨e, f, g, h, more, rfl⟩ := hhalves
    rw [readChars, hcode]
    simp only [Option.bind_eq_bind, Option.bind_some, hnone, hsecond]
    rfl
  · rw [readChars, hcode]
    · simp only [Option.bind_eq_bind, Option.bind_some, hnone]
      rfl
    · intro e f g h more heq
      exact hhalves ⟨e, f, g, h, more, heq⟩

/-- A character is written by a letter, by four digits or by itself. -/
theorem escape_cases (c : Char) :
    (∃ letter, escape c = ['\\', letter] ∧ escaped? letter = some c) ∨
      (c.toNat < 0x20 ∧ escape c = '\\' :: 'u' :: fourDigits c.toNat) ∨
      (escape c = [c] ∧ c ≠ '"' ∧ c ≠ '\\' ∧ ¬ c.toNat < 0x20) := by
  unfold escape
  split_ifs with hquote hbackslash hn hr ht hb hf hcontrol
  · exact .inl ⟨'"', rfl, by rw [hquote]; rfl⟩
  · exact .inl ⟨'\\', rfl, by rw [hbackslash]; rfl⟩
  · exact .inl ⟨'n', rfl, hn ▸ rfl⟩
  · exact .inl ⟨'r', rfl, hr ▸ rfl⟩
  · exact .inl ⟨'t', rfl, ht ▸ rfl⟩
  · exact .inl ⟨'b', rfl, hb ▸ rfl⟩
  · exact .inl ⟨'f', rfl, hf ▸ rfl⟩
  · exact .inr (.inl ⟨hcontrol, rfl⟩)
  · exact .inr (.inr ⟨rfl, hquote, hbackslash, hcontrol⟩)

/-- **One character** is read back from what is written for it, with any text behind. -/
theorem readChars_escape (c : Char) (rest : List Char) :
    readChars (escape c ++ rest) = behind c (readChars rest) := by
  obtain ⟨letter, heq, hletter⟩ | ⟨hcontrol, heq⟩ | ⟨heq, hquote, hbackslash, hplain⟩ :=
    escape_cases c
  · rw [heq]
    exact readChars_escaped hletter rest
  · obtain ⟨hdigits, hcode⟩ := fourHex?_fourDigits c.toNat hcontrol
    -- a control character comes back by its number
    have hread := readChars_unicode hcode (by omega) rest
    rw [Char.ofNat_toNat] at hread
    rw [heq, hdigits]
    exact hread
  · rw [heq]
    exact readChars_plain hquote hbackslash hplain rest

/-- The characters of a text are read back up to the closing quotation mark. -/
theorem readChars_flatMap_escape (text rest : List Char) :
    readChars (text.flatMap escape ++ '"' :: rest) = some (text, rest) := by
  induction text with
  | nil => rw [List.flatMap_nil, List.nil_append, readChars]
  | cons c text ih =>
    rw [List.flatMap_cons, List.append_assoc, readChars_escape, ih]
    rfl

/-- **A text between quotation marks** is read back, whatever its characters. -/
theorem readString_quote (text : String) (rest : List Char) :
    readString (quote text ++ rest) = some (text, rest) := by
  have hquote : quote text ++ rest = '"' :: (text.toList.flatMap escape ++ '"' :: rest) := by
    simp [quote]
  rw [hquote, readString, readChars_flatMap_escape]
  exact congrArg some (congrArg (·, rest) (String.ofList_toList))

/-! ### Blanks -/

/-- There are only blanks. -/
def Blank (text : List Char) : Prop := ∀ c ∈ text, isBlank c = true

theorem blank_nil : Blank [] := by
  intro c hc
  cases hc

/-- Blanks in front are skipped, up to a character that is none. -/
theorem skipBlanks_append {blanks : List Char} (hblanks : Blank blanks) {first : Char}
    (hfirst : isBlank first = false) (more : List Char) :
    skipBlanks (blanks ++ first :: more) = first :: more := by
  rw [skipBlanks, List.dropWhile_append_of_pos hblanks]
  exact List.dropWhile_cons_of_neg (by rw [hfirst]; exact Bool.false_ne_true)

/-- A number ends where blanks begin. -/
theorem stopped_append {blanks : List Char} (hblanks : Blank blanks) {c : Char}
    (hc : EndsNumber c) (more : List Char) : Stopped EndsNumber (blanks ++ c :: more) := by
  cases blanks with
  | nil => exact stopped_cons hc more
  | cons blank blanks =>
    have hblank := hblanks blank List.mem_cons_self
    simp only [isBlank, Bool.or_eq_true, beq_iff_eq] at hblank
    obtain ((rfl | rfl) | rfl) | rfl := hblank <;> exact stopped_cons (by decide) _

/-! ### The grammar -/

mutual

/-- The texts that stand for a value, without blanks around them. -/
inductive Spells : List Char → Json → Prop where
  | null : Spells "null".toList null
  | bool (flag : Bool) : Spells (if flag then "true" else "false").toList (bool flag)
  | number {text : List Char} {json : Json} (h : NumberText text json) : Spells text json
  | string (text : String) : Spells (quote text) (string text)
  | emptyArray {blanks : List Char} (hblanks : Blank blanks) :
    Spells ('[' :: (blanks ++ [']'])) (array [])
  | array {blanks text : List Char} {items : List Json} (hblanks : Blank blanks)
    (h : SpellsItems text items) : Spells ('[' :: (blanks ++ text)) (array items)
  | emptyObject {blanks : List Char} (hblanks : Blank blanks) :
    Spells ('\x7b' :: (blanks ++ ['\x7d'])) (object [])
  | object {blanks text : List Char} {members : List (String × Json)} (hblanks : Blank blanks)
    (h : SpellsMembers text members) : Spells ('\x7b' :: (blanks ++ text)) (object members)

/-- The texts that stand for the items of an array, with its closing bracket. -/
inductive SpellsItems : List Char → List Json → Prop where
  | last {text after : List Char} {item : Json} (h : Spells text item) (hafter : Blank after) :
    SpellsItems (text ++ (after ++ [']'])) [item]
  | cons {text after before more : List Char} {item : Json} {items : List Json}
    (h : Spells text item) (hafter : Blank after) (hbefore : Blank before)
    (hmore : SpellsItems more items) :
    SpellsItems (text ++ (after ++ ',' :: (before ++ more))) (item :: items)

/-- The texts that stand for the members of an object, with its closing brace. -/
inductive SpellsMembers : List Char → List (String × Json) → Prop where
  | last (key : String) {before text after : List Char} {value : Json} (hbefore : Blank before)
    (h : Spells text value) (hafter : Blank after) :
    SpellsMembers (quote key ++ ':' :: (before ++ (text ++ (after ++ ['\x7d'])))) [(key, value)]
  | cons (key : String) {before text after blanks more : List Char} {value : Json}
    {members : List (String × Json)} (hbefore : Blank before) (h : Spells text value)
    (hafter : Blank after) (hblanks : Blank blanks) (hmore : SpellsMembers more members) :
    SpellsMembers (quote key ++ ':' :: (before ++ (text ++ (after ++ ',' :: (blanks ++ more)))))
      ((key, value) :: members)

end

/-- A number starts with no other character than a sign or a digit. -/
theorem ne_of_starts {first c : Char} (hfirst : first = '-' ∨ first.isDigit = true)
    (hc : c ≠ '-' ∧ ¬ c.isDigit = true) : first ≠ c := by
  rintro rfl
  exact hfirst.elim hc.1 hc.2

/-- Numbers begin with no blank. -/
theorem isBlank_of_starts {first : Char} (hfirst : first = '-' ∨ first.isDigit = true) :
    isBlank first = false := by
  have hne (c : Char) (hc : c ≠ '-' ∧ ¬ c.isDigit = true) : (first == c) = false :=
    beq_eq_false_iff_ne.2 (ne_of_starts hfirst hc)
  rw [isBlank, hne ' ' (by decide), hne '\n' (by decide), hne '\r' (by decide),
    hne '\t' (by decide)]
  rfl

/-- What a value starts with is no blank and does not close an array. -/
theorem Spells.exists_cons {text : List Char} {json : Json} (h : Spells text json) :
    ∃ first more, text = first :: more ∧ isBlank first = false ∧ first ≠ ']' := by
  cases h with
  | null => exact ⟨_, _, rfl, rfl, by decide⟩
  | bool flag => cases flag <;> exact ⟨_, _, rfl, rfl, by decide⟩
  | number h =>
    obtain ⟨first, digits, rfl, hfirst⟩ := h.starts
    exact ⟨first, digits, rfl, isBlank_of_starts hfirst, ne_of_starts hfirst (by decide)⟩
  | string text => exact ⟨_, _, rfl, rfl, by decide⟩
  | emptyArray _ | array _ _ => exact ⟨_, _, rfl, rfl, by decide⟩
  | emptyObject _ | object _ _ => exact ⟨_, _, rfl, rfl, by decide⟩

/-- Items begin with a first item, not with the end of the array. -/
theorem SpellsItems.exists_cons {text : List Char} {items : List Json}
    (h : SpellsItems text items) :
    ∃ first more, text = first :: more ∧ isBlank first = false ∧ first ≠ ']' := by
  cases h with
  | last h _ | cons h _ _ _ =>
    obtain ⟨first, more, rfl, hfirst⟩ := h.exists_cons
    exact ⟨first, _, rfl, hfirst⟩

theorem SpellsMembers.exists_cons {text : List Char} {members : List (String × Json)}
    (h : SpellsMembers text members) : ∃ more, text = '"' :: more := by
  cases h with
  | last | cons => exact ⟨_, rfl⟩

/-! ### The reader -/

/-- With so much fuel, every value whose text is no longer is read. -/
def ReadsValues (fuel : Nat) : Prop :=
  ∀ text json, Spells text json → text.length ≤ fuel → ∀ before rest, Blank before →
    Stopped EndsNumber rest → readValue fuel (before ++ (text ++ rest)) = some (json, rest)

/-- With so much fuel, the items of every array whose text is no longer are read. -/
def ReadsItems (fuel : Nat) : Prop :=
  ∀ text items, SpellsItems text items → text.length ≤ fuel → ∀ before rest, Blank before →
    readItems fuel (before ++ (text ++ rest)) = some (items, rest)

/-- With so much fuel, the members of every object whose text is no longer are read. -/
def ReadsMembers (fuel : Nat) : Prop :=
  ∀ text members, SpellsMembers text members → text.length ≤ fuel → ∀ before rest,
    Blank before → readMembers fuel (before ++ (text ++ rest)) = some (members, rest)

/-- An array is read by what comes behind the bracket and blanks: its end, or items. -/
theorem readValue_bracket (fuel : Nat) (text : List Char) :
    readValue (fuel + 1) ('[' :: text) =
      match skipBlanks text with
      | ']' :: rest => some (array [], rest)
      | rest => (readItems fuel rest).map fun (items, rest) => (array items, rest) := rfl

theorem readValue_brace (fuel : Nat) (text : List Char) :
    readValue (fuel + 1) ('\x7b' :: text) =
      match skipBlanks text with
      | '\x7d' :: rest => some (object [], rest)
      | rest => (readMembers fuel rest).map fun (members, rest) => (object members, rest) := rfl

/-- Blanks in front of a value are skipped. -/
theorem readValue_append {blanks : List Char} (hblanks : Blank blanks) (fuel : Nat) {first : Char}
    (hfirst : isBlank first = false) (more : List Char) :
    readValue (fuel + 1) (blanks ++ first :: more) = readValue (fuel + 1) (first :: more) := by
  have hskip : skipBlanks (blanks ++ first :: more) = skipBlanks (first :: more) := by
    rw [skipBlanks_append hblanks hfirst]
    exact (skipBlanks_append blank_nil hfirst more).symm
  rw [readValue, hskip, ← readValue]

/-- A number in front of what ends it is read. -/
theorem readValue_number {text : List Char} {json : Json} (h : NumberText text json) (fuel : Nat)
    {rest : List Char} (hrest : Stopped EndsNumber rest) :
    readValue (fuel + 1) (text ++ rest) = some (json, rest) := by
  have hread := h.reads rest hrest
  obtain ⟨first, digits, rfl, hstarts⟩ := h.starts
  have hskip : skipBlanks (first :: digits ++ rest) = first :: digits ++ rest :=
    skipBlanks_append blank_nil (isBlank_of_starts hstarts) _
  rw [readValue, hskip]
  split
  case h_7 => exact hread
  -- the other values start with a character that no number starts with
  all_goals
    next heq => exact absurd (List.cons.inj heq).1 (ne_of_starts hstarts (by decide))

/-- **Values** are read with more fuel than what stands inside them needs. -/
theorem readsValues_succ {fuel : Nat} (hitems : ReadsItems fuel) (hmembers : ReadsMembers fuel) :
    ReadsValues (fuel + 1) := by
  intro text json h hlength before rest hbefore hrest
  have hskip : readValue (fuel + 1) (before ++ (text ++ rest)) =
      readValue (fuel + 1) (text ++ rest) := by
    obtain ⟨first, more, rfl, hfirst, -⟩ := h.exists_cons
    exact readValue_append hbefore fuel hfirst _
  rw [hskip]
  cases h with
  | null => rfl
  | bool flag => cases flag <;> rfl
  | number h => exact readValue_number h fuel hrest
  | string text =>
    show (readString (quote text ++ rest)).map _ = _
    rw [readString_quote]
    rfl
  | emptyArray hblanks =>
    rw [List.cons_append, List.append_assoc, List.singleton_append, readValue_bracket,
      skipBlanks_append hblanks rfl]
    rfl
  | array hblanks h =>
    -- the first item does not start with what would close the array
    obtain ⟨first, more, rfl, hfirst, hclose⟩ := h.exists_cons
    rw [List.length_cons, List.length_append] at hlength
    have hread := hitems _ _ h (by omega) [] rest blank_nil
    rw [List.cons_append, List.append_assoc, List.cons_append, readValue_bracket,
      skipBlanks_append hblanks hfirst]
    split
    · next heq => exact absurd (List.cons.inj heq).1 hclose
    · rw [show readItems fuel (first :: (more ++ rest)) = _ from hread]
      rfl
  | emptyObject hblanks =>
    rw [List.cons_append, List.append_assoc, List.singleton_append, readValue_brace,
      skipBlanks_append hblanks rfl]
    rfl
  | object hblanks h =>
    obtain ⟨more, rfl⟩ := h.exists_cons
    rw [List.length_cons, List.length_append] at hlength
    have hread := hmembers _ _ h (by omega) [] rest blank_nil
    rw [List.cons_append, List.append_assoc, List.cons_append, readValue_brace,
      skipBlanks_append hblanks rfl]
    show (readMembers fuel ('"' :: (more ++ rest))).map _ = _
    rw [show readMembers fuel ('"' :: (more ++ rest)) = _ from hread]
    rfl

/-- Behind an item there are more items, or the array ends. -/
theorem readItems_of_readValue {fuel : Nat} {text rest : List Char} {item : Json}
    (h : readValue fuel text = some (item, rest)) :
    readItems (fuel + 1) text =
      match skipBlanks rest with
      | ',' :: rest => do
        let (items, rest) ← readItems fuel rest
        return (item :: items, rest)
      | ']' :: rest => some ([item], rest)
      | _ => none := by
  rw [readItems, h]
  rfl

/-- **Items** are read one by one, a comma before each but the first. -/
theorem readsItems_succ {fuel : Nat} (hvalues : ReadsValues fuel) (hitems : ReadsItems fuel) :
    ReadsItems (fuel + 1) := by
  intro text items h hlength before rest hbefore
  cases h with
  | @last text after item h hafter =>
    simp only [List.length_append, List.length_cons] at hlength
    -- the bracket stops the last item, and blanks may stand before it
    have hitem := readItems_of_readValue <| hvalues _ _ h (by omega) before (after ++ ']' :: rest)
      hbefore (stopped_append hafter (by decide) rest)
    rw [skipBlanks_append hafter rfl] at hitem
    rw [List.append_assoc, List.append_assoc, List.singleton_append]
    exact hitem
  | @cons text after blanks more item items h hafter hblanks hmore =>
    simp only [List.length_append, List.length_cons] at hlength
    -- a comma stops the item, and the others are read with the fuel that is left
    have hitem := readItems_of_readValue <| hvalues _ _ h (by omega) before
      (after ++ ',' :: (blanks ++ (more ++ rest))) hbefore (stopped_append hafter (by decide) _)
    have hrest := hitems _ _ hmore (by omega) blanks rest hblanks
    rw [skipBlanks_append hafter rfl] at hitem
    simp only [hrest] at hitem
    rw [List.append_assoc, List.append_assoc, List.cons_append, List.append_assoc]
    exact hitem

/-- Behind the key and the value of a member there are more members, or the object ends. -/
theorem readMembers_of_readValue {fuel : Nat} {before text rest : List Char} {value : Json}
    (hbefore : Blank before) (key : String) (h : readValue fuel text = some (value, rest)) :
    readMembers (fuel + 1) (before ++ (quote key ++ ':' :: text)) =
      match skipBlanks rest with
      | ',' :: rest => do
        let (members, rest) ← readMembers fuel rest
        return ((key, value) :: members, rest)
      | '\x7d' :: rest => some ([(key, value)], rest)
      | _ => none := by
  have hkey : skipBlanks (before ++ (quote key ++ ':' :: text)) = quote key ++ ':' :: text :=
    skipBlanks_append hbefore rfl _
  have hcolon : skipBlanks (':' :: text) = ':' :: text := skipBlanks_append blank_nil rfl text
  rw [readMembers, hkey, readString_quote, Option.bind_eq_bind, Option.bind_some]
  dsimp only
  rw [hcolon]
  simp only [h]
  rfl

/-- **Members** are read one by one, each with its name and a colon before the value. -/
theorem readsMembers_succ {fuel : Nat} (hvalues : ReadsValues fuel)
    (hmembers : ReadsMembers fuel) : ReadsMembers (fuel + 1) := by
  intro text members h hlength before rest hbefore
  cases h with
  | @last key blanks text after value hblanks h hafter =>
    simp only [List.length_append, List.length_cons] at hlength
    have hmember := readMembers_of_readValue hbefore key <| hvalues _ _ h (by omega) blanks
      (after ++ '\x7d' :: rest) hblanks (stopped_append hafter (by decide) rest)
    rw [skipBlanks_append hafter rfl] at hmember
    simpa only [List.append_assoc, List.cons_append, List.nil_append] using hmember
  | @cons key blanks text after gap more value members hblanks h hafter hgap hmore =>
    simp only [List.length_append, List.length_cons] at hlength
    have hmember := readMembers_of_readValue hbefore key <| hvalues _ _ h (by omega) blanks
      (after ++ ',' :: (gap ++ (more ++ rest))) hblanks (stopped_append hafter (by decide) _)
    have hrest := hmembers _ _ hmore (by omega) gap rest hgap
    rw [skipBlanks_append hafter rfl] at hmember
    simp only [hrest] at hmember
    rw [List.append_assoc, List.cons_append, List.append_assoc, List.append_assoc,
      List.append_assoc, List.cons_append, List.append_assoc]
    exact hmember

/-- **The reader** takes every text of the grammar for its value, whatever ends it. The
    induction is on the fuel: every nested or consecutive read takes one unit of it and at least
    one character of the text. -/
theorem reads_of_fuel (fuel : Nat) : ReadsValues fuel ∧ ReadsItems fuel ∧ ReadsMembers fuel := by
  induction fuel with
  | zero =>
    -- there is no text without a character, so none is short enough to need no fuel
    refine ⟨?_, ?_, ?_⟩
    · intro text json h hlength
      obtain ⟨first, more, rfl, -⟩ := h.exists_cons
      cases hlength
    · intro text items h hlength
      obtain ⟨first, more, rfl, -⟩ := h.exists_cons
      cases hlength
    · intro text members h hlength
      obtain ⟨more, rfl⟩ := h.exists_cons
      cases hlength
  | succ fuel ih =>
    obtain ⟨hvalues, hitems, hmembers⟩ := ih
    exact ⟨readsValues_succ hitems hmembers, readsItems_succ hvalues hitems,
      readsMembers_succ hvalues hmembers⟩

/-- **A text of the grammar** is read as the value that it stands for. -/
theorem ofText?_of_spells {text : List Char} {json : Json} (h : Spells text json) :
    ofText? (String.ofList text) = some json := by
  have hread := (reads_of_fuel (text.length + 1)).1 text json h (Nat.le_succ _) [] [] blank_nil
    Text.stopped_nil
  rw [List.nil_append, List.append_nil] at hread
  rw [ofText?, String.toList_ofList, Option.bind_eq_bind, hread]
  rfl

end Registrar.Json
