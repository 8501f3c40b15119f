import Registrar.Json.Number
import Registrar.Proofs.Binary
import Registrar.Proofs.Text.Unambiguous

namespace Registrar.Json

open Registrar.Text (Stopped)

/-!
# Decimal numerals in JSON text

A whole number is written by its digits alone. What is read back is the number itself as long
as 64 bits hold it, and a binary number beyond.

* `EndsNumber` — the characters that a number does not go on with;
* `readNumber_of_digits` — a numeral is an integer of 64 bits or is rounded;
* `NumberText` — a text in front of anything that ends a number is read as one value;
* `numberText_integer`, `exists_numberText_decimal` — the numbers that keep, and those that
  lose, their type.
-/

/-! ### Digits -/

/-- The value of digits is the one that the library gives them. -/
theorem digitsValue_eq_ofDigitChars (digits : List Char) :
    digitsValue digits = Nat.ofDigitChars 10 digits 0 := by
  rw [Nat.ofDigitChars_eq_foldl, digitsValue]
  congr 1
  funext n c
  rw [Nat.mul_comm]
  rfl

/-- So the digits of a number have it for their value. -/
theorem digitsValue_toDigits (n : Nat) : digitsValue (Nat.toDigits 10 n) = n := by
  rw [digitsValue_eq_ofDigitChars, Nat.ofDigitChars_ten_toDigits]

/-- Only the number zero starts with a zero. -/
theorem head?_toDigits_ne_zero {n : Nat} (hn : n ≠ 0) :
    (Nat.toDigits 10 n).head? ≠ some '0' := by
  induction n using Nat.strongRecOn with
  | _ n ih =>
    rw [Text.toDigits_eq_concat (by decide)]
    -- a single digit is the number; of more digits the first is that of the number without its last
    split
    · next hlt =>
      rw [List.nil_append, Nat.mod_eq_of_lt hlt]
      intro hhead
      exact hn (Text.digitChar_injective n (by omega) 0 (by decide) (Option.some.inj hhead))
    · next hge =>
      rw [List.head?_append_of_ne_nil _ Nat.toDigits_ne_nil]
      exact ih (n / 10) (by omega) (by omega)

/-- What fits 64 bits stays below their size, and no more digits are left than there were. -/
theorem appendFitting_bounds {number : Nat} (hnumber : number < UInt64.size)
    (digits : List Char) :
    (appendFitting number digits).1 < UInt64.size ∧
      (appendFitting number digits).2 ≤ digits.length := by
  induction digits generalizing number with
  | nil => exact ⟨hnumber, Nat.le_refl 0⟩
  | cons c digits ih =>
    rw [appendFitting]
    -- a digit that does not fit is left, with all that come behind it
    split
    · next hfits =>
      obtain ⟨hlt, hle⟩ := ih hfits
      exact ⟨hlt, Nat.le_succ_of_le hle⟩
    · exact ⟨hnumber, Nat.le_refl _⟩

/-- Up to fifty digits make a binary number that is not too large. -/
theorem exists_decimalOf? (negative : Bool) {whole : List Char} (hlength : whole.length ≤ 50) :
    ∃ number, decimalOf? negative whole [] 0 = some number := by
  obtain ⟨number, left, hfit⟩ : ∃ number left, appendFitting 0 whole = (number, left) :=
    ⟨_, _, rfl⟩
  obtain ⟨hnumber, hleft⟩ : number < UInt64.size ∧ left ≤ whole.length := by
    have hzero : 0 < UInt64.size := by decide
    have hbounds := appendFitting_bounds hzero whole
    rwa [hfit] at hbounds
  -- the digits that do not fit are dropped and only count for the power of ten
  have hsignificand : significand whole [] = (number, (left : Int)) := by
    rw [significand, hfit]
    exact congrArg (Prod.mk number) (Int.sub_zero _)
  have hpower : left ≤ Binary.largestPower := by
    unfold Binary.largestPower
    omega
  have hproduct : 2 * number * (2 * 10 ^ left) < 2 ^ 250 :=
    calc 2 * number * (2 * 10 ^ left)
        ≤ 2 * UInt64.size * (2 * 10 ^ 50) :=
          Nat.mul_le_mul (Nat.mul_le_mul_left 2 (Nat.le_of_lt hnumber))
            (Nat.mul_le_mul_left 2 (Nat.pow_le_pow_right (by decide) (by omega)))
      _ < 2 ^ 250 := by decide
  obtain ⟨binary, hbinary⟩ := Binary.exists_scaleTen? hpower (by decide) hproduct
  refine ⟨.shortest negative binary, ?_⟩
  rw [decimalOf?, hsignificand]
  dsimp only
  rw [Int.add_zero, hbinary]
  rfl

/-! ### Numbers in front of a text -/

/-- A number does not go on with the character. -/
def EndsNumber (c : Char) : Prop := c.isDigit = false ∧ c ≠ '.' ∧ c ≠ 'e' ∧ c ≠ 'E'

instance (c : Char) : Decidable (EndsNumber c) := by
  unfold EndsNumber
  infer_instance

/-- The value of a numeral without a fraction and an exponent: an integer if that has 64 bits,
    else the binary number nearest to what the digits make. -/
def numeral? (negative : Bool) (whole : List Char) : Option Json :=
  match word? negative whole with
  | some number => some (integer number)
  | none => (decimalOf? negative whole [] 0).map decimal

section

variable {rest : List Char} (hrest : Stopped EndsNumber rest)

include hrest

/-- Digits are read up to what is none. -/
theorem readDigits_append {digits : List Char} (hne : digits ≠ [])
    (hdigits : ∀ c ∈ digits, c.isDigit = true) :
    readDigits (digits ++ rest) = some (digits, rest) := by
  -- what comes behind the digits does not begin with one
  have htake : rest.takeWhile Char.isDigit = [] ∧ rest.dropWhile Char.isDigit = rest := by
    cases rest with
    | nil => exact ⟨rfl, rfl⟩
    | cons c rest =>
      have hc : ¬ c.isDigit = true := Bool.not_eq_true _ ▸ (hrest c rfl).1
      exact ⟨List.takeWhile_cons_of_neg hc, List.dropWhile_cons_of_neg hc⟩
  rw [readDigits, List.takeWhile_append_of_pos hdigits, List.dropWhile_append_of_pos hdigits,
    htake.1, htake.2, List.append_nil, if_neg (by rwa [List.isEmpty_iff])]

/-- Where a number ends there is no fraction. -/
theorem readFraction_of_stopped : readFraction rest = some ([], rest) := by
  unfold readFraction
  split
  · exact absurd rfl (hrest '.' rfl).2.1
  · rfl

/-- Where a number ends there is no exponent. -/
theorem readExponent_of_stopped : readExponent rest = some (none, rest) := by
  cases rest with
  | nil => rfl
  | cons c rest =>
    obtain ⟨-, -, he, hE⟩ := hrest c rfl
    unfold readExponent
    dsimp only
    rw [if_neg (by simp [he, hE])]


/-- **A numeral** in front of anything that ends a number is read as its value. -/
theorem readNumber_of_digits {whole : List Char} (negative : Bool) (hne : whole ≠ [])
    (hwhole : ∀ c ∈ whole, c.isDigit = true) (hzero : whole.head? = some '0' → whole.length = 1) :
    readNumber ((if negative then ['-'] else []) ++ (whole ++ rest)) =
      (numeral? negative whole).map fun json => (json, rest) := by
  have hdigits := readDigits_append hrest hne hwhole
  have hleading : ¬ (decide (whole.length ≠ 1) && whole.head? == some '0') = true := by
    rw [Bool.and_eq_true, decide_eq_true_eq, beq_iff_eq]
    exact fun h => h.1 (hzero h.2)
  unfold readNumber
  split
  next sign unsigned hsplit =>
    -- no digit passes for a sign
    have hsign : sign = negative ∧ unsigned = whole ++ rest := by
      cases negative with
      | true =>
        obtain ⟨hsign, hunsigned⟩ := Prod.mk.inj hsplit
        exact ⟨hsign.symm, hunsigned.symm⟩
      | false =>
        obtain ⟨first, digits, rfl⟩ := List.exists_cons_of_ne_nil hne
        have hfirst : first ≠ '-' := by
          rintro rfl
          exact absurd (hwhole '-' List.mem_cons_self) (by decide)
        have hplain : false = sign ∧ first :: (digits ++ rest) = unsigned := by
          simpa [hfirst] using hsplit
        exact ⟨hplain.1.symm, hplain.2.symm⟩
    obtain ⟨rfl, rfl⟩ := hsign
    simp only [hdigits, hleading, readFraction_of_stopped hrest, readExponent_of_stopped hrest,
      Option.bind_eq_bind, Option.bind_some, List.isEmpty_nil, Option.isNone_none,
      Bool.and_self, if_true, Option.getD_none, numeral?]
    cases word? sign whole with
    | some number => rfl
    | none => cases decimalOf? sign whole [] 0 <;> rfl

end

/-! ### Whole numbers -/

/-- A text that is read as one value in front of whatever ends a number. -/
structure NumberText (text : List Char) (json : Json) : Prop where
  starts : ∃ first digits, text = first :: digits ∧ (first = '-' ∨ first.isDigit = true)
  reads : ∀ rest, Stopped EndsNumber rest → readNumber (text ++ rest) = some (json, rest)

/-- The digits of a number, behind a sign or none, are read as one numeral. -/
theorem numberText_of_numeral? {negative : Bool} {n : Nat} {json : Json}
    (h : numeral? negative (Nat.toDigits 10 n) = some json) :
    NumberText ((if negative then ['-'] else []) ++ Nat.toDigits 10 n) json := by
  have hdigits : ∀ c ∈ Nat.toDigits 10 n, c.isDigit = true := fun c hc =>
    Nat.isDigit_of_mem_toDigits (by decide) (by decide) hc
  -- no number but zero begins with the digit zero
  have hzero : (Nat.toDigits 10 n).head? = some '0' → (Nat.toDigits 10 n).length = 1 := by
    intro hhead
    by_cases hn : n = 0
    · rw [hn]
      rfl
    · exact absurd hhead (head?_toDigits_ne_zero hn)
  constructor
  · cases negative with
    | true => exact ⟨'-', _, rfl, .inl rfl⟩
    | false =>
      obtain ⟨first, digits, hcons⟩ := List.exists_cons_of_ne_nil
        (Nat.toDigits_ne_nil (b := 10) (n := n))
      exact ⟨first, digits, hcons, .inr (hdigits first (hcons ▸ List.mem_cons_self))⟩
  · intro rest hrest
    rw [List.append_assoc,
      readNumber_of_digits hrest negative Nat.toDigits_ne_nil hdigits hzero, h]
    rfl

/-- **An integer of 64 bits** is read as itself, with or without a sign. -/
theorem numberText_integer {n : Int} (hlow : -0x8000000000000000 ≤ n)
    (hhigh : n < UInt64.size) :
    NumberText (toString n).toList (integer n) := by
  cases n with
  | ofNat n =>
    have htext : (toString (Int.ofNat n)).toList =
        (if false then ['-'] else []) ++ Nat.toDigits 10 n := Nat.toList_repr
    have hn : n < UInt64.size := Int.ofNat_lt.1 hhigh
    rw [htext]
    apply numberText_of_numeral?
    rw [numeral?, word?, digitsValue_toDigits, if_neg Bool.false_ne_true, if_pos hn]
    rfl
  | negSucc n =>
    have htext : (toString (Int.negSucc n)).toList =
        (if true then ['-'] else []) ++ Nat.toDigits 10 (n + 1) := by
      rw [← Nat.toList_repr]
      exact Text.toList_repr_negSucc n
    have hn : 0 < n + 1 ∧ n + 1 ≤ 0x8000000000000000 := by omega
    rw [htext]
    apply numberText_of_numeral?
    rw [numeral?, word?, digitsValue_toDigits, if_pos rfl, if_pos hn]
    rfl

/-- **A number beyond 64 bits** is read as a binary number. -/
theorem exists_numberText_decimal {n : Nat} (hlow : 2 ^ 64 ≤ n) (hhigh : n < 10 ^ 50) :
    ∃ number, NumberText (toString (n : Int)).toList (decimal number) := by
  have htext : (toString (n : Int)).toList =
      (if false then ['-'] else []) ++ Nat.toDigits 10 n := Nat.toList_repr
  have hn : ¬ n < UInt64.size := Nat.not_lt.2 hlow
  obtain ⟨number, hnumber⟩ := exists_decimalOf? false
    ((Nat.length_toDigits_le_iff (by decide) (by decide)).2 hhigh)
  refine ⟨number, ?_⟩
  rw [htext]
  apply numberText_of_numeral?
  rw [numeral?, word?, digitsValue_toDigits, if_neg Bool.false_ne_true, if_neg hn, hnumber]
  rfl

end Registrar.Json
