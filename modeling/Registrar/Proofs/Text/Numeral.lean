import Registrar.Proofs.Text.Unambiguous
import Registrar.Text.Numeral

namespace Registrar.Text

/-!
# Numerals of written numbers

* `readDigits_append` — digits are read from the left, whatever follows them;
* `parseNatural_repr` — the decimal digits of a number below the bound are its numeral.
-/

theorem digitValue?_digitChar : ∀ digit < 10, digitValue? (Nat.digitChar digit) = some digit := by
  decide

/-- Digits are read one after the other, so those behind go on from the number so far. -/
theorem readDigits_append {bound n m : Nat} {digits : List Char}
    (h : readDigits bound n digits = .ok m) (rest : List Char) :
    readDigits bound n (digits ++ rest) = readDigits bound m rest := by
  induction digits generalizing n with
  | nil =>
    cases h
    rfl
  | cons c digits ih =>
    rw [List.cons_append]
    rw [readDigits] at h ⊢
    cases hc : digitValue? c with
    | none =>
      rw [hc] at h
      cases h
    | some digit =>
      rw [hc] at h
      dsimp only at h ⊢
      split at h
      · next hfits =>
        rw [if_pos hfits]
        exact ih h
      · cases h

/-- One more digit is read if the number stays below the bound. -/
theorem readDigits_singleton {bound n digit : Nat} (hdigit : digit < 10)
    (hfits : n * 10 + digit < bound) :
    readDigits bound n [Nat.digitChar digit] = .ok (n * 10 + digit) := by
  rw [readDigits, digitValue?_digitChar digit hdigit]
  dsimp only
  rw [if_pos hfits, readDigits]

/-- A number below the bound is read back from its digits. -/
theorem readDigits_toDigits {bound n : Nat} (h : n < bound) :
    readDigits bound 0 (Nat.toDigits 10 n) = .ok n := by
  induction n using Nat.strongRecOn with
  | _ n ih =>
    -- the last digit is put behind the number that the digits before it write
    have hlast : n / 10 * 10 + n % 10 = n := Nat.div_add_mod' n 10
    rw [toDigits_eq_concat (by decide)]
    split
    · next hlt =>
      rw [List.nil_append, readDigits_singleton (Nat.mod_lt n (by decide)) (by omega)]
      exact congrArg Except.ok (by omega)
    · next hge =>
      rw [readDigits_append (ih (n / 10) (by omega) (by omega)),
        readDigits_singleton (Nat.mod_lt n (by decide)) (by omega), hlast]

/-- **The digits of a number** below the bound are its numeral. -/
theorem parseNatural_repr {bound n : Nat} (h : n < bound) :
    parseNatural bound n.repr = .ok n := by
  have hread := readDigits_toDigits h
  obtain ⟨first, digits, hcons⟩ := exists_natRepr_eq_cons n
  have hfirst : first.isDigit = true := isDigit_of_mem_repr (hcons ▸ List.mem_cons_self)
  -- a numeral has no sign, so all of its text is digits
  have hplus : first ≠ '+' := by
    rintro rfl
    cases hfirst
  rw [← Nat.toList_repr, hcons] at hread
  rw [parseNatural, hcons]
  split
  · next heq => cases heq
  · next heq => exact absurd (List.cons.inj heq).1 hplus
  · next heq => exact absurd (List.cons.inj heq).1 hplus
  · exact hread

end Registrar.Text
