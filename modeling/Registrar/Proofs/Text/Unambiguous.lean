import Mathlib.Data.List.Basic

namespace Registrar.Text

/-!
# Texts that cannot be mistaken

Where texts are written one behind the other, each has to tell by itself where it ends.

* `Unambiguous` — a text, with anything of a kind behind it, is taken for no other text with
  something of the kind behind it;
* `append_inj_of_stop` — words end at the first character that stops them;
* `Unambiguous.flatMap` — a run of texts ends at a character that none of them starts with;
* `toDigits_injective` — numbers are known by their digits, in any base that there are digits for;
* `exists_intRepr_eq_cons` — a whole number starts with a sign or a digit.
-/

variable {α : Type}

/-! ### One text behind the other -/

/-- What is written for `a`, with a text behind it, is also written for nothing else and with
    nothing else behind it. -/
def Unambiguous (behind : List Char → Prop) (write : α → List Char) (a : α) : Prop :=
  ∀ b r s, behind r → behind s → write a ++ r = write b ++ s → a = b ∧ r = s

/-- A text is empty or starts with a character that stops a word. -/
def Stopped (stop : Char → Prop) (text : List Char) : Prop := ∀ c ∈ text.head?, stop c

theorem stopped_nil {stop : Char → Prop} : Stopped stop [] := by
  intro c hc
  cases hc

/-- It has stopped at a character that stops it, whatever follows that. -/
theorem stopped_cons {stop : Char → Prop} {c : Char} (h : stop c) (text : List Char) :
    Stopped stop (c :: text) := by
  intro first hfirst
  obtain rfl : c = first := Option.some.inj hfirst
  exact h

/-- A character stops the words that it is no part of. -/
theorem stopped_self (c : Char) (text : List Char) : Stopped (· = c) (c :: text) := by
  intro first hfirst
  exact (Option.some.inj hfirst).symm

/-- Two words with something behind them that stops a word are the same words. -/
theorem append_inj_of_stop {stop : Char → Prop} {word other r s : List Char}
    (hword : ∀ c ∈ word, ¬ stop c) (hother : ∀ c ∈ other, ¬ stop c)
    (hr : Stopped stop r) (hs : Stopped stop s) (h : word ++ r = other ++ s) :
    word = other ∧ r = s := by
  induction word generalizing other with
  | nil =>
    cases other with
    | nil => exact ⟨rfl, h⟩
    | cons d other =>
      -- the first character of a word would have to stop it
      have hd : d ∈ r.head? := by rw [show r = d :: (other ++ s) from h]; rfl
      exact absurd (hr d hd) (hother d List.mem_cons_self)
  | cons c word ih =>
    cases other with
    | nil =>
      have hc : c ∈ s.head? := by rw [show s = c :: (word ++ r) from h.symm]; rfl
      exact absurd (hs c hc) (hword c List.mem_cons_self)
    | cons d other =>
      obtain ⟨rfl, htail⟩ := List.cons.inj h
      obtain ⟨rfl, hrest⟩ := ih (List.forall_mem_cons.1 hword).2
        (List.forall_mem_cons.1 hother).2 htail
      exact ⟨rfl, hrest⟩

/-- **A run of texts** ends at a character that none of them starts with. -/
theorem Unambiguous.flatMap {behind : List Char → Prop} {write : α → List Char} {close : Char}
    (hstart : ∀ a r s, write a ++ r ≠ close :: s) (hclose : ∀ r, behind (close :: r))
    (hmore : ∀ a r, behind (write a ++ r)) {as : List α} (h : ∀ a ∈ as, Unambiguous behind write a)
    {bs : List α} {r s : List Char}
    (heq : as.flatMap write ++ close :: r = bs.flatMap write ++ close :: s) : as = bs ∧ r = s := by
  have hbehind : ∀ (items : List α) (rest : List Char),
      behind (items.flatMap write ++ close :: rest) := by
    intro items rest
    cases items with
    | nil => exact hclose rest
    | cons a items =>
      rw [List.flatMap_cons, List.append_assoc]
      exact hmore a _
  -- no item begins with the sign at the end, so both lists go on or both are over
  induction as generalizing bs with
  | nil =>
    cases bs with
    | nil => exact ⟨rfl, (List.cons.inj heq).2⟩
    | cons b bs =>
      rw [List.flatMap_cons, List.append_assoc] at heq
      exact absurd heq.symm (hstart b _ _)
  | cons a as ih =>
    cases bs with
    | nil =>
      rw [List.flatMap_cons, List.append_assoc] at heq
      exact absurd heq (hstart a _ _)
    | cons b bs =>
      obtain ⟨ha, has⟩ := List.forall_mem_cons.1 h
      rw [List.flatMap_cons, List.flatMap_cons, List.append_assoc, List.append_assoc] at heq
      obtain ⟨rfl, htail⟩ := ha b _ _ (hbehind as r) (hbehind bs s) heq
      obtain ⟨rfl, hrest⟩ := ih has htail
      exact ⟨rfl, hrest⟩

/-! ### Numbers -/

/-- The sixteen digits are different characters. -/
theorem digitChar_injective : ∀ a < 16, ∀ b < 16, Nat.digitChar a = Nat.digitChar b → a = b := by
  decide

/-- The last digit of a number, behind the digits of what is in front of it. -/
theorem toDigits_eq_concat {base : Nat} (hbase : 1 < base) (n : Nat) :
    Nat.toDigits base n =
      (if n < base then [] else Nat.toDigits base (n / base)) ++ [Nat.digitChar (n % base)] := by
  rw [Nat.toDigits_eq_if hbase]
  split
  · next hlt => rw [Nat.mod_eq_of_lt hlt, List.nil_append]
  · rfl

/-- **A number** is known by its digits, in any base that there are digits for. -/
theorem toDigits_injective {base : Nat} (hbase : 1 < base) (hdigits : base ≤ 16) :
    Function.Injective (Nat.toDigits base) := by
  have hmod (n : Nat) : n % base < 16 := Nat.lt_of_lt_of_le (Nat.mod_lt n (by omega)) hdigits
  intro m
  induction m using Nat.strongRecOn with
  | _ m ih =>
    intro n h
    rw [toDigits_eq_concat hbase m, toDigits_eq_concat hbase n] at h
    obtain ⟨hfront, hlast⟩ := List.append_inj' h rfl
    replace hlast := digitChar_injective _ (hmod m) _ (hmod n) (List.singleton_inj.1 hlast)
    -- the last digits agree, and so do the digits in front of them
    have hdiv : m / base = n / base := by
      split_ifs at hfront with hm hn hn
      · rw [Nat.div_eq_of_lt hm, Nat.div_eq_of_lt hn]
      · exact absurd hfront.symm Nat.toDigits_ne_nil
      · exact absurd hfront Nat.toDigits_ne_nil
      · exact ih (m / base) (Nat.div_lt_self (by omega) hbase) hfront
    rw [← Nat.div_add_mod m base, ← Nat.div_add_mod n base, hdiv, hlast]

/-- Numbers are written in digits below their base. -/
theorem exists_digitChar_eq_of_mem {base n : Nat} (hbase : 1 < base) {c : Char}
    (h : c ∈ Nat.toDigits base n) : ∃ digit < base, Nat.digitChar digit = c := by
  induction n using Nat.strongRecOn with
  | _ n ih =>
    rw [toDigits_eq_concat hbase, List.mem_append, List.mem_singleton] at h
    rcases h with h | rfl
    · split_ifs at h with hn
      · cases h
      · exact ih (n / base) (Nat.div_lt_self (by omega) hbase) h
    · exact ⟨n % base, Nat.mod_lt n (by omega), rfl⟩

/-- Decimal numbers are written in decimal digits. -/
theorem isDigit_of_mem_repr {n : Nat} {c : Char} (h : c ∈ n.repr.toList) : c.isDigit = true := by
  rw [Nat.toList_repr] at h
  exact Nat.isDigit_of_mem_toDigits (by decide) (by decide) h

theorem exists_natRepr_eq_cons (n : Nat) : ∃ first digits, n.repr.toList = first :: digits := by
  rw [Nat.toList_repr]
  exact List.exists_cons_of_ne_nil Nat.toDigits_ne_nil

/-- Negative numbers have a minus in front. -/
theorem toList_repr_negSucc (n : Nat) :
    (Int.negSucc n).repr.toList = '-' :: (n + 1).repr.toList := by
  simp [Int.repr]

/-- So whole numbers are written in decimal digits and a minus. -/
theorem eq_minus_or_isDigit_of_mem_repr {n : Int} {c : Char} (h : c ∈ n.repr.toList) :
    c = '-' ∨ c.isDigit = true := by
  cases n with
  | ofNat n => exact .inr (isDigit_of_mem_repr h)
  | negSucc n =>
    rw [toList_repr_negSucc] at h
    exact (List.mem_cons.1 h).imp_right isDigit_of_mem_repr

/-- A whole number starts with a sign or a digit, and there are only digits behind it. -/
theorem exists_intRepr_eq_cons (n : Int) : ∃ first digits, n.repr.toList = first :: digits ∧
    (first = '-' ∨ first.isDigit = true) ∧ ∀ c ∈ digits, c.isDigit = true := by
  cases n with
  | ofNat n =>
    obtain ⟨first, digits, h⟩ := exists_natRepr_eq_cons n
    have hdigits : ∀ c ∈ first :: digits, c.isDigit = true := fun c hc =>
      isDigit_of_mem_repr (h ▸ hc)
    obtain ⟨hfirst, hrest⟩ := List.forall_mem_cons.1 hdigits
    exact ⟨first, digits, h, .inr hfirst, hrest⟩
  | negSucc n =>
    exact ⟨'-', _, toList_repr_negSucc n, .inl rfl, fun _ => isDigit_of_mem_repr⟩

end Registrar.Text
