import Mathlib.Data.Bool.AllAny
import Registrar.Principal
import Registrar.Proofs.Address
import Registrar.Proofs.Name
import Registrar.Proofs.Text.Split

namespace Registrar

/-!
# Principals and their texts

* `Name.forall_mem_contract`, `Name.forall_mem_clarity` — what names are made of;
* `Principal.toText_injective` — a principal is known by its text, since no address holds a dot.
-/

/-! ### Addresses -/

namespace Address

theorem isAlphanum_of_mem_alphabet : ∀ c ∈ Base32.alphabet, c.isAlphanum = true :=
  List.all_iff_forall_prop.1 (by decide)

/-- Addresses begin with the same letter. -/
theorem exists_toText_eq_cons (address : Address) :
    ∃ rest, address.toText.toList = 'S' :: rest :=
  ⟨_, toList_textOf address.version address.hash.toList⟩

/-- Addresses are letters and numerals. -/
theorem isAlphanum_of_mem_toText {address : Address} {c : Char}
    (h : c ∈ address.toText.toList) : c.isAlphanum = true := by
  rw [toText, toList_textOf] at h
  rcases List.mem_cons.1 h with rfl | h
  · decide
  · exact isAlphanum_of_mem_alphabet c
      (Base32.mem_alphabet_of_mem_encodeChecked (code_toNat_lt address.version) h)

/-- No address has a dot in it, so the first dot of a contract is behind its deployer. -/
theorem dot_notMem_toText (address : Address) : '.' ∉ address.toText.toList := by
  intro h
  exact absurd (isAlphanum_of_mem_toText h) (by decide)

end Address

/-! ### Names -/

namespace Name

/-- The name of a contract is made of letters, digits, underscores and hyphens. -/
theorem forall_mem_contract (name : ContractName) :
    ∀ c ∈ name.text.toList, c.isAlphanum = true ∨ c = '_' ∨ c = '-' := by
  have hname : contractGrammar name.text.toList = true := name.grammar_toList
  generalize name.text.toList = text at hname
  cases text with
  | nil => simp
  | cons first rest =>
    rw [contractGrammar, Bool.or_eq_true, Bool.and_eq_true, List.all_eq_true] at hname
    -- a name begins with a letter, or it is that of a transient contract
    rcases hname with ⟨hfirst, hrest⟩ | htransient
    · refine List.forall_mem_cons.2 ⟨.inl ?_, fun c hc => ?_⟩
      · rw [Char.isAlphanum, hfirst, Bool.true_or]
      · simpa [or_assoc] using hrest c hc
    · rw [← eq_of_beq htransient]
      exact List.all_iff_forall_prop.1 (by decide)

/-- The name of a function, an asset or a tuple key is made of letters, digits and signs that
    stand in it. -/
theorem forall_mem_clarity (name : ClarityName) :
    ∀ c ∈ name.text.toList, c.isAlphanum = true ∨ c ∈ "-_!?+<>=/*".toList := by
  have hname : clarityGrammar name.text.toList = true := name.grammar_toList
  generalize name.text.toList = text at hname
  cases text with
  | nil => simp
  | cons first rest =>
    rw [clarityGrammar, Bool.or_eq_true, Bool.and_eq_true, List.all_eq_true, List.any_eq_true]
      at hname
    -- a name begins with a letter, or it is an operator
    rcases hname with ⟨hfirst, hrest⟩ | ⟨operator, hoperator, htext⟩
    · refine List.forall_mem_cons.2 ⟨.inl ?_, fun c hc => ?_⟩
      · rw [Char.isAlphanum, hfirst, Bool.true_or]
      · simpa using hrest c hc
    · rw [← eq_of_beq htext]
      rw [← List.all_iff_forall_prop]
      clear htext
      revert operator
      decide

end Name

/-! ### Principals -/

namespace Principal

/-- The text of a contract: the address of its deployer, a dot and its name. -/
theorem toList_toText_contract (deployer : Address) (name : ContractName) :
    (contract deployer name).toText.toList = deployer.toText.toList ++ '.' :: name.text.toList := by
  simp [toText]

theorem exists_toText_eq_cons (principal : Principal) :
    ∃ rest, principal.toText.toList = 'S' :: rest := by
  cases principal with
  | account address => exact address.exists_toText_eq_cons
  | contract deployer name =>
    obtain ⟨rest, h⟩ := deployer.exists_toText_eq_cons
    rw [toList_toText_contract, h]
    exact ⟨_, rfl⟩

/-- The text of a principal is made of letters, digits, dots, underscores and hyphens. -/
theorem forall_mem_toText (principal : Principal) :
    ∀ c ∈ principal.toText.toList, c.isAlphanum = true ∨ c ∈ ['.', '_', '-'] := by
  cases principal with
  | account address => exact fun c hc => .inl (Address.isAlphanum_of_mem_toText hc)
  | contract deployer name =>
    rw [toList_toText_contract, List.forall_mem_append, List.forall_mem_cons]
    refine ⟨fun c hc => .inl (Address.isAlphanum_of_mem_toText hc), by decide, fun c hc => ?_⟩
    rcases name.forall_mem_contract c hc with hc | rfl | rfl
    · exact .inl hc
    · exact .inr (by decide)
    · exact .inr (by decide)

/-- The first dot of the text of a principal stands in front of the name of a contract. -/
theorem splitFirst?_toText (principal : Principal) :
    Text.splitFirst? ['.'] principal.toText.toList =
      match principal with
      | account _ => none
      | contract deployer name => some (deployer.toText.toList, name.text.toList) := by
  cases principal with
  | account address => exact Text.splitFirst?_eq_none_iff.2 address.dot_notMem_toText
  | contract deployer name =>
    rw [toList_toText_contract]
    exact Text.splitFirst?_eq_some_iff.2 ⟨rfl, deployer.dot_notMem_toText⟩

/-- **A principal** is known by its text. -/
theorem toText_injective : Function.Injective toText := by
  intro p q h
  -- the dot tells whether there is a name, and where it starts
  have hsplit := splitFirst?_toText p
  rw [h, splitFirst?_toText q] at hsplit
  cases p with
  | account a =>
    cases q with
    | account b => exact congrArg account (Address.toText_injective h)
    | contract b m => cases hsplit
  | contract a n =>
    cases q with
    | account b => cases hsplit
    | contract b m =>
      simp only [Option.some.injEq, Prod.mk.injEq, String.toList_inj] at hsplit
      obtain ⟨haddress, hname⟩ := hsplit
      rw [Address.toText_injective haddress, Name.text_injective hname]

end Principal

end Registrar
