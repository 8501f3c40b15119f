import Registrar.Proofs.Principal.Text
import Registrar.Transaction.PostCondition

namespace Registrar

/-!
# Principals and assets as text

A dot ends the address, two colons end the contract. Neither stands in an address or in the
name of a contract, though the name of an asset may hold nearly everything else.

* `Name.IsLegacy` — the names of contracts that the wire still holds but that can no longer be
  given;
* `Name.ofText_text_outcome` — what becomes of the name in a text;
* `Principal.parse_toText_contract`, `Asset.parse_toText` — the text of a contract or an asset
  is taken apart where it was put together;
* `Principal.parse_toText_outcome`, `Asset.parse_toText_outcome` — so the name of the contract
  decides whether it is read back;
* `Principal.toText_of_parse`, `Asset.toText_of_parse` — a text that is read is the text of
  what it is read as;
* `Asset.text_parse_inverse` — both directions for principals and for assets.
-/

/-! ### Parts of a text -/

/-- What stands in front of the first dot of a text. -/
def Address.partOf (text : String) : String := String.ofList (text.toList.takeWhile (· ≠ '.'))

/-- The text that a contract is read from has the address in front of its first dot. -/
theorem Address.partOf_eq {text : String} {address rest : List Char}
    (htext : text.toList = address ++ '.' :: rest) (hdot : '.' ∉ address) :
    Address.partOf text = String.ofList address := by
  rw [Address.partOf, htext, Text.takeWhile_ne_append hdot]

theorem Address.partOf_eq_self {text : String} (hdot : '.' ∉ text.toList) :
    Address.partOf text = text := by
  have hall : ∀ c ∈ text.toList, decide (c ≠ '.') = true := by
    intro c hc
    exact decide_eq_true (ne_of_mem_of_not_mem hc hdot)
  rw [Address.partOf, List.takeWhile_eq_self_iff.2 hall, String.ofList_toList]

/-! ### Names of contracts -/

namespace Name

/-- A name that the wire still holds but that is too long to be given. -/
def IsLegacy (name : ContractName) : Prop := 41 ≤ name.bytes.length ∧ name.bytes.length ≤ 128

/-- Forty bytes are the limit for the names that are in use today. -/
theorem isLegacy_iff (name : ContractName) : name.IsLegacy ↔ ¬ name.bytes.length ≤ 40 := by
  have hwire : name.bytes.length ≤ 128 := name.length_bytes_le
  rw [IsLegacy]
  omega

/-- **The name in a text** is read back unless it is a legacy one, which is refused. -/
theorem ofText_text_outcome {α : Type} (name : ContractName) (wrap : ContractName → α) :
    ((do return wrap (← ofText name.text) : Except Fault α) = .ok (wrap name) ↔
      name.bytes.length ≤ 40) ∧
    ((do return wrap (← ofText name.text) : Except Fault α) =
      .error (.argument (.badName "Contract name not valid")) ↔ name.IsLegacy) := by
  rw [isLegacy_iff]
  by_cases hlength : name.bytes.length ≤ 40
  · have hname : (ofText name.text : Except Fault ContractName) = .ok name := ofText_text hlength
    rw [hname]
    exact ⟨iff_of_true rfl hlength, iff_of_false (by rintro ⟨⟩) (not_not.2 hlength)⟩
  · have hname : (ofText name.text : Except Fault ContractName) =
        .error (.argument (.badName "Contract name not valid")) :=
      ofText_text_of_long (Nat.lt_of_not_le hlength)
    rw [hname]
    exact ⟨iff_of_false (by rintro ⟨⟩) hlength, iff_of_true rfl hlength⟩

end Name

/-! ### Principals -/

namespace Principal

/-- The name of the contract, if the principal is one. -/
def name? : Principal → Option ContractName
  | account _ => none
  | contract _ name => some name

/-- Accounts are read back from their text, whatever they are. -/
theorem parse_toText_account (address : Address) :
    parse (account address).toText = .ok (account address) := by
  have hsplit := splitFirst?_toText (account address)
  have haddress := address.parse_toText
  simp only [parse, hsplit]
  show (do return account (← Address.parse address.toText)) = _
  rw [haddress]
  rfl

/-- The text of a contract is taken apart into its address and its name. -/
theorem parse_toText_contract (deployer : Address) (name : ContractName) :
    parse (contract deployer name).toText =
      (do return contract deployer (← Name.ofText name.text)) := by
  have hsplit := splitFirst?_toText (contract deployer name)
  simp only [parse, hsplit, String.ofList_toList, deployer.parse_toText]
  rfl

/-- The text of a principal is read back unless the name in it is a legacy one. -/
theorem parse_toText_outcome (p : Principal) :
    (parse p.toText = .ok p ↔ ∀ name ∈ p.name?, name.bytes.length ≤ 40) ∧
    (parse p.toText = .error (.argument (.badName "Contract name not valid")) ↔
      ∃ name ∈ p.name?, name.IsLegacy) := by
  cases p with
  | account address =>
    rw [parse_toText_account]
    simp [name?]
  | contract deployer name =>
    have houtcome := name.ofText_text_outcome (contract deployer)
    rw [parse_toText_contract]
    simpa [name?] using houtcome

/-- A part of a text that is read as a contract is the address, a dot and the name. -/
theorem eq_of_split {part address name : List Char} {deployer : Address}
    {contractName : ContractName} (hsplit : Text.splitFirst? ['.'] part = some (address, name))
    (hcanonical : Address.Canonical (String.ofList address))
    (haddress : Address.parse (String.ofList address) = .ok deployer)
    (hname : Name.ofText (String.ofList name) = .ok contractName) :
    part = deployer.toText.toList ++ '.' :: contractName.text.toList := by
  obtain ⟨hpart, -⟩ := Text.splitFirst?_eq_some_iff.1 hsplit
  have haddressText := (Address.parse_eq_ok_iff hcanonical).1 haddress
  rw [hpart, ← haddressText, Name.text_of_ofText hname, String.toList_ofList, String.toList_ofList]

/-- A text with digits for its address is the text of the principal that it is read as. -/
theorem toText_of_parse {text : String} {p : Principal}
    (hcanonical : Address.Canonical (Address.partOf text)) (h : parse text = .ok p) :
    p.toText = text := by
  unfold parse at h
  -- a text with a dot is that of a contract, and one without a dot that of an account
  split at h
  · next address name hsplit =>
    obtain ⟨deployer, haddress, h⟩ := Except.bind_eq_ok_iff.1 h
    obtain ⟨contractName, hname, h⟩ := Except.bind_eq_ok_iff.1 h
    obtain rfl := Except.ok.inj h
    obtain ⟨htext, hdot⟩ := Text.splitFirst?_eq_some_iff.1 hsplit
    rw [Address.partOf_eq htext hdot] at hcanonical
    rw [← String.toList_inj, toList_toText_contract]
    exact (eq_of_split hsplit hcanonical haddress hname).symm
  · next hsplit =>
    obtain ⟨address, haddress, h⟩ := Except.bind_eq_ok_iff.1 h
    obtain rfl := Except.ok.inj h
    rw [Address.partOf_eq_self (Text.splitFirst?_eq_none_iff.1 hsplit)] at hcanonical
    exact ((Address.parse_eq_ok_iff hcanonical).1 haddress).symm

end Principal

/-! ### Assets -/

namespace Asset

/-- The characters of an asset: the contract, two colons and the name. -/
theorem toList_toText (asset : Asset) : asset.toText.toList =
    (Principal.contract asset.deployer asset.contract).toText.toList ++
      ':' :: ([':'] ++ asset.name.text.toList) := by
  simp [toText, Principal.toText]

/-- The first two colons of the text of an asset stand behind its contract. -/
theorem splitFirst?_toText (asset : Asset) :
    Text.splitFirst? "::".toList asset.toText.toList =
      some ((Principal.contract asset.deployer asset.contract).toText.toList,
        asset.name.text.toList) := by
  -- no colon is in the text of a contract, so the first two are those before the name
  have hcolon : ':' ∉ (Principal.contract asset.deployer asset.contract).toText.toList := by
    intro h
    rcases Principal.forall_mem_toText _ ':' h with hletter | hsign
    · exact absurd hletter (by decide)
    · exact absurd hsign (by decide)
  rw [toList_toText]
  exact Text.splitFirst?_append hcolon [':'] _

/-- The text of an asset is taken apart into its address and its names. -/
theorem parse_toText (asset : Asset) : parse asset.toText =
    (do return ⟨asset.deployer, ← Name.ofText asset.contract.text, asset.name⟩) := by
  have hsplit := Principal.splitFirst?_toText (.contract asset.deployer asset.contract)
  simp only [parse, splitFirst?_toText, hsplit, String.ofList_toList, asset.deployer.parse_toText,
    Name.ofText_clarity]
  rfl

/-- The text of an asset is read back unless the name of its contract is a legacy one. -/
theorem parse_toText_outcome (asset : Asset) :
    (parse asset.toText = .ok asset ↔ asset.contract.bytes.length ≤ 40) ∧
    (parse asset.toText = .error (.argument (.badName "Contract name not valid")) ↔
      asset.contract.IsLegacy) := by
  rw [parse_toText]
  exact asset.contract.ofText_text_outcome fun contract => { asset with contract }

/-- A text with digits for its address is the text of the asset that it is read as. -/
theorem toText_of_parse {text : String} {asset : Asset}
    (hcanonical : Address.Canonical (Address.partOf text)) (h : parse text = .ok asset) :
    asset.toText = text := by
  unfold parse at h
  split at h
  · cases h
  · next path name hcolons =>
    split at h
    · cases h
    · next address contract hsplit =>
      obtain ⟨deployer, haddress, h⟩ := Except.bind_eq_ok_iff.1 h
      obtain ⟨contractName, hcontract, h⟩ := Except.bind_eq_ok_iff.1 h
      obtain ⟨assetName, hname, h⟩ := Except.bind_eq_ok_iff.1 h
      obtain rfl := Except.ok.inj h
      have htext := Text.splitFirst?_eq_some hcolons
      obtain ⟨hpath, hdot⟩ := Text.splitFirst?_eq_some_iff.1 hsplit
      -- the dot that ends the address is in front of the colons, so it is the first of the text
      have hfirst : text.toList = address ++ '.' :: (contract ++ "::".toList ++ name) := by
        rw [htext, hpath]
        simp
      rw [Address.partOf_eq hfirst hdot] at hcanonical
      have hcontractText := Principal.eq_of_split hsplit hcanonical haddress hcontract
      rw [← String.toList_inj, toList_toText, Principal.toList_toText_contract, ← hcontractText,
        htext, Name.text_of_ofText hname, String.toList_ofList]
      simp

/-- **Principals and assets as text.** The text of a principal or an asset is read back exactly
    if the name of its contract, where there is one, has at most 40 bytes, and it is refused as
    a name exactly if that is a legacy name of up to 128. A text with digits for its address
    is read as a principal or an asset exactly if it is its text and is read back. -/
theorem text_parse_inverse :
    (∀ p : Principal,
      (Principal.parse p.toText = .ok p ↔ ∀ name ∈ p.name?, name.bytes.length ≤ 40) ∧
      (Principal.parse p.toText = .error (.argument (.badName "Contract name not valid")) ↔
        ∃ name ∈ p.name?, name.IsLegacy)) ∧
    (∀ asset : Asset,
      (parse asset.toText = .ok asset ↔ asset.contract.bytes.length ≤ 40) ∧
      (parse asset.toText = .error (.argument (.badName "Contract name not valid")) ↔
        asset.contract.IsLegacy)) ∧
    ∀ text, Address.Canonical (Address.partOf text) →
      (∀ p, Principal.parse text = .ok p ↔
        p.toText = text ∧ ∀ name ∈ p.name?, name.bytes.length ≤ 40) ∧
      ∀ asset, parse text = .ok asset ↔
        asset.toText = text ∧ asset.contract.bytes.length ≤ 40 := by
  refine ⟨Principal.parse_toText_outcome, parse_toText_outcome, fun text hcanonical => ⟨?_, ?_⟩⟩
  · intro p
    obtain ⟨hread, -⟩ := p.parse_toText_outcome
    constructor
    · intro h
      obtain rfl := Principal.toText_of_parse hcanonical h
      exact ⟨rfl, hread.1 h⟩
    · rintro ⟨rfl, hname⟩
      exact hread.2 hname
  · intro asset
    obtain ⟨hread, -⟩ := asset.parse_toText_outcome
    constructor
    · intro h
      obtain rfl := toText_of_parse hcanonical h
      exact ⟨rfl, hread.1 h⟩
    · rintro ⟨rfl, hname⟩
      exact hread.2 hname

/-- A token whose name holds signs, of a contract of the account without keys. -/
def stackedToken : Asset where
  deployer := ⟨.mainnetSingle, Vector.replicate 20 0⟩
  contract := ⟨"pox-4", by decide⟩
  name := ⟨"a/b*<=c", by decide⟩

/-- The text of the token. -/
def stackedTokenText : String := "SP000000000000000000002Q6VF78.pox-4::a/b*<=c"

/-- A token with signs in its name is read back from its text. -/
theorem text_parse_inverse_stackedToken :
    Address.Canonical (Address.partOf stackedTokenText) ∧
    stackedToken.toText = stackedTokenText ∧ stackedToken.contract.bytes.length ≤ 40 ∧
    parse stackedTokenText = .ok stackedToken := by
  have hcanonical : Address.Canonical (Address.partOf stackedTokenText) :=
    List.all_iff_forall_prop.1 (by decide +kernel)
  have htext : stackedToken.toText = stackedTokenText := by decide +kernel
  have hlength : stackedToken.contract.bytes.length ≤ 40 := by decide +kernel
  obtain ⟨-, -, htexts⟩ := text_parse_inverse
  have hread := (htexts stackedTokenText hcanonical).2 stackedToken
  exact ⟨hcanonical, htext, hlength, hread.2 ⟨htext, hlength⟩⟩

end Asset

end Registrar
