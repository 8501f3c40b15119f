import Registrar.Proofs.Registry.Refusal

namespace Registrar

/-!
# Commitments and what they are opened with

A preorder commits to a digest, and what is registered later has to have this digest, or
the price is burnt for nothing.

* `ContractCall.CommitsTo` — the digest that a preorder states;
* `ContractCall.Discloses` — the buffers that a registration states;
* `Registry.Operation.commitsTo_disclosed` — what a registration discloses has the digest
  that the preorder committed to, for names and for namespaces.
-/

namespace ContractCall

/-- The call states the digest of the bytes, in front of all else. -/
def CommitsTo (call : ContractCall) (preimage : Bytes) : Prop :=
  call.arguments.head? = some (.buffer (Digest.hash160 preimage).toList)

/-- The call states the buffers, in front of all else. -/
def Discloses (call : ContractCall) (buffers : List Bytes) : Prop :=
  buffers.map Value.buffer <+: call.arguments

end ContractCall

namespace Registry.Operation

variable {text salt space : String} {burnt : UInt64} {options : DraftOptions} {envelope : Envelope}

/-! ### Names -/

/-- The preorder of a name commits to the name as it is written, and to the salt. -/
theorem exists_commitsTo_of_namePreorder
    (h : (namePreorder text salt burnt).draft options = .ok envelope) :
    ∃ call, envelope.transaction.payload = .call call ∧
      call.CommitsTo (Text.bytes text ++ Text.bytes salt) := by
  obtain ⟨call, family, guards, hcall, -, -, rfl⟩ := exists_call_of_draft h
  obtain ⟨name, space, rfl, rfl⟩ := exists_labels_of_call hcall
  exact ⟨_, rfl, rfl⟩

/-- The registration of a name discloses both labels, the namespace first, and the salt. -/
theorem exists_discloses_of_nameRegister {zonefile : Bytes}
    (h : (nameRegister text salt zonefile).draft options = .ok envelope) :
    ∃ call, ∃ name space : Label, envelope.transaction.payload = .call call ∧
      text = name.text ++ "." ++ space.text ∧
      call.Discloses [Text.bytes space.text, Text.bytes name.text, Text.bytes salt] := by
  obtain ⟨call, family, guards, hcall, -, -, rfl⟩ := exists_call_of_draft h
  obtain ⟨name, space, rfl, rfl⟩ := exists_labels_of_call hcall
  exact ⟨_, name, space, rfl, rfl, _, rfl⟩

/-! ### Namespaces -/

/-- The preorder of a namespace commits to its text and the salt. -/
theorem exists_commitsTo_of_spacePreorder
    (h : (spacePreorder space salt burnt).draft options = .ok envelope) :
    ∃ call, envelope.transaction.payload = .call call ∧
      call.CommitsTo (Text.bytes space ++ Text.bytes salt) := by
  obtain ⟨call, family, guards, hcall, -, -, rfl⟩ := exists_call_of_draft h
  obtain rfl := Except.ok.inj hcall
  exact ⟨_, rfl, rfl⟩

/-- A namespace is revealed with its text and the salt as they are. -/
theorem exists_discloses_of_spaceReveal {pricing : Pricing} {lifetime : BitVec 128}
    {importer : Address}
    (h : (spaceReveal space salt pricing lifetime importer).draft options = .ok envelope) :
    ∃ call, envelope.transaction.payload = .call call ∧
      call.Discloses [Text.bytes space, Text.bytes salt] := by
  obtain ⟨call, family, guards, hcall, -, -, rfl⟩ := exists_call_of_draft h
  obtain rfl := Except.ok.inj hcall
  exact ⟨_, rfl, _, rfl⟩

/-! ### Opening a commitment -/

/-- **Commitments are opened.** Whatever the options of the two drafts, the preorder of a name
    commits to the name, a dot, the namespace and the salt as the registration discloses
    them, which are the bytes of the text and of the salt; and the preorder of a namespace
    commits to the two buffers that the namespace is revealed with. -/
theorem commitsTo_disclosed :
    (∀ (text salt : String) (burnt : UInt64) (zonefile : Bytes) (options options' : DraftOptions)
      (preorder register : Envelope),
      (namePreorder text salt burnt).draft options = .ok preorder →
      (nameRegister text salt zonefile).draft options' = .ok register →
      ∃ committing disclosing space name opening,
        preorder.transaction.payload = .call committing ∧
        register.transaction.payload = .call disclosing ∧
        disclosing.Discloses [space, name, opening] ∧
        committing.CommitsTo (name ++ Text.bytes "." ++ space ++ opening) ∧
        name ++ Text.bytes "." ++ space ++ opening = Text.bytes text ++ Text.bytes salt) ∧
    (∀ (space salt : String) (burnt : UInt64) (pricing : Pricing) (lifetime : BitVec 128)
      (importer : Address) (options options' : DraftOptions) (preorder reveal : Envelope),
      (spacePreorder space salt burnt).draft options = .ok preorder →
      (spaceReveal space salt pricing lifetime importer).draft options' = .ok reveal →
      ∃ committing disclosing first second,
        preorder.transaction.payload = .call committing ∧
        reveal.transaction.payload = .call disclosing ∧
        disclosing.Discloses [first, second] ∧ committing.CommitsTo (first ++ second)) := by
  refine ⟨?_, ?_⟩
  · intro text salt burnt zonefile options options' preorder register hpreorder hregister
    obtain ⟨committing, hcommitting, hdigest⟩ := exists_commitsTo_of_namePreorder hpreorder
    obtain ⟨disclosing, name, space, hdisclosing, rfl, hbuffers⟩ :=
      exists_discloses_of_nameRegister hregister
    -- the dot between the labels is hashed as a part of the text
    have hpreimage : Text.bytes name.text ++ Text.bytes "." ++ Text.bytes space.text ++
        Text.bytes salt = Text.bytes (name.text ++ "." ++ space.text) ++ Text.bytes salt := by
      rw [Text.bytes_append, Text.bytes_append]
    refine ⟨committing, disclosing, _, _, _, hcommitting, hdisclosing, hbuffers, ?_, hpreimage⟩
    rw [hpreimage]
    exact hdigest
  · intro space salt burnt pricing lifetime importer options options' preorder reveal hpreorder
      hreveal
    obtain ⟨committing, hcommitting, hdigest⟩ := exists_commitsTo_of_spacePreorder hpreorder
    obtain ⟨disclosing, hdisclosing, hbuffers⟩ := exists_discloses_of_spaceReveal hreveal
    exact ⟨committing, disclosing, _, _, hcommitting, hdisclosing, hbuffers, hdigest⟩

/-- All names of a namespace cost the same. -/
def samplePricing : Pricing where
  base := 10
  coefficient := 1
  buckets := Vector.replicate 16 1
  nonAlphaDiscount := 1
  noVowelDiscount := 1

/-- A name with a letter outside ASCII and an empty salt; a namespace with a salt. -/
theorem commitsTo_disclosed_alice :
    (∃ preorder register committing disclosing space name opening,
      (namePreorder "álice.btc" "" 5).draft .sample = .ok preorder ∧
      (nameRegister "álice.btc" "" [1, 2]).draft .sample = .ok register ∧
      preorder.transaction.payload = .call committing ∧
      register.transaction.payload = .call disclosing ∧
      disclosing.Discloses [space, name, opening] ∧
      committing.CommitsTo (name ++ Text.bytes "." ++ space ++ opening) ∧
      name ++ Text.bytes "." ++ space ++ opening = Text.bytes "álice.btc" ++ Text.bytes "") ∧
    ∃ preorder reveal committing disclosing first second,
      (spacePreorder "btc" "s" 5).draft .sample = .ok preorder ∧
      (spaceReveal "btc" "s" samplePricing 52595 Transaction.sampleDeployer).draft .sample =
        .ok reveal ∧
      preorder.transaction.payload = .call committing ∧
      reveal.transaction.payload = .call disclosing ∧
      disclosing.Discloses [first, second] ∧ committing.CommitsTo (first ++ second) := by
  have hname : ∀ text, some "álice.btc" = some text → IsTopLevel text := by
    rintro _ ⟨⟩
    decide
  have hspace : ∀ text, none = some text → IsTopLevel text := by
    intro _ h
    cases h
  have htexts : ∀ text ∈ ["álice.btc", "", "btc", "s"],
      (Text.bytes text).length < UInt32.size := by decide
  have hshort : ∀ {texts}, texts ⊆ ["álice.btc", "", "btc", "s"] →
      ∀ text ∈ texts, (Text.bytes text).length < UInt32.size :=
    fun hsubset text htext => htexts text (hsubset htext)
  refine ⟨?_, ?_⟩
  · obtain ⟨preorder, -, hpreorder, -⟩ :=
      exists_draft_sample (namePreorder "álice.btc" "" 5) hname (hshort (by simp [texts]))
    obtain ⟨register, -, hregister, -⟩ :=
      exists_draft_sample (nameRegister "álice.btc" "" [1, 2]) hname (hshort (by simp [texts]))
    obtain ⟨committing, disclosing, space, name, opening, hopened⟩ :=
      commitsTo_disclosed.1 _ _ _ _ _ _ _ _ hpreorder hregister
    exact ⟨preorder, register, committing, disclosing, space, name, opening, hpreorder,
      hregister, hopened⟩
  · obtain ⟨preorder, -, hpreorder, -⟩ :=
      exists_draft_sample (spacePreorder "btc" "s" 5) hspace (hshort (by simp [texts]))
    obtain ⟨reveal, -, hreveal, -⟩ :=
      exists_draft_sample (spaceReveal "btc" "s" samplePricing 52595 Transaction.sampleDeployer)
        hspace (hshort (by simp [texts]))
    obtain ⟨committing, disclosing, first, second, hopened⟩ :=
      commitsTo_disclosed.2 _ _ _ _ _ _ _ _ _ _ hpreorder hreveal
    exact ⟨preorder, reveal, committing, disclosing, first, second, hpreorder, hreveal, hopened⟩

end Registry.Operation

end Registrar
