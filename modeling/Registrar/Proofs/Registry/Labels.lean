import Mathlib.Data.Set.List
import Registrar.Proofs.Registry.Refusal
import Registrar.Proofs.Text.Split
import Registrar.Registry.Query

namespace Registrar.Registry

/-!
# Labels of names in arguments

A qualified name is given as a text and travels as two buffers. The registry takes the
namespace first, while the text has the name first.

* `pieces`, `HasLabels` — what stands between the dots of a text, and the texts that are some
  number of labels;
* `QualifiedName.exists_parse_iff` — two or three labels are what a qualified name is written as;
* `NamesFirst` — arguments that begin with the labels of a text;
* `Operation.namesFirst_of_call`, `Query.namesFirst_of_call` — the calls that state a name begin
  with its labels;
* `QualifiedName.parse_outcome` — what becomes of a text, as a name and in arguments.
-/

/-! ### Pieces -/

/-- What stands between the dots of a text. -/
def pieces (text : String) : List String := (text.toList.splitOn '.').map String.ofList

/-- Whether the text is as many labels as said with dots between them: there are as many pieces,
    and none is empty. -/
def HasLabels (count : Nat) (text : String) : Prop :=
  (pieces text).length = count ∧ ∀ piece ∈ pieces text, piece ≠ ""

/-- The pieces are found by the model's splitter. -/
theorem pieces_eq_splitAll (text : String) :
    pieces text = (Text.splitAll '.' text.toList).map String.ofList := by
  rw [pieces, Text.splitAll_eq_splitOn]

theorem Label.text_ne_empty (label : Label) : label.text ≠ "" := by
  intro h
  have hvalid := label.valid
  rw [h] at hvalid
  cases hvalid

/-- The pieces that a name is written with are its labels. -/
theorem QualifiedName.pieces_toText (qualified : QualifiedName) :
    pieces qualified.toText = qualified.labels.map Label.text := by
  rw [pieces_eq_splitAll, qualified.splitAll_toText, List.map_map]
  exact List.map_congr_left fun label _ => String.ofList_toList

/-- The pieces of a text are labels if none is empty. -/
theorem exists_labels_of_hasLabels {count : Nat} {text : String} (h : HasLabels count text) :
    ∃ labels : List Label, labels.length = count ∧
      labels.map Label.chars = Text.splitAll '.' text.toList := by
  obtain ⟨hcount, hfilled⟩ := h
  rw [pieces_eq_splitAll, List.length_map] at hcount
  rw [pieces_eq_splitAll, List.forall_mem_map] at hfilled
  -- pieces that are filled and have no dots are texts of labels
  have hlabels : Text.splitAll '.' text.toList ∈ Set.range (List.map Label.chars) := by
    rw [Set.range_list_map]
    intro piece hpiece
    have hvalid : isLabel (String.ofList piece).toList = true := by
      have hne : piece ≠ [] := by
        rintro rfl
        exact hfilled [] hpiece rfl
      simp [isLabel, hne, Text.not_mem_of_mem_splitAll hpiece]
    exact ⟨⟨String.ofList piece, hvalid⟩, String.toList_ofList⟩
  obtain ⟨labels, hlabels⟩ := hlabels
  exact ⟨labels, by rw [← hcount, ← hlabels, List.length_map], hlabels⟩

namespace QualifiedName

/-- A text with the labels of a name is how the name is written. -/
theorem toText_eq_of_labels {qualified : QualifiedName} {text : String}
    (h : qualified.labels.map Label.chars = Text.splitAll '.' text.toList) :
    qualified.toText = text := by
  refine String.toList_inj.1 ?_
  rw [toList_toText, h, Text.join_splitAll]

/-- What a name is written with are its labels and nothing else. -/
theorem hasLabels_toText (qualified : QualifiedName) :
    HasLabels qualified.labels.length qualified.toText := by
  rw [HasLabels, pieces_toText, List.length_map, List.forall_mem_map]
  exact ⟨rfl, fun label _ => label.text_ne_empty⟩

/-- **Two or three labels** are what a qualified name is written as. -/
theorem exists_parse_iff {text : String} :
    (∃ qualified, parse text = .ok qualified) ↔ HasLabels 2 text ∨ HasLabels 3 text := by
  simp only [parse_eq_ok_iff]
  constructor
  · rintro ⟨qualified, rfl⟩
    obtain ⟨_ | subdomain, name, space⟩ := qualified
    · exact .inl (hasLabels_toText _)
    · exact .inr (hasLabels_toText _)
  · rintro (h | h)
    · obtain ⟨labels, hcount, hlabels⟩ := exists_labels_of_hasLabels h
      obtain ⟨name, space, rfl⟩ := List.length_eq_two.1 hcount
      exact ⟨⟨none, name, space⟩, toText_eq_of_labels hlabels⟩
    · obtain ⟨labels, hcount, hlabels⟩ := exists_labels_of_hasLabels h
      obtain ⟨subdomain, name, space, rfl⟩ := List.length_eq_three.1 hcount
      exact ⟨⟨some subdomain, name, space⟩, toText_eq_of_labels hlabels⟩

/-- A name is one below a name exactly if three labels are written. -/
theorem isSome_subdomain_iff (qualified : QualifiedName) :
    qualified.subdomain.isSome = true ↔ HasLabels 3 qualified.toText := by
  have hlabels := qualified.hasLabels_toText
  obtain ⟨_ | subdomain, name, space⟩ := qualified
  · -- two labels are written, and so not three
    refine ⟨fun h => (by cases h), fun h => ?_⟩
    cases hlabels.1.symm.trans h.1
  · exact ⟨fun _ => hlabels, fun _ => rfl⟩

end QualifiedName

/-- Operations act on the texts of two labels. -/
theorem isTopLevel_iff_hasLabels {text : String} : IsTopLevel text ↔ HasLabels 2 text := by
  constructor
  · rintro ⟨name, space, rfl⟩
    exact QualifiedName.hasLabels_toText ⟨none, name, space⟩
  · intro h
    obtain ⟨labels, hcount, hlabels⟩ := exists_labels_of_hasLabels h
    obtain ⟨name, space, rfl⟩ := List.length_eq_two.1 hcount
    have htext : QualifiedName.toText ⟨none, name, space⟩ = text :=
      QualifiedName.toText_eq_of_labels hlabels
    exact ⟨name, space, htext.symm⟩

/-! ### Names in arguments -/

/-- Whether the arguments begin with the two labels of the text as buffers, the namespace
    first; the buffers the other way round, with a dot between them, are the text. -/
def NamesFirst (text : String) (arguments : List Value) : Prop :=
  ∃ name space : String, pieces text = [name, space] ∧
    arguments.take 2 = [.buffer (Text.bytes space), .buffer (Text.bytes name)] ∧
    Text.bytes name ++ Text.bytes "." ++ Text.bytes space = Text.bytes text

/-- Arguments that begin with those of a name begin with its labels. -/
theorem namesFirst_of_nameArguments {name space : Label} {arguments : List Value}
    (h : nameArguments ⟨none, name, space⟩ <+: arguments) :
    NamesFirst (name.text ++ "." ++ space.text) arguments := by
  refine ⟨name.text, space.text, QualifiedName.pieces_toText ⟨none, name, space⟩,
    (List.prefix_iff_eq_take.1 h).symm, ?_⟩
  rw [Text.bytes_append, Text.bytes_append]

namespace Operation

/-- The name that the call of the operation states label by label, if it states one. A preorder
    states no more of its name than a digest. -/
def statedName? : Operation → Option String
  | nameImport name _ _ | nameRegister name _ _ | nameUpdate name _ | nameTransfer name _ _
  | nameRevoke name | nameRenewal name _ _ _ => some name
  | namePreorder _ _ _ | spacePreorder _ _ _ | spaceReveal _ _ _ _ _ | spaceReady _ => none

variable {operation : Operation} {text : String}

/-- A call that states a name has it in front of all else. -/
theorem exists_nameArguments (h : operation.statedName? = some text) :
    ∃ verb, ∃ f : QualifiedName → RegistryCall,
      (operation.call = do let name ← QualifiedName.parseTopLevel verb text; return f name) ∧
      ∀ name, nameArguments name <+: (f name).arguments := by
  cases operation with
  | nameImport _ _ _ =>
    cases h
    exact ⟨_, _, rfl, fun _ => ⟨_, rfl⟩⟩
  | nameRegister _ _ _ =>
    cases h
    exact ⟨_, _, rfl, fun _ => ⟨_, rfl⟩⟩
  | nameUpdate _ _ =>
    cases h
    exact ⟨_, _, rfl, fun _ => ⟨_, rfl⟩⟩
  | nameTransfer _ _ _ =>
    cases h
    exact ⟨_, _, rfl, fun _ => ⟨_, rfl⟩⟩
  | nameRevoke _ =>
    cases h
    exact ⟨_, _, rfl, fun _ => List.prefix_rfl⟩
  | nameRenewal _ _ _ _ =>
    cases h
    exact ⟨_, _, rfl, fun _ => ⟨_, rfl⟩⟩
  | namePreorder _ _ _ | spacePreorder _ _ _ | spaceReveal _ _ _ _ _ | spaceReady _ => cases h

/-- **Calls that state a name** are those for texts of two labels. -/
theorem exists_call_iff_hasLabels (h : operation.statedName? = some text) :
    (∃ call, operation.call = .ok call) ↔ HasLabels 2 text := by
  obtain ⟨verb, f, hcall, -⟩ := exists_nameArguments h
  rw [← isTopLevel_iff_hasLabels]
  obtain ⟨name, space, htext, hparse⟩ | ⟨hnot, objection, hparse⟩ :=
    QualifiedName.parseTopLevel_cases verb text
  · rw [hcall, hparse]
    exact ⟨fun _ => ⟨name, space, htext⟩, fun _ => ⟨_, rfl⟩⟩
  · rw [hcall, hparse]
    exact ⟨fun ⟨_, hfound⟩ => (by cases hfound), fun hlabels => absurd hlabels hnot⟩

/-- Such a call begins with the labels of the text. -/
theorem namesFirst_of_call {call : RegistryCall} (h : operation.statedName? = some text)
    (hcall : operation.call = .ok call) : NamesFirst text call.arguments := by
  obtain ⟨verb, f, hf, hfirst⟩ := exists_nameArguments h
  rw [hf] at hcall
  obtain ⟨name, space, rfl, rfl⟩ := exists_labels_of_call hcall
  exact namesFirst_of_nameArguments (hfirst _)

end Operation

namespace Query

/-- The qualified name that the question is about, if it is about one. -/
def name? : Query → Option String
  | namePrice name | nameAvailable name => some name
  | spacePrice _ | spaceAvailable _ => none

variable {query : Query} {text : String} {sender : Address} {network : Network}

/-- A question about a name is asked with its labels and with nothing else. -/
theorem exists_call_eq (h : query.name? = some text) (sender : Address) (network : Network) :
    ∃ verb, ∃ function : ClarityName, query.call sender network = (do
      let name ← QualifiedName.parseTopLevel verb text
      let contract ← contractAt network.chainId
      return { contract, function, arguments := nameArguments name, sender }) := by
  cases query with
  | namePrice _ =>
    cases h
    refine ⟨"price", ⟨"get-name-price", by decide⟩, ?_⟩
    simp only [call]
    cases QualifiedName.parseTopLevel "price" text <;> rfl
  | nameAvailable _ =>
    cases h
    refine ⟨"check", ⟨"can-name-be-registered", by decide⟩, ?_⟩
    simp only [call]
    cases QualifiedName.parseTopLevel "check" text <;> rfl
  | spacePrice _ | spaceAvailable _ => cases h

/-- **Questions about a name** are asked for texts of two labels, where there is a registry. -/
theorem exists_call_iff_hasLabels (h : query.name? = some text) :
    (∃ call, query.call sender network = .ok call) ↔
      HasLabels 2 text ∧ ∃ family : NetworkFamily, family.chainId = network.chainId := by
  obtain ⟨verb, function, hcall⟩ := exists_call_eq h sender network
  rw [← isTopLevel_iff_hasLabels, hcall]
  obtain ⟨name, space, htext, hparse⟩ | ⟨hnot, objection, hparse⟩ :=
    QualifiedName.parseTopLevel_cases verb text
  · have hlabels : IsTopLevel text := ⟨name, space, htext⟩
    rw [hparse]
    obtain ⟨family, hfamily, hcontract⟩ | ⟨hnone, hcontract⟩ := contractAt_cases network.chainId
    · rw [hcontract]
      exact ⟨fun _ => ⟨hlabels, family, hfamily⟩, fun _ => ⟨_, rfl⟩⟩
    · rw [hcontract]
      exact ⟨fun ⟨_, hfound⟩ => (by cases hfound), fun ⟨_, family, hfamily⟩ =>
        absurd hfamily (hnone family)⟩
  · rw [hparse]
    exact ⟨fun ⟨_, hfound⟩ => (by cases hfound), fun ⟨hlabels, _⟩ => absurd hlabels hnot⟩

/-- Such a question begins with the labels of the text. -/
theorem namesFirst_of_call {call : ReadOnlyCall} (h : query.name? = some text)
    (hcall : query.call sender network = .ok call) : NamesFirst text call.arguments := by
  obtain ⟨verb, function, hquery⟩ := exists_call_eq h sender network
  rw [hquery] at hcall
  obtain ⟨qualified, hparse, hcall⟩ := Except.bind_eq_ok_iff.1 hcall
  obtain ⟨contract, -, hcall⟩ := Except.bind_eq_ok_iff.1 hcall
  obtain rfl := Except.ok.inj hcall
  obtain ⟨name, space, rfl, hfound⟩ | ⟨-, objection, hrefused⟩ :=
    QualifiedName.parseTopLevel_cases verb text
  · obtain rfl := Except.ok.inj (hparse.symm.trans hfound)
    exact namesFirst_of_nameArguments List.prefix_rfl
  · cases hparse.symm.trans hrefused

end Query

/-- **What becomes of a text.** It stands for a name exactly if its pieces between dots are two
    or three and none is empty. The name is written as the text and read back from it, and it
    is one below a name exactly for three pieces. The calls that state it, those of operations
    and those of questions, are made exactly for two pieces, a question only where there is a
    registry, and all of them begin with the namespace and the name, which with a dot between
    them are the text. -/
theorem QualifiedName.parse_outcome (text : String) :
    ((∃ qualified, parse text = .ok qualified) ↔ HasLabels 2 text ∨ HasLabels 3 text) ∧
    (∀ qualified, parse text = .ok qualified →
      qualified.toText = text ∧ parse qualified.toText = .ok qualified ∧
      (qualified.subdomain.isSome = true ↔ HasLabels 3 text)) ∧
    (∀ operation : Operation, operation.statedName? = some text →
      ((∃ call, operation.call = .ok call) ↔ HasLabels 2 text) ∧
      ∀ options envelope, operation.draft options = .ok envelope →
        ∃ call, envelope.transaction.payload = .call call ∧ NamesFirst text call.arguments) ∧
    (∀ query : Query, query.name? = some text → ∀ sender network,
      ((∃ call, query.call sender network = .ok call) ↔
        HasLabels 2 text ∧ ∃ family : NetworkFamily, family.chainId = network.chainId) ∧
      ∀ call, query.call sender network = .ok call → NamesFirst text call.arguments) := by
  refine ⟨exists_parse_iff, ?_, ?_, ?_⟩
  · intro qualified hparse
    obtain rfl := parse_eq_ok_iff.1 hparse
    exact ⟨rfl, hparse, qualified.isSome_subdomain_iff⟩
  · intro operation hname
    refine ⟨Operation.exists_call_iff_hasLabels hname, ?_⟩
    intro options envelope hdraft
    obtain ⟨call, family, guards, hcall, -, -, rfl⟩ := Operation.exists_call_of_draft hdraft
    exact ⟨_, rfl, Operation.namesFirst_of_call hname hcall⟩
  · intro query hname sender network
    exact ⟨Query.exists_call_iff_hasLabels hname, fun call => Query.namesFirst_of_call hname⟩

/-- A name with a letter outside ASCII, as a text, in a draft and in a query. -/
theorem QualifiedName.parse_outcome_sampleTransfer :
    (∃ qualified, parse "álice.btc" = .ok qualified ∧ qualified.toText = "álice.btc" ∧
      parse qualified.toText = .ok qualified) ∧
    (∃ envelope call, Operation.sampleTransfer.draft .sample = .ok envelope ∧
      envelope.transaction.payload = .call call ∧ NamesFirst "álice.btc" call.arguments) ∧
    (∃ call, (Query.namePrice "álice.btc").call DraftOptions.sample.sender
        DraftOptions.sample.network = .ok call ∧ NamesFirst "álice.btc" call.arguments) := by
  have hlabels : HasLabels 2 "álice.btc" := isTopLevel_iff_hasLabels.1 (by decide)
  obtain ⟨hparse, hname, hoperation, hquery⟩ := parse_outcome "álice.btc"
  refine ⟨?_, ?_, ?_⟩
  · obtain ⟨qualified, hfound⟩ := hparse.2 (.inl hlabels)
    obtain ⟨htext, hback, -⟩ := hname qualified hfound
    exact ⟨qualified, hfound, htext, hback⟩
  · obtain ⟨envelope, -, hdraft, -⟩ := Operation.exists_draft_sample Operation.sampleTransfer
      Operation.isTopLevel_sampleTransfer Operation.length_texts_sampleTransfer
    obtain ⟨call, hcall, hfirst⟩ :=
      (hoperation Operation.sampleTransfer rfl).2 .sample envelope hdraft
    exact ⟨envelope, call, hdraft, hcall, hfirst⟩
  · obtain ⟨hcall, hfirst⟩ :=
      hquery (.namePrice "álice.btc") rfl DraftOptions.sample.sender DraftOptions.sample.network
    obtain ⟨call, hfound⟩ := hcall.2 ⟨hlabels, .testnet, rfl⟩
    exact ⟨call, hfound, hfirst call hfound⟩

end Registrar.Registry
