import Registrar.Proofs.Outcome
import Registrar.Registry.QualifiedName

namespace Registrar

/-!
# Texts of qualified names

Parsing a qualified name and writing it are each other's inverses.

* `Text.splitAll_intercalate` — pieces without separators are found again between them;
* `QualifiedName.parse_eq_ok_iff` — a text stands for the name that is written so, and for
  no other;
* `Registry.IsTopLevel` — the texts of two labels;
* `QualifiedName.parseTopLevel_cases` — these are the texts that operations act on, and to
  all others they object.
-/

/-! ### Texts -/

theorem Text.bytes_append (front back : String) :
    bytes (front ++ back) = bytes front ++ bytes back := by
  simp [bytes]

/-- Splitting at a separator is the library's. -/
theorem Text.splitAll_eq_splitOn (separator : Char) (text : List Char) :
    splitAll separator text = text.splitOn separator := by
  induction text with
  | nil => rfl
  | cons c rest ih =>
    rw [splitAll, List.splitOn_cons_eq_if_modifyHead, ← ih]
    simp only [beq_iff_eq]
    -- a separator begins a new piece, and any other character goes to the first piece
    split
    · rfl
    · obtain ⟨piece, pieces, h⟩ := List.exists_cons_of_ne_nil (splitAll_ne_nil separator rest)
      rw [h, List.modifyHead_cons]

/-- **Pieces** without separators are found again in the text that joins them. -/
theorem Text.splitAll_intercalate {separator : Char} {pieces : List (List Char)}
    (hpieces : ∀ piece ∈ pieces, separator ∉ piece) (hne : pieces ≠ []) :
    splitAll separator (List.intercalate [separator] pieces) = pieces := by
  rw [splitAll_eq_splitOn]
  exact List.splitOn_intercalate separator hpieces hne

namespace Registry

/-! ### Labels -/

namespace Label

/-- The characters of the label. -/
def chars (label : Label) : List Char := label.text.toList

/-- Labels have no dots in them. -/
theorem not_mem_chars (label : Label) : '.' ∉ label.chars := by
  have hvalid := label.valid
  simp only [isLabel, Bool.and_eq_true, Bool.not_eq_true', List.contains_eq_mem,
    decide_eq_false_iff_not] at hvalid
  exact hvalid.2

/-- The characters of a label are those of no other label. -/
theorem ofChars?_eq_some_iff {text : List Char} {label : Label} :
    ofChars? text = some label ↔ label.chars = text := by
  constructor
  · intro h
    unfold ofChars? at h
    split at h
    · obtain rfl := Option.some.inj h
      exact String.toList_ofList
    · cases h
  · rintro rfl
    have hvalid : isLabel label.chars = true := label.valid
    rw [ofChars?, dif_pos hvalid]
    simp only [chars, String.ofList_toList]

/-- Pieces are labels exactly if they are the characters of labels. -/
theorem mapM_ofChars?_eq_some_iff {pieces : List (List Char)} {labels : List Label} :
    pieces.mapM ofChars? = some labels ↔ labels.map chars = pieces := by
  induction pieces generalizing labels with
  | nil => cases labels <;> simp
  | cons piece pieces ih =>
    simp only [List.mapM_cons, Option.bind_eq_bind, Option.bind_eq_some_iff, Option.pure_def,
      Option.some.injEq, ofChars?_eq_some_iff, ih]
    constructor
    · rintro ⟨label, rfl, labels, rfl, rfl⟩
      rfl
    · intro h
      obtain ⟨label, labels, rfl, hlabel, hlabels⟩ := List.map_eq_cons_iff.1 h
      exact ⟨label, hlabel, labels, hlabels, rfl⟩

end Label

/-! ### Names -/

/-- Whether the text is two labels with a dot between them. -/
def IsTopLevel (text : String) : Prop :=
  ∃ name space : Label, text = name.text ++ "." ++ space.text

namespace QualifiedName

/-- The labels in the order they are written. -/
def labels (qualified : QualifiedName) : List Label :=
  qualified.subdomain.toList ++ [qualified.name, qualified.space]

/-- The characters of a name are those of its labels with dots between them. -/
theorem toList_toText (qualified : QualifiedName) :
    qualified.toText.toList = List.intercalate ['.'] (qualified.labels.map Label.chars) := by
  obtain ⟨_ | subdomain, name, space⟩ := qualified <;>
    simp [toText, labels, Label.chars, List.intercalate_cons_cons, List.intercalate_singleton]

/-- A name is written so that its labels are found again. -/
theorem splitAll_toText (qualified : QualifiedName) :
    Text.splitAll '.' qualified.toText.toList = qualified.labels.map Label.chars := by
  rw [toList_toText]
  refine Text.splitAll_intercalate ?_ (by simp [labels])
  rw [List.forall_mem_map]
  exact fun label _ => label.not_mem_chars

/-- **Parsing.** A text stands for the name that is written so, and for no other. -/
theorem parse_eq_ok_iff {text : String} {qualified : QualifiedName} :
    parse text = .ok qualified ↔ qualified.toText = text := by
  constructor
  · intro h
    -- whatever is found has the labels that the text was split into
    have hlabels : (Text.splitAll '.' text.toList).mapM Label.ofChars? = some qualified.labels := by
      unfold parse at h
      split at h
      · cases h
      · next hfound => obtain rfl := Except.ok.inj h; exact hfound
      · next hfound => obtain rfl := Except.ok.inj h; exact hfound
      · cases h
    rw [Label.mapM_ofChars?_eq_some_iff] at hlabels
    refine String.toList_inj.1 ?_
    rw [toList_toText, hlabels, Text.join_splitAll]
  · rintro rfl
    have hlabels := Label.mapM_ofChars?_eq_some_iff.2 qualified.splitAll_toText.symm
    unfold parse
    rw [hlabels]
    obtain ⟨_ | subdomain, name, space⟩ := qualified <;> rfl

/-- Nothing but objections is raised to texts. -/
theorem exists_objection_of_parse {text : String} {fault : RegistryFault}
    (h : parse text = .error fault) : ∃ objection, fault = .invalid objection := by
  unfold parse at h
  split at h <;> first
    | exact ⟨_, (Except.error.inj h).symm⟩
    | cases h

/-- **Names that operations act on.** A text of two labels is taken as the name that they
    make, and to any other text there is an objection. -/
theorem parseTopLevel_cases (operation text : String) :
    (∃ name space : Label, text = name.text ++ "." ++ space.text ∧
      parseTopLevel operation text = .ok ⟨none, name, space⟩) ∨
    (¬ IsTopLevel text ∧
      ∃ objection, parseTopLevel operation text = .error (.invalid objection)) := by
  unfold parseTopLevel
  cases hparse : parse text with
  | error fault =>
    obtain ⟨objection, rfl⟩ := exists_objection_of_parse hparse
    refine .inr ⟨?_, objection, rfl⟩
    rintro ⟨name, space, rfl⟩
    have hfound : parse (name.text ++ "." ++ space.text) = .ok ⟨none, name, space⟩ :=
      parse_eq_ok_iff.2 rfl
    cases hparse.symm.trans hfound
  | ok qualified =>
    obtain rfl := parse_eq_ok_iff.1 hparse
    obtain ⟨_ | subdomain, name, space⟩ := qualified
    · exact .inl ⟨name, space, rfl, rfl⟩
    · refine .inr ⟨?_, _, rfl⟩
      rintro ⟨other, space', htext⟩
      -- the text would stand for two names, only one of which has a subdomain
      have hfound : parse (toText ⟨some subdomain, name, space⟩) = .ok ⟨none, other, space'⟩ :=
        parse_eq_ok_iff.2 htext.symm
      cases hparse.symm.trans hfound

/-- A name of two labels is accepted whatever it is for, and no other text is. -/
theorem isOk_parseTopLevel_iff (operation text : String) :
    (parseTopLevel operation text).isOk = true ↔ IsTopLevel text := by
  obtain ⟨name, space, htext, hparse⟩ | ⟨hnot, objection, hparse⟩ :=
    parseTopLevel_cases operation text
  · rw [hparse]
    exact ⟨fun _ => ⟨name, space, htext⟩, fun _ => rfl⟩
  · rw [hparse]
    exact ⟨fun h => (by cases h), fun h => absurd h hnot⟩

end QualifiedName

instance : DecidablePred IsTopLevel := fun text =>
  decidable_of_iff _ (QualifiedName.isOk_parseTopLevel_iff "use" text)

/-- Two labels, but not with a third in front and not with one of them empty. -/
example : IsTopLevel "alice.btc" ∧ ¬ IsTopLevel "bob.alice.btc" ∧ ¬ IsTopLevel "alice." := by decide

end Registry

end Registrar
