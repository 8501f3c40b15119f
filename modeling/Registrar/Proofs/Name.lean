import Registrar.Name
import Registrar.Proofs.Hex

namespace Registrar.Name

/-!
# Names, their texts and their order

* `text_injective`, `bytes_injective` — a name is known by its text and by its bytes;
* `length_bytes_le` — a name is no longer than the wire allows;
* `eq_of_not_lt` — of two names that differ one comes first;
* `ofText_text`, `ofText_text_of_long` — the text of a name is a name again, unless the wire
  alone allows its length.
-/

variable {kind : Kind}

/-! ### Texts and bytes -/

/-- A name is known by its text. -/
theorem text_injective : Function.Injective (text : Name kind → String) := by
  rintro ⟨text, _⟩ ⟨_, _⟩ rfl
  rfl

/-- A name is known by its bytes, as they are those of its text. -/
theorem bytes_injective : Function.Injective (bytes : Name kind → Bytes) :=
  fun _ _ h => text_injective (Text.bytes_injective h)

theorem length_bytes (name : Name kind) : name.bytes.length = name.text.utf8ByteSize := by
  simp [bytes, Text.bytes]

/-- A name is no longer than the wire allows. -/
theorem length_bytes_le (name : Name kind) : name.bytes.length ≤ kind.wireLimit := by
  have h := name.allowed
  rw [Kind.allowsOnWire, Bool.and_eq_true, decide_eq_true_eq] at h
  rw [length_bytes]
  exact h.1

/-- All names keep to the grammar of their kind, wherever they come from. -/
theorem grammar_toList (name : Name kind) : kind.grammar name.text.toList = true := by
  have h := name.allowed
  rw [Kind.allowsOnWire, Bool.and_eq_true] at h
  exact h.2

/-! ### Order -/

/-- Of two names that differ one comes first. -/
theorem eq_of_not_lt {a b : Name kind} (hab : ¬ a < b) (hba : ¬ b < a) : a = b :=
  bytes_injective (List.le_antisymm (List.not_lt.1 hba) (List.not_lt.1 hab))

/-! ### Names that can be given -/

/-- The text of a name can be given exactly if it is short enough today. -/
theorem allows_text_iff (name : Name kind) :
    kind.allows name.text = true ↔ name.bytes.length ≤ kind.limit := by
  rw [Kind.allows, Bool.and_eq_true, decide_eq_true_eq, length_bytes]
  exact and_iff_left name.grammar_toList

/-- The text of a name is taken for it again if it is no longer than texts may be. -/
theorem ofText_text {name : Name kind} (h : name.bytes.length ≤ kind.limit) :
    ofText name.text = .ok name :=
  dif_pos (name.allows_text_iff.2 h)

/-- The names of functions, assets and keys are as long on the wire as they may be given. -/
theorem ofText_clarity (name : ClarityName) : ofText name.text = .ok name :=
  ofText_text name.length_bytes_le

/-- A name that only the wire allows is refused as text. -/
theorem ofText_text_of_long {name : Name kind} (h : kind.limit < name.bytes.length) :
    (ofText name.text : Except Fault (Name kind)) =
      .error (.argument (.badName kind.complaint)) :=
  dif_neg fun hallows => Nat.not_le_of_lt h (name.allows_text_iff.1 hallows)

/-- A name that is made from a text has this text. -/
theorem text_of_ofText {text : String} {name : Name kind} (h : ofText text = .ok name) :
    name.text = text := by
  unfold ofText at h
  split at h
  · obtain rfl := Except.ok.inj h
    rfl
  · cases h

end Registrar.Name
