import Registrar.Proofs.Principal

namespace Registrar.Name

/-!
# Names on the wire

How wide a length is, how long a name may be and which characters it is made of are settled
apart for each kind, and the wire may allow what can no longer be given.

* `kinds` — the kinds in use;
* `toNat_length` — the bytes in front of a name say how long it is;
* `Kind.IsGiven`, `Kind.IsRead` — texts that can be given as a name and texts that some bytes
  are read as, with `Kind.isGiven_iff` and `Kind.isRead_iff`;
* `Kind.isRead_and_not_isGiven_iff` — the texts that only the wire allows;
* `wireForm_outcome` — how names of each kind travel, and which.
-/

open Wire

/-- The kinds in use. -/
def kinds : List Kind := [clarity, contract, source]

namespace Kind

variable {kind : Kind} {text : String}

/-- The text can be given as a name. -/
def IsGiven (kind : Kind) (text : String) : Prop :=
  ∃ name : Name kind, ofText text = .ok name

/-- Some bytes are read as the name with this text. -/
def IsRead (kind : Kind) (text : String) : Prop :=
  ∃ cursor next, ∃ name : Name kind,
    (decode : Decoder (Name kind)).run cursor = (.ok name, next) ∧ name.text = text

/-- The names that may be given are those that a text is checked for. -/
theorem isGiven_iff : kind.IsGiven text ↔ kind.allows text = true := by
  constructor
  · rintro ⟨name, hname⟩
    unfold ofText at hname
    split at hname
    · next hallows => exact hallows
    · cases hname
  · intro hallows
    exact ⟨_, dif_pos hallows⟩

/-- The names that may be read are those that the wire is checked for. -/
theorem isRead_iff : kind.IsRead text ↔ kind.allowsOnWire text = true := by
  constructor
  · rintro ⟨_, _, name, -, rfl⟩
    exact name.allowed
  · -- the name is read from the bytes it is written as
    intro hallowed
    have hread := reads (a := (⟨text, hallowed⟩ : Name kind)) rfl
    exact ⟨_, _, ⟨text, hallowed⟩, hread 0 [], rfl⟩

/-- What only the wire allows is longer than what can be given. -/
theorem isRead_and_not_isGiven_iff : kind.IsRead text ∧ ¬ kind.IsGiven text ↔
    kind.limit < text.utf8ByteSize ∧ text.utf8ByteSize ≤ kind.wireLimit ∧
      kind.grammar text.toList = true := by
  rw [isRead_iff, isGiven_iff]
  simp only [allows, allowsOnWire, Bool.and_eq_true, decide_eq_true_eq, not_and]
  constructor
  · rintro ⟨⟨hwire, hgrammar⟩, hlong⟩
    exact ⟨Nat.lt_of_not_le fun hshort => hlong hshort hgrammar, hwire, hgrammar⟩
  · rintro ⟨hlong, hwire, hgrammar⟩
    exact ⟨⟨hwire, hgrammar⟩, fun hshort => absurd hshort (Nat.not_le_of_lt hlong)⟩

/-- Of the kinds in use, only contracts have names that can no longer be given. -/
theorem isRead_and_not_isGiven_iff_of_mem (h : kind ∈ kinds) :
    kind.IsRead text ∧ ¬ kind.IsGiven text ↔
      kind = contract ∧ 41 ≤ text.utf8ByteSize ∧ text.utf8ByteSize ≤ 128 ∧
        contractGrammar text.toList = true := by
  rw [isRead_and_not_isGiven_iff]
  simp only [kinds, List.mem_cons, List.not_mem_nil, or_false] at h
  -- the two limits differ for names of contracts only
  have hother : kind.limit = kind.wireLimit → kind ≠ contract := by
    rintro hsame rfl
    exact absurd hsame (by decide)
  rcases h with rfl | rfl | rfl
  · have hsame : clarity.limit = clarity.wireLimit := rfl
    exact iff_of_false (by omega) fun hcontract => hother hsame hcontract.1
  · exact (and_iff_right rfl).symm
  · have hsame : source.limit = source.wireLimit := rfl
    exact iff_of_false (by omega) fun hcontract => hother hsame hcontract.1

end Kind

/-- **The bytes in front** of a name say how long it is. -/
theorem toNat_length {kind : Kind} (name : Name kind) :
    Bytes.toNat (Bytes.ofNat kind.lengthWidth name.bytes.length) = name.bytes.length :=
  Bytes.toNat_ofNat name.length_bytes_lt

/-- **Names travel** behind their length, one byte for the kinds of names that are given with
    255 bytes at most and four bytes for others, which is never too narrow. Each name is read
    from what it is written as, whatever follows, and what a name is read from is what it is
    written as. All texts that can be given are read, and the others that are read are the
    names of contracts of 41 to 128 bytes. -/
theorem wireForm_outcome {kind : Kind} (h : kind ∈ kinds) :
    kind.lengthWidth = (if kind.limit ≤ 255 then 1 else 4) ∧
    (∀ name : Name kind,
      Bytes.toNat (Bytes.ofNat kind.lengthWidth name.bytes.length) = name.bytes.length ∧
      encode name = .ok (Bytes.ofNat kind.lengthWidth name.bytes.length ++ name.bytes)) ∧
    (∀ (name : Name kind) (wire : Bytes), encode name = .ok wire → ∀ position suffix,
      (decode : Decoder (Name kind)).run ⟨position, wire ++ suffix⟩ =
        (.ok name, ⟨position + wire.length, suffix⟩)) ∧
    (∀ (cursor next : Cursor) (name : Name kind), decode.run cursor = (.ok name, next) →
      ∃ wire, encode name = .ok wire ∧ cursor.Spans wire next) ∧
    (∀ (text : String) (name : Name kind), ofText text = .ok name →
      name.text = text ∧ kind.IsRead text) ∧
    ∀ text : String, kind.IsRead text ∧ ¬ kind.IsGiven text ↔
      kind = contract ∧ 41 ≤ text.utf8ByteSize ∧ text.utf8ByteSize ≤ 128 ∧
        contractGrammar text.toList = true := by
  refine ⟨?_, fun name => ⟨name.toNat_length, rfl⟩, fun name wire hwire => reads hwire,
    fun cursor next name hrun => run_decode_eq_ok_iff.1 hrun, fun text name hname => ?_,
    fun text => Kind.isRead_and_not_isGiven_iff_of_mem h⟩
  · simp only [kinds, List.mem_cons, List.not_mem_nil, or_false] at h
    rcases h with rfl | rfl | rfl <;> rfl
  · have hallows : kind.allows text = true := Kind.isGiven_iff.1 ⟨name, hname⟩
    exact ⟨text_of_ofText hname, Kind.isRead_iff.2 (Kind.allowsOnWire_of_allows hallows)⟩

/-- A name of a contract that is too long to be given. -/
def fiftyLetters : ContractName := ⟨String.ofList (List.replicate 50 'a'), by decide⟩

/-- A contract name of fifty letters comes over the wire and cannot be given. -/
theorem wireForm_outcome_fiftyLetters : contract ∈ kinds ∧
    (decode : Decoder ContractName).run ⟨7, 50 :: fiftyLetters.bytes ++ [0xFF]⟩ =
      (.ok fiftyLetters, ⟨58, [0xFF]⟩) ∧
    contract.IsRead fiftyLetters.text ∧ ¬ contract.IsGiven fiftyLetters.text := by
  have hmem : contract ∈ kinds := by simp [kinds]
  obtain ⟨-, hform, hread, -, -, hlegacy⟩ := wireForm_outcome hmem
  have hrun := hread fiftyLetters _ (hform fiftyLetters).2 7 [0xFF]
  have hlength : fiftyLetters.text.utf8ByteSize = 50 := by decide
  refine ⟨hmem, hrun, (hlegacy _).2 ⟨rfl, ?_, ?_, ?_⟩⟩
  · omega
  · omega
  · decide

end Registrar.Name
