import Registrar.Wire.Format

namespace Registrar

/-!
# Names

Texts that follow a grammar and have a bounded length: the names of functions,
assets and tuple keys, the names of contracts, and the source of a contract.
The wire may hold names that can no longer be given.

* `Name.Kind` — the grammar, the limits and the width of the length on the wire;
* `Name` — a text that the wire accepts as a name of its kind;
* `Name.ofText` — a name as it can be given today;
* `ClarityName`, `ContractName`, `SourceText` — the three kinds.
-/

/-- What texts are names of a kind, and how they travel. -/
structure Name.Kind where
  /-- How many bytes hold the length on the wire. -/
  lengthWidth : Nat
  /-- The most bytes of a name that is given today. -/
  limit : Nat
  /-- The most bytes of a name that the wire may hold. -/
  wireLimit : Nat
  grammar : List Char → Bool
  /-- What a user is told about another text. -/
  complaint : String
  limit_le : limit ≤ wireLimit
  wireLimit_lt : wireLimit < Bytes.capacity lengthWidth

/-- Whether the text can be given as a name today. -/
def Name.Kind.allows (kind : Name.Kind) (text : String) : Bool :=
  text.utf8ByteSize ≤ kind.limit && kind.grammar text.toList

/-- Whether the wire may hold the text as a name. -/
def Name.Kind.allowsOnWire (kind : Name.Kind) (text : String) : Bool :=
  text.utf8ByteSize ≤ kind.wireLimit && kind.grammar text.toList

theorem Name.Kind.allowsOnWire_of_allows {kind : Name.Kind} {text : String}
    (h : kind.allows text = true) : kind.allowsOnWire text = true := by
  have := kind.limit_le
  simp only [allows, allowsOnWire, Bool.and_eq_true, decide_eq_true_eq] at h ⊢
  exact ⟨by omega, h.2⟩

/-- A text that the wire accepts as a name of its kind. -/
structure Name (kind : Name.Kind) where
  text : String
  allowed : kind.allowsOnWire text = true
deriving DecidableEq

namespace Name

variable {kind : Kind}

/-- The bytes of the name. -/
def bytes (name : Name kind) : Bytes := Text.bytes name.text

/-- The name with a text that can be given today. -/
def ofText (text : String) : Except Fault (Name kind) :=
  if h : kind.allows text = true then .ok ⟨text, Kind.allowsOnWire_of_allows h⟩
  else .error (.argument (.badName kind.complaint))

/-- Names are ordered by their bytes. -/
instance : LT (Name kind) := ⟨fun a b => a.bytes < b.bytes⟩

instance (a b : Name kind) : Decidable (a < b) := inferInstanceAs (Decidable (a.bytes < b.bytes))

/-- Names in their order, each as often as it was given. -/
def sorted (names : List (Name kind)) : List (Name kind) :=
  names.mergeSort fun a b => !decide (b < a)

instance : Wire.Format (Name kind) where
  encode name := .ok (Bytes.ofNat kind.lengthWidth name.bytes.length ++ name.bytes)
  decode := do
    let offset ← Wire.Decoder.position
    let length ← Wire.Decoder.natural kind.lengthWidth
    let raw ← Wire.Decoder.bytes length
    match Text.ofBytes raw with
    | .error fault => Wire.Decoder.fail (.invalidData offset (.notUtf8 fault))
    | .ok text =>
      if h : kind.allowsOnWire text = true then return ⟨text, h⟩
      else Wire.Decoder.fail (.invalidData offset (.badName kind.complaint))

end Name

/-! ### The kinds in use -/

/-- A letter and then letters, digits and some signs, or an operator on its own. -/
def Name.clarityGrammar : List Char → Bool
  | [] => false
  | first :: rest =>
    (first.isAlpha && rest.all fun c => c.isAlphanum || "-_!?+<>=/*".toList.contains c)
      || ["-", "+", "=", "/", "*", "<", ">", "<=", ">="].any fun operator =>
        operator.toList == first :: rest

/-- A letter and then letters, digits, hyphens and underscores, or the one name
    of a contract that is not kept. -/
def Name.contractGrammar : List Char → Bool
  | [] => false
  | first :: rest =>
    (first.isAlpha && rest.all fun c => c.isAlphanum || c == '_' || c == '-')
      || "__transient".toList == first :: rest

/-- Any ASCII text. -/
def Name.sourceGrammar (text : List Char) : Bool := text.all fun c => c.toNat < 0x80

/-- The names of functions, assets and tuple keys. -/
def Name.clarity : Name.Kind where
  lengthWidth := 1
  limit := 128
  wireLimit := 128
  grammar := Name.clarityGrammar
  complaint := "Clarity name not valid"
  limit_le := by decide
  wireLimit_lt := by decide

/-- The names of contracts, once allowed to be longer than they may be today. -/
def Name.contract : Name.Kind where
  lengthWidth := 1
  limit := 40
  wireLimit := 128
  grammar := Name.contractGrammar
  complaint := "Contract name not valid"
  limit_le := by decide
  wireLimit_lt := by decide

/-- The source of a contract. -/
def Name.source : Name.Kind where
  lengthWidth := 4
  limit := UInt32.size - 1
  wireLimit := UInt32.size - 1
  grammar := Name.sourceGrammar
  complaint := "Stacks string must be ASCII"
  limit_le := by decide
  wireLimit_lt := by decide

/-- The name of a function, an asset or a tuple key. -/
abbrev ClarityName := Name Name.clarity

/-- The name of a contract. -/
abbrev ContractName := Name Name.contract

/-- The source of a contract. -/
abbrev SourceText := Name Name.source

end Registrar
