import Registrar.Principal
import Registrar.Value.Tuple

namespace Registrar

/-!
# Clarity values

The typed values that contracts take and return.

* `Value` — the eleven kinds of values;
* `Value.asciiText`, `Value.ofEntries`, `Value.ofText` — constructors that check
  what they are given;
* `Value.Kind` — the kinds as they are tagged on the wire;
* `Value.induction` — a property holds of all values if it passes from the values
  inside a value to the value;
* equality of values is decidable.
-/

/-- A typed value of the contract language. -/
inductive Value where
  /-- A signed number of 128 bits. -/
  | int (number : BitVec 128)
  /-- An unsigned number of 128 bits. -/
  | uint (number : BitVec 128)
  | bool (flag : Bool)
  | buffer (bytes : Bytes)
  | principal (principal : Principal)
  /-- The outcome of a public function, kept if it is committed. -/
  | response (committed : Bool) (data : Value)
  | none
  | some (value : Value)
  | list (items : List Value)
  | tuple (entries : Tuple Value)
  | ascii (text : String)
  | utf8 (text : String)

namespace Value

/-! ### Constructors -/

/-- The outcome that is kept. -/
abbrev okay (data : Value) : Value := response true data

/-- The outcome that is undone. -/
abbrev error (data : Value) : Value := response false data

/-- A buffer with the bytes of a text. -/
def bufferOfText (text : String) : Value := buffer (Text.bytes text)

/-- An ASCII string, if the text is one. -/
def asciiText (text : String) : Except Fault Value :=
  if Text.isAscii (Text.bytes text) then .ok (ascii text) else .error (.argument .notAscii)

/-- The tuple of entries, if their keys are distinct. -/
def ofEntries (entries : List (Tuple.Entry Value)) : Except Fault Value :=
  match Tuple.ofEntries entries with
  | .ok entries => .ok (tuple entries)
  | .error key => .error (.duplicateKey key.text)

/-- The tuple of entries with keys given as texts, all of which are looked at
    before any two are compared. -/
def ofText (entries : List (String × Value)) : Except Fault Value := do
  let entries ← entries.mapM fun (key, value) => do
    let key ← Name.ofText key
    return (key, value)
  ofEntries entries

/-- A principal given as text. -/
def principalOfText (text : String) : Except Fault Value := do
  return principal (← Principal.parse text)

/-! ### Kinds -/

/-- The kinds of values as they are tagged on the wire. -/
inductive Kind where
  | int | uint | buffer | boolTrue | boolFalse | principalAccount | principalContract
  | responseOk | responseErr | optionalNone | optionalSome | list | tuple | ascii | utf8
deriving DecidableEq

instance : Wire.Enumeration Kind where
  title := "type prefix"
  all := [.int, .uint, .buffer, .boolTrue, .boolFalse, .principalAccount, .principalContract,
    .responseOk, .responseErr, .optionalNone, .optionalSome, .list, .tuple, .ascii, .utf8]
  code
    | .int => 0
    | .uint => 1
    | .buffer => 2
    | .boolTrue => 3
    | .boolFalse => 4
    | .principalAccount => 5
    | .principalContract => 6
    | .responseOk => 7
    | .responseErr => 8
    | .optionalNone => 9
    | .optionalSome => 10
    | .list => 11
    | .tuple => 12
    | .ascii => 13
    | .utf8 => 14
  mem_all a := by cases a <;> decide
  code_injective a b := by cases a <;> cases b <;> decide

/-- The kind of a value. -/
def kind : Value → Kind
  | int _ => .int
  | uint _ => .uint
  | bool true => .boolTrue
  | bool false => .boolFalse
  | buffer _ => .buffer
  | principal (.account _) => .principalAccount
  | principal (.contract _ _) => .principalContract
  | response true _ => .responseOk
  | response false _ => .responseErr
  | none => .optionalNone
  | some _ => .optionalSome
  | list _ => .list
  | tuple _ => .tuple
  | ascii _ => .ascii
  | utf8 _ => .utf8

/-! ### Induction -/

section

variable {P : Value → Prop}

mutual

/-- A property holds of all values if it passes from the values inside a value to
    the value. -/
theorem induction (int : ∀ n, P (int n)) (uint : ∀ n, P (uint n)) (bool : ∀ b, P (bool b))
    (buffer : ∀ bytes, P (buffer bytes)) (principal : ∀ p, P (principal p))
    (response : ∀ committed data, P data → P (response committed data))
    (none : P none) (some : ∀ v, P v → P (some v))
    (list : ∀ items, (∀ v ∈ items, P v) → P (list items))
    (tuple : ∀ entries, (∀ i, P (entries.value i)) → P (tuple entries))
    (ascii : ∀ text, P (ascii text)) (utf8 : ∀ text, P (utf8 text)) : ∀ v, P v
  | .int n => int n
  | .uint n => uint n
  | .bool b => bool b
  | .buffer bytes => buffer bytes
  | .principal p => principal p
  | .response committed data => response committed data
      (induction int uint bool buffer principal response none some list tuple ascii utf8 data)
  | .none => none
  | .some v => some v
      (induction int uint bool buffer principal response none some list tuple ascii utf8 v)
  | .list items => list items
      (inductionItems int uint bool buffer principal response none some list tuple ascii utf8 items)
  | .tuple ⟨keys, sorted, value⟩ => tuple ⟨keys, sorted, value⟩ fun i =>
      induction int uint bool buffer principal response none some list tuple ascii utf8 (value i)
  | .ascii text => ascii text
  | .utf8 text => utf8 text
termination_by structural v => v

/-- The same for the items of a list. -/
theorem inductionItems (int : ∀ n, P (.int n)) (uint : ∀ n, P (.uint n))
    (bool : ∀ b, P (.bool b)) (buffer : ∀ bytes, P (.buffer bytes))
    (principal : ∀ p, P (.principal p))
    (response : ∀ committed data, P data → P (.response committed data))
    (none : P .none) (some : ∀ v, P v → P (.some v))
    (list : ∀ items, (∀ v ∈ items, P v) → P (.list items))
    (tuple : ∀ entries, (∀ i, P (entries.value i)) → P (.tuple entries))
    (ascii : ∀ text, P (.ascii text)) (utf8 : ∀ text, P (.utf8 text)) :
    ∀ items : List Value, ∀ v ∈ items, P v
  | [], _, h => by simp at h
  | first :: rest, v, h => (List.mem_cons.1 h).elim
      (fun e => e ▸
        induction int uint bool buffer principal response none some list tuple ascii utf8 first)
      (inductionItems int uint bool buffer principal response none some list tuple ascii utf8
        rest v)
termination_by structural items => items

end

end

/-! ### Equality -/

mutual

/-- Whether two values are the same. -/
def same : Value → Value → Bool
  | int a, int b => a == b
  | uint a, uint b => a == b
  | bool a, bool b => a == b
  | buffer a, buffer b => a == b
  | principal a, principal b => a == b
  | response c a, response d b => c == d && same a b
  | none, none => true
  | some a, some b => same a b
  | list as, list bs => sameItems as bs
  | tuple ⟨keys, _, value⟩, tuple ⟨keys', _, value'⟩ =>
    if h : keys = keys' then
      (List.finRange keys.length).all fun i => same (value i) (value' (i.cast (by rw [h])))
    else false
  | ascii a, ascii b => a == b
  | utf8 a, utf8 b => a == b
  | _, _ => false
termination_by structural v => v

/-- Whether two lists hold the same values. -/
def sameItems : List Value → List Value → Bool
  | [], [] => true
  | a :: as, b :: bs => same a b && sameItems as bs
  | _, _ => false
termination_by structural items => items

end

theorem sameItems_eq_true_iff {as : List Value}
    (h : ∀ a ∈ as, ∀ b, same a b = true ↔ a = b) (bs : List Value) :
    sameItems as bs = true ↔ as = bs := by
  induction as generalizing bs with
  | nil => cases bs <;> simp [sameItems]
  | cons a as ih =>
    cases bs with
    | nil => simp [sameItems]
    | cons b bs =>
      simp [sameItems, h a (by simp) b, ih (fun a ha => h a (by simp [ha])) bs]

theorem same_eq_true_iff (v w : Value) : same v w = true ↔ v = w := by
  induction v using induction generalizing w with
  | list items ih => cases w <;> simp [same, sameItems_eq_true_iff ih]
  | tuple entries ih =>
    obtain ⟨keys, sorted, value⟩ := entries
    cases w with
    | tuple entries' =>
      obtain ⟨keys', sorted', value'⟩ := entries'
      simp only [same]
      by_cases h : keys = keys'
      · subst h
        simp [ih, funext_iff]
      · simp [h]
    | _ => simp [same]
  | response c a ih => cases w <;> simp [same, ih]
  | some a ih => cases w <;> simp [same, ih]
  | _ => cases w <;> simp [same]

instance : DecidableEq Value := fun v w => decidable_of_iff _ (same_eq_true_iff v w)

end Value

end Registrar
