import Registrar.Json.Basic
import Registrar.Text.Quoted

namespace Registrar.Json

/-!
# Records from JSON

A record is read from an object, or from an array of its fields in their order.

* `Mismatch` — why a JSON value is not one of an expected type;
* `readText`, `readParsed`, `readBool`, `readWord` — simple values;
* `Field`, `readFields` — the fields of a record. The members of an object are
  looked at in key order, and fields that are missing are reported after that.
-/

/-- Why a JSON value is not one of an expected type. -/
inductive Mismatch where
  /-- The value is of another type. -/
  | wrongType (found : Json) (expected : String)
  /-- The value is of the type but not among its values. -/
  | wrongValue (found : Json) (expected : String)
  /-- A list has another number of items. -/
  | wrongLength (length : Nat) (expected : String)
  | missingField (field : String)
  | unknownVariant (name : String) (variants : List String)
  /-- The value is none of the alternatives of a type. -/
  | noAlternative (type : String)
  /-- The value has the type but its content is refused. -/
  | content (complaint : String)

/-- What a message calls a value. -/
def describe : Json → String
  | null => "null"
  | bool flag => s!"boolean `{flag}`"
  | integer number => s!"integer `{number}`"
  | decimal number => s!"floating point `{number.text}`"
  | string text => "string " ++ Text.quoted text
  | array _ => "sequence"
  | object _ => "map"

/-- Names in a row, as a message offers them. -/
def offered (names : List String) : String :=
  match names with
  | [] => "there are no variants"
  | [a] => s!"expected `{a}`"
  | [a, b] => s!"expected `{a}` or `{b}`"
  | names => "expected one of " ++ ", ".intercalate (names.map fun name => s!"`{name}`")

/-- What a user is told about the mismatch. -/
def Mismatch.message : Mismatch → String
  | wrongType found expected => s!"invalid type: {found.describe}, expected {expected}"
  | wrongValue found expected => s!"invalid value: {found.describe}, expected {expected}"
  | wrongLength length expected => s!"invalid length {length}, expected {expected}"
  | missingField field => s!"missing field `{field}`"
  | unknownVariant name variants => s!"unknown variant `{name}`, {offered variants}"
  | noAlternative type => s!"data did not match any variant of untagged enum {type}"
  | content complaint => complaint

/-! ### Simple values -/

/-- A text. -/
def readText : Json → Except Mismatch String
  | string text => .ok text
  | json => .error (.wrongType json "a string")

/-- What a text is parsed as; a fault of the parser is told in its own words. -/
def readParsed {α ε : Type} (parse : String → Except ε α) (message : ε → String) (json : Json) :
    Except Mismatch α := do
  let text ← json.readText
  (parse text).mapError fun fault => .content (message fault)

/-- A truth value. -/
def readBool : Json → Except Mismatch Bool
  | bool flag => .ok flag
  | json => .error (.wrongType json "a boolean")

/-- An unsigned number of 64 bits. -/
def readWord (json : Json) : Except Mismatch UInt64 :=
  match json with
  | integer number =>
    if 0 ≤ number && number < UInt64.size then .ok (UInt64.ofNat number.toNat)
    else .error (.wrongValue json "u64")
  | json => .error (.wrongType json "u64")

/-- A value that may be missing or null. -/
def readOptional {α : Type} (read : Json → Except Mismatch α) :
    Option Json → Except Mismatch (Option α)
  | none | some null => .ok none
  | some json => do
    let a ← read json
    return some a

/-! ### Records -/

/-- A field of a record: its name, whether it may be missing, and what its value
    has to be. -/
structure Field where
  name : String
  optional : Bool := false
  check : Json → Except Mismatch Unit

/-- The field that a reader reads. -/
def Field.of {α : Type} (name : String) (read : Json → Except Mismatch α) : Field where
  name := name
  check json := do let _ ← read json

/-- The field that a reader reads and that may be missing. -/
def Field.optionalOf {α : Type} (name : String) (read : Json → Except Mismatch α) : Field where
  name := name
  optional := true
  check json := do let _ ← readOptional read (some json)

/-- The values of the fields in the items of an array, all of them present. -/
def fieldsOfArray (expected : String) (count : Nat) :
    List Field → List Json → Except Mismatch (List (Option Json))
  | [], [] => .ok []
  | [], rest => .error (.wrongLength (count + rest.length) "fewer elements in array")
  | _ :: _, [] => .error (.wrongLength count expected)
  | field :: fields, item :: items => do
    field.check item
    let values ← fieldsOfArray expected (count + 1) fields items
    return some item :: values

/-- The values of the fields of the record with a name. -/
def readFields (record : String) (fields : List Field) (json : Json) :
    Except Mismatch (List (Option Json)) :=
  match json with
  | array items => fieldsOfArray s!"{record} with {fields.length} elements" 0 fields items
  | object members => do
    let members := ordered members
    members.forM fun (key, value) =>
      match fields.find? (·.name == key) with
      | some field => field.check value
      | none => .ok ()
    fields.mapM fun field =>
      match members.lookup field.name with
      | some value => .ok (some value)
      | none => if field.optional then .ok none else .error (.missingField field.name)
  | json => .error (.wrongType json record)

end Registrar.Json
