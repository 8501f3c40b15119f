import Registrar.Value.Basic

namespace Registrar.Value

/-!
# The types of values

* `typeName` — the structural type of a value, as far as one value tells it: the
  type of the branch not taken, or of the items of an empty list, is unknown;
* `asUint`, `asInt`, … — the content of a value of an expected type.
-/

/-- The type that a value tells nothing about. -/
def unknownType : List Char := "UnknownType".toList

/-- The characters of the type of a value. -/
def typeChars : Value → List Char
  | int _ => "int".toList
  | uint _ => "uint".toList
  | bool _ => "bool".toList
  | principal _ => "principal".toList
  | buffer bytes => s!"(buff {bytes.length})".toList
  | ascii text => s!"(string-ascii {text.utf8ByteSize})".toList
  | utf8 text => s!"(string-utf8 {text.utf8ByteSize})".toList
  | none => "(optional none)".toList
  | some value => "(optional ".toList ++ typeChars value ++ [')']
  | response true data =>
    "(response ".toList ++ typeChars data ++ ' ' :: unknownType ++ [')']
  | response false data =>
    "(response ".toList ++ unknownType ++ ' ' :: typeChars data ++ [')']
  | list [] => "(list 0 ".toList ++ unknownType ++ [')']
  | list (first :: rest) =>
    s!"(list {rest.length + 1} ".toList ++ typeChars first ++ [')']
  | tuple ⟨keys, _, value⟩ =>
    "(tuple ".toList
      ++ [' '].intercalate ((List.finRange keys.length).map fun i =>
        '(' :: keys[i].text.toList ++ ' ' :: typeChars (value i) ++ [')'])
      ++ [')']
termination_by structural v => v

/-- The structural type of a value. -/
def typeName (value : Value) : String := String.ofList (typeChars value)

/-! ### Expected types -/

/-- The fault of a value that has not the expected type. -/
def unexpected (value : Value) (expected : String) : Fault :=
  .unexpectedType expected value.typeName

/-- The number of an unsigned number. -/
def asUint : Value → Except Fault (BitVec 128)
  | uint number => .ok number
  | value => .error (value.unexpected "uint")

/-- The number of a signed number. -/
def asInt : Value → Except Fault (BitVec 128)
  | int number => .ok number
  | value => .error (value.unexpected "int")

/-- The flag of a truth value. -/
def asBool : Value → Except Fault Bool
  | bool flag => .ok flag
  | value => .error (value.unexpected "bool")

/-- The bytes of a buffer. -/
def asBuffer : Value → Except Fault Bytes
  | buffer bytes => .ok bytes
  | value => .error (value.unexpected "buff")

/-- The value inside an optional value, if there is one. -/
def asOptional : Value → Except Fault (Option Value)
  | none => .ok Option.none
  | some value => .ok (Option.some value)
  | value => .error (value.unexpected "optional")

/-- Whether a response is committed, and its data. -/
def asResponse : Value → Except Fault (Bool × Value)
  | response committed data => .ok (committed, data)
  | value => .error (value.unexpected "response")

/-- The entries of a tuple. -/
def asTuple : Value → Except Fault (Tuple Value)
  | tuple entries => .ok entries
  | value => .error (value.unexpected "tuple")

/-- The items of a list. -/
def asList : Value → Except Fault (List Value)
  | list items => .ok items
  | value => .error (value.unexpected "list")

/-- The principal of a principal value. -/
def asPrincipal : Value → Except Fault Principal
  | principal p => .ok p
  | value => .error (value.unexpected "principal")

/-- The text of an ASCII string. -/
def asAscii : Value → Except Fault String
  | ascii text => .ok text
  | value => .error (value.unexpected "string-ascii")

end Registrar.Value
