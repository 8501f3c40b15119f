import Registrar.Registry.Contract
import Registrar.Json.Record
import Registrar.Value.Literal

namespace Registrar.Registry

/-!
# Questions to the registry

Functions of the registry that change nothing are evaluated by a node.

* `Query`, `Query.call` — the questions, and the call that asks one;
* `ReadOnlyCall.path`, `ReadOnlyCall.request` — where the call is sent and what is
  sent;
* `ReadOnlyAnswer.value` — the value in the node's answer;
* `readPrice`, `readFlag` — the price or the flag in such a value.
-/

/-! ### Calls -/

/-- What the registry can be asked. Names are given as texts. -/
inductive Query where
  | spacePrice (space : String)
  | namePrice (name : String)
  | spaceAvailable (space : String)
  | nameAvailable (name : String)
deriving DecidableEq

/-- A call that changes nothing. -/
structure ReadOnlyCall where
  contract : RegistryContract
  function : ClarityName
  arguments : List Value
  /-- The account that the call is evaluated for. -/
  sender : Address
deriving DecidableEq

/-- The call that asks a question on the chain of a network; its name is looked at
    before its chain. -/
def Query.call (query : Query) (sender : Address) (network : Network) :
    Except RegistryFault ReadOnlyCall := do
  let (function, arguments) ← match query with
    | spacePrice space =>
      .ok ((⟨"get-namespace-price", by decide⟩ : ClarityName), [.bufferOfText space])
    | namePrice name => do
      let name ← QualifiedName.parseTopLevel "price" name
      .ok (⟨"get-name-price", by decide⟩,
        [.bufferOfText name.space.text, .bufferOfText name.name.text])
    | spaceAvailable space =>
      .ok (⟨"can-namespace-be-registered", by decide⟩, [.bufferOfText space])
    | nameAvailable name => do
      let name ← QualifiedName.parseTopLevel "check" name
      .ok (⟨"can-name-be-registered", by decide⟩,
        [.bufferOfText name.space.text, .bufferOfText name.name.text])
  let contract ← contractAt network.chainId
  return { contract, function, arguments, sender }

/-- The body of a request: the sender and the arguments in hexadecimal. -/
structure ReadOnlyRequest where
  sender : String
  arguments : List String
deriving DecidableEq

namespace ReadOnlyCall

/-- Where the call is sent, below the address of the node's interface. -/
def path (call : ReadOnlyCall) : String :=
  s!"v2/contracts/call-read/{call.contract.deployer.toText}/{call.contract.name.text}/"
    ++ call.function.text

/-- What is sent. -/
def request (call : ReadOnlyCall) : Except RegistryFault ReadOnlyRequest := do
  let arguments ← call.arguments.mapM fun argument => do
    let hex ← (Wire.toHex argument).mapError RegistryFault.chain
    return "0x" ++ hex
  return ⟨call.sender.toText, arguments⟩

end ReadOnlyCall

/-! ### Answers -/

/-- What a node answers. -/
structure ReadOnlyAnswer where
  /-- Whether the call was evaluated. -/
  okay : Bool
  /-- The value in hexadecimal. -/
  result : Option String
  /-- Why the call was not evaluated. -/
  cause : Option String
deriving DecidableEq

namespace ReadOnlyAnswer

/-- The answer that a JSON value stands for. -/
def ofJson (json : Json) : Except Json.Mismatch ReadOnlyAnswer := do
  let values ← json.readFields "struct ReadOnlyResponse"
    [.of "okay" Json.readBool, .optionalOf "result" Json.readText,
      .optionalOf "cause" Json.readText]
  match values with
  | [some okay, result, cause] =>
    return ⟨← okay.readBool, ← Json.readOptional Json.readText result,
      ← Json.readOptional Json.readText cause⟩
  | _ => throw (.missingField "okay")

/-- An optional text in JSON. -/
def optionalText : Option String → Json
  | some text => .string text
  | none => .null

/-- The answer in JSON. -/
def toJson (answer : ReadOnlyAnswer) : Json :=
  .object [("okay", .bool answer.okay), ("result", optionalText answer.result),
    ("cause", optionalText answer.cause)]

/-- The value in the answer; a call that was not evaluated is a fault of the other
    side. -/
def value (answer : ReadOnlyAnswer) : Except RegistryFault Value :=
  match answer.okay, answer.result with
  | true, some result => (Wire.ofHex result).mapError .chain
  | true, none => .error (.remote "Read-only call succeeded without a result")
  | false, _ => .error (.remote (answer.cause.getD "Read-only call failed"))

end ReadOnlyAnswer

/-- What a committed response holds; one that is not committed is a fault of the
    other side. -/
def committed (expected : String) : Value → Except RegistryFault Value
  | .response true data => .ok data
  | .response false data => .error (.remote data.toText)
  | value => .error (.unexpectedType expected value.toText)

/-- The price in a committed response: an unsigned number, or a signed one that is
    not negative. -/
def readPrice (value : Value) : Except RegistryFault (BitVec 128) := do
  let fault := RegistryFault.unexpectedType "(ok uint)" value.toText
  match ← committed "(ok uint)" value with
  | .uint price => .ok price
  | .int price => if 0 ≤ price.toInt then .ok price else .error fault
  | _ => .error fault

/-- The flag in a committed response. -/
def readFlag (value : Value) : Except RegistryFault Bool := do
  match ← committed "(ok bool)" value with
  | .bool flag => .ok flag
  | _ => .error (.unexpectedType "(ok bool)" value.toText)

end Registrar.Registry
