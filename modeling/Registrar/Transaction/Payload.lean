import Registrar.Value.Wire

namespace Registrar

/-!
# Payloads

What a transaction does.

* `Memo` — the block of 34 bytes that goes with a transfer;
* `ContractCall` — a call of a public function, written
  `ADDRESS.contract::function`;
* `Deployment` — the name and the source of a contract;
* `Payload` — a transfer, a call or a deployment.
-/

/-! ### Enumerations on the wire -/

/-- The version of the contract language. -/
inductive ClarityVersion where
  | first | second | third
deriving DecidableEq

instance : Wire.Enumeration ClarityVersion where
  title := "ClarityVersion"
  all := [.first, .second, .third]
  code
    | .first => 1
    | .second => 2
    | .third => 3
  mem_all a := by cases a <;> decide
  code_injective a b := by cases a <;> cases b <;> decide

/-- The kinds of payloads. -/
inductive PayloadTag where
  | transfer | deploy | call | deployVersioned
deriving DecidableEq

instance : Wire.Enumeration PayloadTag where
  title := "TransactionPayloadId"
  all := [.transfer, .deploy, .call, .deployVersioned]
  code
    | .transfer => 0x00
    | .deploy => 0x01
    | .call => 0x02
    | .deployVersioned => 0x06
  mem_all a := by cases a <;> decide
  code_injective a b := by cases a <;> cases b <;> decide

/-! ### Memos and calls -/

/-- The block of bytes that goes with a transfer. -/
abbrev Memo := Vector UInt8 34

/-- A memo of at most 34 bytes, padded with zeros behind. -/
def Memo.ofBytes (bytes : Bytes) : Except Fault Memo :=
  if bytes.length ≤ 34 then .ok (Bytes.fit 34 bytes) else .error (.argument .longMemo)

/-- The memo of zeros. -/
def Memo.blank : Memo := Vector.replicate 34 0

/-- A call of a public function with arguments in the order it declares them. -/
structure ContractCall where
  deployer : Address
  contract : ContractName
  function : ClarityName
  arguments : List Value
deriving DecidableEq

namespace ContractCall

/-- The contract's principal, two colons and the function's name. -/
def toText (call : ContractCall) : String :=
  call.deployer.toText ++ "." ++ call.contract.text ++ "::" ++ call.function.text

instance : Wire.Format ContractCall where
  encode call := Wire.joined [Wire.encode call.deployer, Wire.encode call.contract,
    Wire.encode call.function, Wire.encode call.arguments]
  decode := do
    let deployer ← Wire.decode
    let contract ← Wire.decode
    let function ← Wire.decode
    let arguments ← Wire.decode
    return { deployer, contract, function, arguments }

end ContractCall

/-! ### Deployments -/

/-- A contract to deploy: its name and its source. -/
structure Deployment where
  name : ContractName
  code : SourceText
deriving DecidableEq

instance : Wire.Format Deployment where
  encode deployment := Wire.joined [Wire.encode deployment.name, Wire.encode deployment.code]
  decode := do
    let name ← Wire.decode
    let code ← Wire.decode
    return { name, code }

/-! ### Payloads -/

/-- What a transaction does. -/
inductive Payload where
  /-- Sends an amount of the native coin. -/
  | transfer (recipient : Principal) (amount : UInt64) (memo : Memo)
  /-- Calls a public function. -/
  | call (call : ContractCall)
  /-- Deploys a contract, possibly for one version of the language. -/
  | deploy (name : ContractName) (code : SourceText) (version : Option ClarityVersion)
deriving DecidableEq

namespace Payload

/-- Reads the name and the source of a contract that is deployed for a version. -/
def decodeDeploy (version : Option ClarityVersion) : Wire.Decoder Payload := do
  let deployment : Deployment ← Wire.decode
  return deploy deployment.name deployment.code version

instance : Wire.Format Payload where
  encode
    | transfer recipient amount memo => Wire.joined [Wire.encode PayloadTag.transfer,
        Wire.encode recipient, Wire.encode amount, Wire.encode memo]
    | call c => Wire.joined [Wire.encode PayloadTag.call, Wire.encode c]
    | deploy name code none =>
      Wire.joined [Wire.encode PayloadTag.deploy, Wire.encode (Deployment.mk name code)]
    | deploy name code (some version) => Wire.joined [Wire.encode PayloadTag.deployVersioned,
        Wire.encode version, Wire.encode (Deployment.mk name code)]
  decode := do
    let tag : PayloadTag ← Wire.decode
    match tag with
    | .transfer => do
      let recipient ← Wire.decode
      let amount ← Wire.decode
      let memo ← Wire.decode
      return transfer recipient amount memo
    | .call => return call (← Wire.decode)
    | .deploy => decodeDeploy none
    | .deployVersioned => do
      let version ← Wire.decode
      decodeDeploy (some version)

end Payload

end Registrar
