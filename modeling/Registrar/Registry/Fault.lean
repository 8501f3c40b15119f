import Registrar.Fault

namespace Registrar.Registry

/-!
# Faults of the registry

* `Objection` — why a request makes no sense before anything is encoded;
* `RegistryFault` — why a request is refused or an answer is of no use.
-/

/-- Why a request makes no sense before anything is encoded. -/
inductive Objection where
  /-- Two dots stand side by side, or one at an end. -/
  | emptyLabel (text : String)
  /-- A name has neither two nor three labels. -/
  | labelCount (text : String)
  /-- The operation does not act on names below a name. -/
  | subdomain (operation text : String)
  /-- A kind of registration never takes the step. -/
  | noStep (kind step : String)
  /-- The step is not the one that comes next. -/
  | outOfTurn (step kind phase : String)
deriving DecidableEq

/-- What a user is told about the objection. -/
def Objection.message : Objection → String
  | emptyLabel text => Text.quoted text ++ " contains an empty label"
  | labelCount text =>
    Text.quoted text ++ " is not of the form name.namespace or subdomain.name.namespace"
  | subdomain operation text => s!"Cannot {operation} a subdomain: {text}"
  | noStep kind step => s!"A {kind} has no {step} step"
  | outOfTurn step kind phase => s!"Cannot {step} a {kind} that is {phase}"

/-- Why a request is refused or an answer is of no use. -/
inductive RegistryFault where
  | invalid (objection : Objection)
  /-- No registry is known on the chain. -/
  | unknownChain (chainId : UInt32)
  /-- The answer has another shape than the one asked for. -/
  | unexpectedType (expected found : String)
  /-- The contract or its node answered with an error. -/
  | remote (answer : String)
  | chain (fault : Fault)
deriving DecidableEq

namespace RegistryFault

/-- What a user is told about the fault. -/
def message : RegistryFault → String
  | invalid objection => "Invalid input: " ++ objection.message
  | unknownChain chainId =>
    "No BNS contract is known for chain id " ++ Hex.numeral 8 chainId.toNat
  | unexpectedType expected found => s!"Expected {expected}, found {found}"
  | remote answer => "Contract returned an error: " ++ answer
  | chain fault => "Stacks error: " ++ fault.message

/-- The faults that this fault goes back to, the nearest first. -/
def causes : RegistryFault → List String
  | chain fault => fault.message :: fault.causes
  | _ => []

end RegistryFault

end Registrar.Registry
