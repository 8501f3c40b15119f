import Registrar.Address
import Registrar.Name
import Registrar.Text.Split

namespace Registrar

/-!
# Principals

* `Principal` — an account, or a contract of an account;
* `Principal.toText` / `Principal.parse` — an address, with a dot and the
  contract's name behind it for a contract;
* `Principal.body`, `Principal.decodeBody` — the wire form after the type tag.
-/

/-- Who holds assets: an account, or a contract that an account deployed. -/
inductive Principal where
  | account (address : Address)
  | contract (deployer : Address) (name : ContractName)
deriving DecidableEq

namespace Principal

/-- The account, or the deployer of the contract. -/
def address : Principal → Address
  | account address => address
  | contract deployer _ => deployer

/-! ### Text -/

/-- The address, followed by a dot and the name for a contract. -/
def toText : Principal → String
  | account address => address.toText
  | contract deployer name => deployer.toText ++ "." ++ name.text

/-- The principal that a text stands for; what follows the first dot names a
    contract. -/
def parse (text : String) : Except Fault Principal :=
  match Text.splitFirst? ['.'] text.toList with
  | some (address, name) => do
    let deployer ← Address.parse (String.ofList address)
    let name ← Name.ofText (String.ofList name)
    return contract deployer name
  | none => do
    return account (← Address.parse text)

/-! ### Wire form -/

/-- The type tag of a principal. -/
def tag : Principal → UInt8
  | account _ => 5
  | contract _ _ => 6

/-- What follows the type tag. -/
def body : Principal → Except Wire.EncodeFault Bytes
  | account address => Wire.encode address
  | contract deployer name => Wire.joined [Wire.encode deployer, Wire.encode name]

/-- Reads what follows the type tag, an account or a contract. -/
def decodeBody (isContract : Bool) : Wire.Decoder Principal := do
  let address ← Wire.decode
  if isContract then
    let name ← Wire.decode
    return contract address name
  else return account address

instance : Wire.Format Principal where
  encode principal := Wire.joined [.ok [principal.tag], principal.body]
  decode := do
    let offset ← Wire.Decoder.position
    let byte ← Wire.Decoder.byte
    if byte = 5 then decodeBody false
    else if byte = 6 then decodeBody true
    else Wire.Decoder.fail (.invalidData offset (.notPrincipal byte))

end Principal

end Registrar
