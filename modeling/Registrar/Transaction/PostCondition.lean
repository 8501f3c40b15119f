import Registrar.Value.Wire

namespace Registrar

/-!
# Post conditions

What has to hold of the assets that move when a transaction runs.

* `Asset` — an asset that a contract defines, written `ADDRESS.contract::asset`;
* `PostConditionPrincipal` — whose assets are meant;
* `PostCondition` — a bound on an amount, or whether a token leaves its holder.
-/

/-! ### Enumerations on the wire -/

/-- How the amount sent compares to the amount stated. -/
inductive AmountCode where
  | sentEq | sentGt | sentGe | sentLt | sentLe
deriving DecidableEq

instance : Wire.Enumeration AmountCode where
  title := "FungibleConditionCode"
  all := [.sentEq, .sentGt, .sentGe, .sentLt, .sentLe]
  code
    | .sentEq => 0x01
    | .sentGt => 0x02
    | .sentGe => 0x03
    | .sentLt => 0x04
    | .sentLe => 0x05
  mem_all a := by cases a <;> decide
  code_injective a b := by cases a <;> cases b <;> decide

/-- Whether a token leaves its holder. -/
inductive TokenCode where
  | sent | notSent
deriving DecidableEq

instance : Wire.Enumeration TokenCode where
  title := "NonfungibleConditionCode"
  all := [.sent, .notSent]
  code
    | .sent => 0x10
    | .notSent => 0x11
  mem_all a := by cases a <;> decide
  code_injective a b := by cases a <;> cases b <;> decide

/-- The three ways to say whose assets are meant. -/
inductive PostConditionPrincipalTag where
  | origin | account | contract
deriving DecidableEq

instance : Wire.Enumeration PostConditionPrincipalTag where
  title := "PostConditionPrincipalId"
  all := [.origin, .account, .contract]
  code
    | .origin => 0x01
    | .account => 0x02
    | .contract => 0x03
  mem_all a := by cases a <;> decide
  code_injective a b := by cases a <;> cases b <;> decide

/-- The three kinds of assets. -/
inductive AssetTag where
  | native | fungible | token
deriving DecidableEq

instance : Wire.Enumeration AssetTag where
  title := "AssetInfoId"
  all := [.native, .fungible, .token]
  code
    | .native => 0x00
    | .fungible => 0x01
    | .token => 0x02
  mem_all a := by cases a <;> decide
  code_injective a b := by cases a <;> cases b <;> decide

/-! ### Assets -/

/-- An asset that a contract defines. -/
structure Asset where
  deployer : Address
  contract : ContractName
  name : ClarityName
deriving DecidableEq

namespace Asset

/-- The contract's principal, two colons and the asset's name. -/
def toText (asset : Asset) : String :=
  asset.deployer.toText ++ "." ++ asset.contract.text ++ "::" ++ asset.name.text

/-- The asset that a text stands for: the first two colons end the contract, and
    the contract's first dot ends the address. -/
def parse (text : String) : Except Fault Asset :=
  match Text.splitFirst? "::".toList text.toList with
  | none => .error (.argument .badAsset)
  | some (contract, name) =>
    match Text.splitFirst? ['.'] contract with
    | none => .error (.argument .badAsset)
    | some (address, contract) => do
      let deployer ← Address.parse (String.ofList address)
      let contract ← Name.ofText (String.ofList contract)
      let name ← Name.ofText (String.ofList name)
      return ⟨deployer, contract, name⟩

instance : Wire.Format Asset where
  encode asset := Wire.joined
    [Wire.encode asset.deployer, Wire.encode asset.contract, Wire.encode asset.name]
  decode := do
    let deployer ← Wire.decode
    let contract ← Wire.decode
    let name ← Wire.decode
    return { deployer, contract, name }

end Asset

/-! ### Conditions -/

/-- Whose assets a condition is about. -/
inductive PostConditionPrincipal where
  /-- Whoever the transaction comes from. -/
  | origin
  | account (address : Address)
  | contract (deployer : Address) (name : ContractName)
deriving DecidableEq

namespace PostConditionPrincipal

/-- A principal as the holder of assets. -/
def ofPrincipal : Principal → PostConditionPrincipal
  | .account address => account address
  | .contract deployer name => contract deployer name

instance : Wire.Format PostConditionPrincipal where
  encode
    | origin => Wire.encode PostConditionPrincipalTag.origin
    | account address =>
      Wire.joined [Wire.encode PostConditionPrincipalTag.account, Wire.encode address]
    | contract deployer name => Wire.joined
        [Wire.encode PostConditionPrincipalTag.contract, Wire.encode deployer, Wire.encode name]
  decode := do
    let tag : PostConditionPrincipalTag ← Wire.decode
    match tag with
    | .origin => return origin
    | .account => return account (← Wire.decode)
    | .contract => do
      let deployer ← Wire.decode
      let name ← Wire.decode
      return contract deployer name

end PostConditionPrincipal

/-- What has to hold of an asset when a transaction has run. -/
inductive PostCondition where
  /-- A bound on the native coin that a principal sends. -/
  | native (principal : PostConditionPrincipal) (code : AmountCode) (amount : UInt64)
  /-- A bound on the units of an asset that a principal sends. -/
  | fungible (principal : PostConditionPrincipal) (asset : Asset) (code : AmountCode)
      (amount : UInt64)
  /-- Whether a principal sends the token of an asset that a value identifies. -/
  | token (principal : PostConditionPrincipal) (asset : Asset) (value : Value) (code : TokenCode)
deriving DecidableEq

instance : Wire.Format PostCondition where
  encode
    | .native principal code amount => Wire.joined
        [Wire.encode AssetTag.native, Wire.encode principal, Wire.encode code, Wire.encode amount]
    | .fungible principal asset code amount => Wire.joined
        [Wire.encode AssetTag.fungible, Wire.encode principal, Wire.encode asset,
          Wire.encode code, Wire.encode amount]
    | .token principal asset value code => Wire.joined
        [Wire.encode AssetTag.token, Wire.encode principal, Wire.encode asset,
          Wire.encode value, Wire.encode code]
  decode := do
    let tag : AssetTag ← Wire.decode
    let principal ← Wire.decode
    match tag with
    | .native => do
      let code ← Wire.decode
      let amount ← Wire.decode
      return .native principal code amount
    | .fungible => do
      let asset ← Wire.decode
      let code ← Wire.decode
      let amount ← Wire.decode
      return .fungible principal asset code amount
    | .token => do
      let asset ← Wire.decode
      let value ← Wire.decode
      let code ← Wire.decode
      return .token principal asset value code

end Registrar
