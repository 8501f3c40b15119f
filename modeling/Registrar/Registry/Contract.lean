import Registrar.Registry.QualifiedName
import Registrar.Transaction.Draft

namespace Registrar.Registry

/-!
# The registry contract

* `deployerText` — the texts of the accounts that deployed the registries;
* `contractAt` — where the registry is on a chain; other chains than the two known
  ones are refused;
* `namesAsset`, `tokenOf` — the asset whose tokens are names, and what identifies
  the token of a name;
* `commitment`, `zonefileHash` — the digests that the contract compares.
-/

/-- The account that deployed the registry and the registry's name. -/
structure RegistryContract where
  deployer : Address
  name : ContractName
deriving DecidableEq

/-- The name of the registry on every chain. -/
def registryName : ContractName := ⟨"bns", by decide⟩

/-- The text of the account that deployed the registry of a network. -/
def deployerText : NetworkFamily → String
  | .mainnet => "SP000000000000000000002Q6VF78"
  | .testnet => "ST000000000000000000002AMW42H"

/-- Both texts stand for addresses. -/
theorem isOk_parse_deployerText (family : NetworkFamily) :
    (Address.parse (deployerText family)).isOk = true := by
  cases family <;> decide +kernel

/-- The registry of a network. -/
def RegistryContract.ofFamily (family : NetworkFamily) : RegistryContract where
  deployer := .ofText (deployerText family) (isOk_parse_deployerText family)
  name := registryName

/-- The registry of the chain with an id. -/
def contractAt (chainId : UInt32) : Except RegistryFault RegistryContract :=
  match NetworkFamily.all.find? fun family => family.chainId == chainId with
  | some family => .ok (.ofFamily family)
  | none => .error (.unknownChain chainId)

/-- The contract as a principal. -/
def RegistryContract.principal (contract : RegistryContract) : Principal :=
  .contract contract.deployer contract.name

/-- The asset whose tokens are the names. -/
def RegistryContract.namesAsset (contract : RegistryContract) : Asset where
  deployer := contract.deployer
  contract := contract.name
  name := ⟨"names", by decide⟩

/-- The key of the name in a token of the registry. -/
def nameKey : ClarityName := ⟨"name", by decide⟩

/-- The key of the namespace in a token of the registry. -/
def spaceKey : ClarityName := ⟨"namespace", by decide⟩

/-- What identifies the token of a name within a namespace. -/
def tokenOf (name space : String) : Value :=
  .tuple (.ofIncreasing [(nameKey, .bufferOfText name), (spaceKey, .bufferOfText space)]
    (by
      simp only [Tuple.Increasing, List.map_cons, List.map_nil, List.pairwise_cons,
        List.mem_singleton, forall_eq, List.not_mem_nil, false_imp_iff, implies_true,
        List.Pairwise.nil, and_true]
      decide))

/-! ### Digests that the contract compares -/

/-- What a preorder commits to: the digest of what is registered and the salt. -/
def commitment (identifier salt : String) : Hash160 :=
  Digest.hash160 (Text.bytes identifier ++ Text.bytes salt)

/-- What the contract keeps of a zone file. -/
def zonefileHash (zonefile : Bytes) : Hash160 := Digest.hash160 zonefile

end Registrar.Registry
