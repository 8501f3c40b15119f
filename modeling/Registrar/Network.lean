import Registrar.Address
import Registrar.Url

namespace Registrar

/-!
# Networks

* `NetworkFamily` — the main network and the test network;
* `Network` — a family, the chain id written into transactions and the place of
  the node's interface; the last two may differ from the family's own.
-/

/-- The main network and the test network. -/
inductive NetworkFamily where
  | mainnet
  | testnet
deriving DecidableEq

namespace NetworkFamily

/-- The name of the family. -/
def name : NetworkFamily → String
  | mainnet => "mainnet"
  | testnet => "testnet"

/-- The families. -/
def all : List NetworkFamily := [mainnet, testnet]

/-- The family with a name. -/
def ofName? (name : String) : Option NetworkFamily := all.find? fun family => family.name == name

/-- What a user is told about a name of no family. -/
def unknownNameMessage : String := "Matching variant not found"

/-- The chain id of the family's own chain. -/
def chainId : NetworkFamily → UInt32
  | mainnet => 0x00000001
  | testnet => 0x80000000

/-- The version of the address of a single key. -/
def addressVersion : NetworkFamily → AddressVersion
  | mainnet => .mainnetSingle
  | testnet => .testnetSingle

/-- The host of the family's public interface. -/
def publicHost : NetworkFamily → String
  | mainnet => "api.mainnet.hiro.so"
  | testnet => "api.testnet.hiro.so"

/-- The place of the family's public interface. -/
def publicUrl (family : NetworkFamily) : Url where
  scheme := "https"
  authority := some { host := .name family.publicHost.toList }
  path := ['/']

end NetworkFamily

/-- The chain that a transaction is made for, and where its node is reached. -/
structure Network where
  family : NetworkFamily
  chainId : UInt32
  url : Url
deriving DecidableEq

namespace Network

/-- A family's own chain and public interface. -/
def ofFamily (family : NetworkFamily) : Network := ⟨family, family.chainId, family.publicUrl⟩

/-- The network with its node reached elsewhere. -/
def withUrl (network : Network) (url : Url) : Network := { network with url }

end Network

end Registrar
