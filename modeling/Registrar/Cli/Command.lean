import Registrar.Cli.Arguments
import Registrar.Registry.Operation
import Registrar.Registry.Query
import Registrar.Text.Numeral

namespace Registrar.Cli

/-!
# Commands

* `Command` — what a user can ask for;
* `Command.ofArguments?` — the command that arguments ask for, unless they break
  the rules.
-/

open Registry (Operation Pricing Query)

/-- What all commands share that draft a transaction. -/
structure DraftArguments where
  /-- The origin's key in hexadecimal. -/
  publicKey : String
  nonce : UInt64
  fee : UInt64
  sponsored : Bool
  network : Option NetworkFamily
deriving DecidableEq

/-- The operation that a transaction is drafted for: as it is, with the number of
    prices that are not known to be as many as there have to be, or with a zone
    file in place of its path. -/
inductive OperationRequest where
  | plain (operation : Operation)
  | reveal (space salt : String) (base coefficient : BitVec 128) (buckets : List (BitVec 128))
      (nonAlphaDiscount noVowelDiscount lifetime : BitVec 128) (importer : Address)
  | withZonefile (path : String) (operation : Bytes → Operation)

/-- What the registry or the node is asked. -/
inductive QueryRequest where
  | registry (query : Query)
  /-- The price of a name by the node's own interface. -/
  | quote (name : String)
deriving DecidableEq

/-- What a user can ask for. -/
inductive Command where
  /-- Writes a configuration file if there is none. -/
  | init
  /-- Shows a value. -/
  | decode (tryAscii : Bool) (value : String)
  /-- Drafts a transaction. -/
  | draft (request : OperationRequest) (arguments : DraftArguments)
  /-- Asks the registry or the node. -/
  | query (request : QueryRequest) (sender : Option Address) (network : Option NetworkFamily)
  /-- Hands in a signed transaction. -/
  | broadcast (network : Option NetworkFamily) (attachment : Option String) (transaction : String)

/-! ### Values of options -/

/-- Any text. -/
def readText (text : String) : Option String := some text

/-- A path, which is not empty. -/
def readPath (text : String) : Option String := if text.isEmpty then none else some text

/-- An unsigned number of 64 bits. -/
def readWord (text : String) : Option UInt64 :=
  (Text.parseNatural UInt64.size text).toOption.map UInt64.ofNat

/-- An unsigned number of 128 bits. -/
def readWide (text : String) : Option (BitVec 128) :=
  (Text.parseNatural (Bytes.capacity 16) text).toOption.map (BitVec.ofNat 128)

/-- An address. -/
def readAddress (text : String) : Option Address := (Address.parse text).toOption

/-! ### Options -/

/-- The option for the network. -/
def networkOption : OptionSpec := ⟨"network", some 'n', .one⟩

/-- The options of all commands that draft a transaction. -/
def draftOptions : List OptionSpec :=
  [⟨"public-key", some 'k', .one⟩, ⟨"nonce", none, .one⟩, ⟨"fee", none, .one⟩,
    ⟨"sponsored", none, .flag⟩, networkOption]

/-- The option for the salt of a commitment. -/
def saltOption : OptionSpec := ⟨"salt", some 's', .one⟩

/-- The option for an amount to burn. -/
def burnOption : OptionSpec := ⟨"stx-to-burn", none, .one⟩

/-- The option for the path of a zone file. -/
def zonefileOption : OptionSpec := ⟨"zonefile", some 'z', .one⟩

/-- The option for a new owner. -/
def ownerOption : OptionSpec := ⟨"new-owner", some 'o', .one⟩

/-- The network that is asked for. -/
def readNetwork? (given : Given) : Option (Option NetworkFamily) :=
  given.optional? "network" NetworkFamily.ofName?

/-- What all commands share that draft a transaction. The key may come from the
    environment. -/
def readDraft? (environmentKey : Option String) (given : Given) : Option DraftArguments := do
  let key ← given.optional? "public-key" readText
  let publicKey ← key.or environmentKey
  let nonce ← given.optional? "nonce" readWord
  let fee ← given.optional? "fee" readWord
  let network ← readNetwork? given
  return ⟨publicKey, nonce.getD 0, fee.getD 0, given.has "sponsored", network⟩

/-- The only positional argument. -/
def target? (given : Given) : Option String :=
  match given.positional with
  | [target] => some target
  | _ => none

/-! ### Commands that draft -/

/-- The draft of an operation: further options, and how the operation is made from
    what is given and the name that it is about. -/
def readOperation? (environmentKey : Option String) (options : List OptionSpec)
    (make : Given → String → Option OperationRequest) (arguments : List String) :
    Option Command := do
  let given ← Given.ofArguments? (options ++ draftOptions) arguments
  let request ← make given (← target? given)
  return .draft request (← readDraft? environmentKey given)

/-- An operation that may take a zone file, whose path may be given. -/
def zonefileRequest? (given : Given) (operation : Option Bytes → Operation) :
    Option OperationRequest := do
  match ← given.optional? "zonefile" readPath with
  | some path => return .withZonefile path fun file => operation (some file)
  | none => return .plain (operation none)

/-- The prices of a namespace that is revealed. -/
def revealOptions : List OptionSpec :=
  [saltOption, ⟨"base", none, .one⟩, ⟨"coefficient", none, .one⟩, ⟨"buckets", none, .many⟩,
    ⟨"non-alpha-discount", none, .one⟩, ⟨"no-vowel-discount", none, .one⟩,
    ⟨"lifetime", none, .one⟩, ⟨"import-address", none, .one⟩]

/-- A namespace with its prices. -/
def readReveal? (given : Given) (space : String) : Option OperationRequest := do
  let salt ← given.one? "salt" readText
  let base ← given.one? "base" readWide
  let coefficient ← given.one? "coefficient" readWide
  let texts := (given.all "buckets").flatMap fun text => Text.splitAll ',' text.toList
  let buckets ← texts.mapM fun text => readWide (String.ofList text)
  let nonAlpha ← given.optional? "non-alpha-discount" readWide
  let noVowel ← given.optional? "no-vowel-discount" readWide
  let lifetime ← given.one? "lifetime" readWide
  let importer ← given.one? "import-address" readAddress
  return .reveal space salt base coefficient buckets (nonAlpha.getD 1) (noVowel.getD 1) lifetime
    importer

/-- The commands on namespaces. -/
def readSpaceCommand? (environmentKey : Option String) : List String → Option Command
  | "preorder" :: arguments =>
    readOperation? environmentKey [saltOption, burnOption] (fun given space => do
      let salt ← given.one? "salt" readText
      let burnt ← given.one? "stx-to-burn" readWord
      return .plain (.spacePreorder space salt burnt)) arguments
  | "reveal" :: arguments => readOperation? environmentKey revealOptions readReveal? arguments
  | "import" :: arguments =>
    readOperation? environmentKey [⟨"beneficiary", some 'b', .one⟩, zonefileOption]
      (fun given name => do
        let owner ← given.one? "beneficiary" readAddress
        let path ← given.one? "zonefile" readPath
        return .withZonefile path (.nameImport name owner)) arguments
  | "ready" :: arguments =>
    readOperation? environmentKey [] (fun _ space => some (.plain (.spaceReady space))) arguments
  | _ => none

/-- The commands on names. -/
def readNameCommand? (environmentKey : Option String) : List String → Option Command
  | "preorder" :: arguments =>
    readOperation? environmentKey [saltOption, burnOption] (fun given name => do
      let salt ← given.one? "salt" readText
      let burnt ← given.one? "stx-to-burn" readWord
      return .plain (.namePreorder name salt burnt)) arguments
  | "register" :: arguments =>
    readOperation? environmentKey [saltOption, zonefileOption] (fun given name => do
      let salt ← given.one? "salt" readText
      let path ← given.one? "zonefile" readPath
      return .withZonefile path (.nameRegister name salt)) arguments
  | "update" :: arguments =>
    readOperation? environmentKey [zonefileOption] (fun given name => do
      let path ← given.one? "zonefile" readPath
      return .withZonefile path (.nameUpdate name)) arguments
  | "transfer" :: arguments =>
    readOperation? environmentKey [ownerOption, zonefileOption] (fun given name => do
      let owner ← given.one? "new-owner" readAddress
      zonefileRequest? given (.nameTransfer name owner)) arguments
  | "revoke" :: arguments =>
    readOperation? environmentKey [] (fun _ name => some (.plain (.nameRevoke name))) arguments
  | "renew" :: arguments =>
    readOperation? environmentKey [burnOption, ownerOption, zonefileOption] (fun given name => do
      let burnt ← given.one? "stx-to-burn" readWord
      let owner ← given.optional? "new-owner" readAddress
      zonefileRequest? given (.nameRenewal name burnt owner)) arguments
  | _ => none

/-! ### Other commands -/

/-- A question with the name that it is about. -/
def readQuery? (make : String → QueryRequest) (arguments : List String) : Option Command := do
  let given ← Given.ofArguments? [⟨"sender", none, .one⟩, networkOption] arguments
  let target ← target? given
  let sender ← given.optional? "sender" readAddress
  return .query (make target) sender (← readNetwork? given)

/-- The questions to the registry and to the node. -/
def readQueryCommand? : List String → Option Command
  | "namespace-price" :: arguments =>
    readQuery? (fun space => .registry (.spacePrice space)) arguments
  | "name-price" :: arguments =>
    readQuery? (fun name => .registry (.namePrice name)) arguments
  | "can-register-namespace" :: arguments =>
    readQuery? (fun space => .registry (.spaceAvailable space)) arguments
  | "can-register-name" :: arguments =>
    readQuery? (fun name => .registry (.nameAvailable name)) arguments
  | "price" :: arguments => readQuery? .quote arguments
  | _ => none

/-- A value to show. -/
def readDecode? (arguments : List String) : Option Command := do
  let given ← Given.ofArguments? [⟨"try-ascii", none, .flag⟩] arguments
  return .decode (given.has "try-ascii") (← target? given)

/-- A transaction to hand in. -/
def readBroadcast? (arguments : List String) : Option Command := do
  let given ← Given.ofArguments? [networkOption, ⟨"attachment", some 'a', .one⟩] arguments
  let network ← readNetwork? given
  let attachment ← given.optional? "attachment" readText
  return .broadcast network attachment (← target? given)

/-- The command that arguments ask for, unless they break the rules. -/
def Command.ofArguments? (environmentKey : Option String) : List String → Option Command
  | "init" :: arguments => do
    let given ← Given.ofArguments? [] arguments
    if given.positional.isEmpty then return .init else none
  | "decode" :: arguments => readDecode? arguments
  | "namespace" :: arguments => readSpaceCommand? environmentKey arguments
  | "name" :: arguments => readNameCommand? environmentKey arguments
  | "query" :: arguments => readQueryCommand? arguments
  | "broadcast" :: arguments => readBroadcast? arguments
  | _ => none

end Registrar.Cli
