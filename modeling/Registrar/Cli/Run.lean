import Registrar.Cli.Command
import Registrar.Cli.Config
import Registrar.Cli.Host
import Registrar.Cli.PriceQuote
import Registrar.Json.Printer
import Registrar.Value.Projection

namespace Registrar.Cli

/-!
# Running commands

* `CliFault` — why a command fails, with what a user is told;
* `Outcome` — what comes of a run: a text, a failure, or something to ask a node;
* `run` — runs the command that arguments ask for.
-/

open Registry (Operation Pricing RegistryFault ReadOnlyCall)

/-! ### Faults -/

/-- Why a command fails. -/
inductive CliFault where
  | hex (fault : Hex.Fault)
  | publicKey
  | chain (fault : Fault)
  | registry (fault : RegistryFault)
  | file (fault : FileFault)
  /-- A namespace is given another number of prices than sixteen. -/
  | bucketCount (count : Nat)
  /-- The configuration cannot be read from its file. -/
  | noConfig (path : String) (fault : FileFault)
  /-- The configuration cannot be written to its file. -/
  | unwrittenConfig (path : String) (fault : FileFault)
  /-- The configuration file does not hold a configuration. -/
  | badConfig
  | url (fault : UrlFault)
deriving DecidableEq

namespace CliFault

/-- What a user is told about the fault. -/
def message : CliFault → String
  | hex fault => fault.message
  | publicKey => PublicKey.malformedMessage
  | chain fault => fault.message
  | registry fault => fault.message
  | file fault => fault.message
  | bucketCount count => s!"Expected 16 price buckets, got {count}"
  | noConfig path _ =>
    s!"Could not read bns config at {path}, did you try " ++ "`bns init`?"
  | unwrittenConfig path _ => s!"Could not create config file at {path}"
  | badConfig => "TOML parse error"
  | url fault => fault.message

/-- The faults that this fault goes back to, the nearest first. -/
def causes : CliFault → List String
  | chain fault => fault.causes
  | registry fault => fault.causes
  | noConfig _ fault => [fault.message]
  | unwrittenConfig _ fault => [fault.message]
  | _ => []

/-- The causes below a heading, numbered if there are several. -/
def listed (causes : List String) : String :=
  match causes with
  | [] => ""
  | [cause] => "\n\nCaused by:\n    " ++ cause
  | causes => "\n\nCaused by:" ++ String.join (causes.mapIdx fun i cause =>
      s!"\n    {i}: {cause}")

/-- The fault and its causes as they are shown. -/
def report (fault : CliFault) : String := "Error: " ++ fault.message ++ listed fault.causes

end CliFault

/-! ### Outcomes -/

/-- What a node is to be asked. -/
inductive Exchange where
  /-- To evaluate a call. -/
  | evaluate (call : ReadOnlyCall)
  /-- To quote the price of a name. -/
  | quote (name : String)
  /-- To take a transaction, in its wire form, and what travels beside it. -/
  | submit (transaction : Bytes) (attachment : Option Bytes)
deriving DecidableEq

/-- What comes of a run. -/
inductive Outcome where
  | printed (text : String)
  | failed (fault : CliFault)
  /-- The arguments ask for no command. -/
  | misused
  /-- A node has to be asked. -/
  | asks (network : Network) (exchange : Exchange)
deriving DecidableEq

/-- A JSON value as it is printed. -/
def printJson (json : Json) : String := json.pretty ++ "\n"

/-! ### Commands without a host -/

/-- What is shown of a value: its wire form, its literal, its type and its JSON. -/
def decodeReport (tryAscii : Bool) (text : String) : Except CliFault Json := do
  let value : Value ← (Wire.ofHex text).mapError .chain
  let hex ← (Wire.toHex value).mapError .chain
  let style := if tryAscii then Value.BufferStyle.tryAscii else .hex
  return .object [("hex", .string ("0x" ++ hex)), ("repr", .string (value.literal style)),
    ("type", .string value.typeName), ("json", value.toJson)]

/-- What is shown of a drafted transaction. -/
def envelopeReport (envelope : Envelope) : Except CliFault Json := do
  let transaction := envelope.transaction
  let id ← transaction.id.mapError .chain
  let hex ← (Wire.toHex transaction).mapError .chain
  let sighash ← transaction.initialSighash.mapError .chain
  let attachment := match envelope.attachment with
    | some bytes => [("attachment_hex", Json.string (Hex.encode bytes))]
    | none => []
  return .object ([("tx_id", .string (Hex.encode id.toList)), ("tx_hex", .string hex),
    ("initial_sighash", .string (Hex.encode sighash.toList))] ++ attachment)

/-- The sixteen prices of a list. -/
def bucketsOf (buckets : List (BitVec 128)) : Except CliFault (Vector (BitVec 128) 16) :=
  if h : buckets.length = 16 then .ok ⟨buckets.toArray, by simpa using h⟩
  else .error (.bucketCount buckets.length)

/-! ### Commands on a host -/

section

variable {m : Type → Type} [Monad m]

/-- Where the configuration is. -/
def Host.configPath (host : Host m) : String := host.home ++ "/.config/bns/config.toml"

/-- Writes the first configuration file, unless there is something at its path. The
    directories around it are made before that is looked at. -/
def writeConfig (host : Host m) : ExceptT CliFault m Unit := do
  let path := host.configPath
  match ← host.makeDirectories (directoriesAround path) with
  | .error fault => throw (.file fault)
  | .ok () =>
    match ← host.kindAt path with
    -- a file that is there stays as it is
    | some _ => return
    | none =>
      match ← host.createFile path (Text.bytes Config.initialText) with
      | .ok () => return
      | .error fault => throw (.unwrittenConfig path fault)

/-- The configuration in the user's file. -/
def readConfig (host : Host m) : ExceptT CliFault m Config := do
  let path := host.configPath
  match ← host.readFile path with
  | .error fault => throw (.noConfig path fault)
  | .ok bytes =>
    match Text.ofBytes bytes with
    | .error _ => throw (.noConfig path .notText)
    | .ok text =>
      match Config.ofText? text with
      | some config => return config
      | none => throw .badConfig

/-- The operation that is requested, its zone file read. -/
def readOperation (host : Host m) : OperationRequest → ExceptT CliFault m Operation
  | .plain operation => return operation
  | .reveal space salt base coefficient buckets nonAlpha noVowel lifetime importer => do
    let buckets ← bucketsOf buckets
    return .spaceReveal space salt ⟨base, coefficient, buckets, nonAlpha, noVowel⟩ lifetime
      importer
  | .withZonefile path operation => do
    match ← host.readFile path with
    | .ok file => return operation file
    | .error fault => throw (.file fault)

/-- The options of a draft; the configuration is read only if no network is given. -/
def readDraftOptions (host : Host m) (arguments : DraftArguments) :
    ExceptT CliFault m DraftOptions := do
  let bytes ← (Hex.decode arguments.publicKey).mapError CliFault.hex
  let some publicKey := PublicKey.ofBytes? bytes | throw .publicKey
  let network ← match arguments.network with
    | some family => pure (Network.ofFamily family)
    | none => do
      let config ← readConfig host
      pure (config.network none)
  return { publicKey, network, nonce := arguments.nonce, fee := arguments.fee,
           sponsored := arguments.sponsored }

/-- Something to ask a node, which has to be at an address with a path. -/
def ask (network : Network) (exchange : Exchange) : ExceptT CliFault m Outcome := do
  if !network.url.hasPath then throw (.url .noPath)
  return .asks network exchange

/-- Runs a command. -/
def Command.run (host : Host m) : Command → ExceptT CliFault m Outcome
  | init => do
    writeConfig host
    return .printed ""
  | decode tryAscii text => do
    let report ← decodeReport tryAscii text
    return .printed (printJson report)
  | draft request arguments => do
    let operation ← readOperation host request
    let options ← readDraftOptions host arguments
    let envelope ← (operation.draft options).mapError CliFault.registry
    let report ← envelopeReport envelope
    return .printed (printJson report)
  | query request sender asked => do
    let config ← readConfig host
    let network := config.network asked
    -- who asks does not matter, so the deployer will do
    let sender ← match sender with
      | some sender => pure sender
      | none => do
        let contract ← (Registry.contractAt network.chainId).mapError CliFault.registry
        pure contract.deployer
    match request with
    | .registry question =>
      let call ← (question.call sender network).mapError CliFault.registry
      ask network (.evaluate call)
    | .quote name => ask network (.quote name)
  | broadcast asked attachment text => do
    -- the transaction is read first, and what is sent is written from it again
    let transaction : Transaction ← (Wire.ofHex text).mapError CliFault.chain
    let attachment ← match attachment with
      | some text => do
        let bytes ← (Hex.decode text).mapError CliFault.hex
        pure (some bytes)
      | none => pure none
    let config ← readConfig host
    let bytes ← (Wire.encode transaction).mapError fun fault => CliFault.chain (.encode fault)
    ask (config.network asked) (.submit bytes attachment)

/-- Runs the command that the arguments ask for. -/
def run (host : Host m) (arguments : List String) : m Outcome :=
  match Command.ofArguments? host.publicKey arguments with
  | none => return .misused
  | some command => do
    match ← (command.run host).run with
    | .ok outcome => return outcome
    | .error fault => return .failed fault

end

end Registrar.Cli
