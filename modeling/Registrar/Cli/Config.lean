import Registrar.Cli.Toml
import Registrar.Json.Record
import Registrar.Network

namespace Registrar.Cli

/-!
# Configuration

* `Config` — the network, the node and how long a request may take;
* `Config.ofJson`, `Config.ofText?` — from JSON, and from the text of the file;
* `Config.network` — the network that commands work on;
* `Config.initialText` — the file that is written first.
-/

/-- The network, the node and how long a request may take. -/
structure Config where
  family : NetworkFamily
  nodeUrl : Url
  timeoutSeconds : UInt64
deriving DecidableEq

namespace Config

/-! ### Reading -/

/-- The family that a name stands for; the name may also be the only key of an
    object, with nothing as its value. -/
def readFamily (json : Json) : Except Json.Mismatch NetworkFamily :=
  let named (name : String) : Except Json.Mismatch NetworkFamily :=
    match NetworkFamily.ofName? name with
    | some family => .ok family
    | none => .error (.unknownVariant name (NetworkFamily.all.map NetworkFamily.name))
  match json with
  | .string name => named name
  | .object members =>
    match Json.ordered members with
    | [(name, value)] => do
      let family ← named name
      match value with
      | .null => return family
      | value => throw (.wrongType value "unit")
    | _ => .error (.wrongValue json "map with a single key")
  | json => .error (.wrongType json "string or map")

/-- The address that a text stands for. -/
def readUrl : Json → Except Json.Mismatch Url
  | .string text =>
    match Url.parse text with
    | .ok url => .ok url
    | .error fault => .error (.content (fault.message ++ ": " ++ Text.quoted text))
  | json => .error (.wrongType json "a string representing an URL")

/-- The configuration that a JSON value stands for. -/
def ofJson (json : Json) : Except Json.Mismatch Config := do
  let values ← json.readFields "struct Config"
    [.of "network" readFamily, .of "stacks_node_url" readUrl,
      .of "request_timeout_secs" Json.readWord]
  match values with
  | [some family, some url, some timeout] =>
    return ⟨← readFamily family, ← readUrl url, ← timeout.readWord⟩
  | _ => throw (.missingField "network")

/-- A name as the only key of an object; in a file the nothing behind it is an empty
    table or list. -/
def ofNamedTable : Json → Json
  | .object [(name, .object [])] => .object [(name, .null)]
  | .object [(name, .array [])] => .object [(name, .null)]
  | json => json

/-- The configuration in the text of a file. -/
def ofText? (text : String) : Option Config := do
  match ← Toml.ofText? text with
  | .object members =>
    let members := members.map fun (key, value) =>
      (key, if key == "network" then ofNamedTable value else value)
    (ofJson (.object members)).toOption
  | _ => none

/-! ### Use -/

/-- The network that commands work on: the configured one, or another one with its
    public interface if the command asks for it. -/
def network (config : Config) (asked : Option NetworkFamily) : Network :=
  let configured := (Network.ofFamily config.family).withUrl config.nodeUrl
  match asked with
  | some family => if family = config.family then configured else .ofFamily family
  | none => configured

/-- The file that is written first. -/
def initialText : String :=
  "# Network the transactions are built for: \"mainnet\" or \"testnet\"\n" ++
  "network = \"testnet\"\n\n" ++
  "# Stacks node API used for read-only calls, price lookups and broadcasts\n" ++
  "stacks_node_url = \"https://api.testnet.hiro.so\"\n\n" ++
  "# Seconds before an API request is abandoned\n" ++
  "request_timeout_secs = 30\n"

end Config

end Registrar.Cli
