import Registrar.Registry.Contract

namespace Registrar.Registry

/-!
# Operations of the registry

* `Pricing` — how the names of a namespace are priced;
* `Operation` — the ten things that the registry does for a user;
* `Operation.call` — the function with its arguments, the conditions that guard
  it, and what travels beside it;
* `RegistryCall.draft` — the unsigned transaction that calls the registry;
* `Operation.draft` — the unsigned transaction that asks for an operation.

A request is refused for its name first, then for its chain, and last for a
condition of the caller that has no wire form.
-/

/-- How the names of a namespace are priced. -/
structure Pricing where
  base : BitVec 128
  coefficient : BitVec 128
  /-- Exponents by the length of the name; the last one is for all longer names. -/
  buckets : Vector (BitVec 128) 16
  /-- The discount for names with other characters than letters. -/
  nonAlphaDiscount : BitVec 128
  /-- The discount for names without vowels. -/
  noVowelDiscount : BitVec 128
deriving DecidableEq

/-- What the registry does for a user. Names are given as texts. -/
inductive Operation where
  /-- Commits to a namespace and burns its price. -/
  | spacePreorder (space salt : String) (burnt : UInt64)
  /-- Discloses a namespace with its prices. -/
  | spaceReveal (space salt : String) (pricing : Pricing) (lifetime : BitVec 128)
      (importer : Address)
  /-- Opens a namespace. -/
  | spaceReady (space : String)
  /-- Puts a name into a namespace that is not open yet. -/
  | nameImport (name : String) (owner : Address) (zonefile : Bytes)
  /-- Commits to a name and burns its price. -/
  | namePreorder (name salt : String) (burnt : UInt64)
  /-- Discloses and claims a name. -/
  | nameRegister (name salt : String) (zonefile : Bytes)
  /-- Replaces the zone file of a name. -/
  | nameUpdate (name : String) (zonefile : Bytes)
  /-- Hands a name over; without a zone file it keeps none. -/
  | nameTransfer (name : String) (newOwner : Address) (zonefile : Option Bytes)
  /-- Gives a name up for good. -/
  | nameRevoke (name : String)
  /-- Extends the registration of a name. -/
  | nameRenewal (name : String) (burnt : UInt64) (newOwner : Option Address)
      (zonefile : Option Bytes)
deriving DecidableEq

/-- What an operation comes down to. -/
structure RegistryCall where
  function : ClarityName
  arguments : List Value
  /-- The conditions that guard the call, given the sender and the id of the chain. -/
  guards : Address → UInt32 → Except RegistryFault (List PostCondition) := fun _ _ => .ok []
  /-- The zone file that travels beside the transaction. -/
  attachment : Option Bytes := none

/-! ### Parts of calls -/

/-- The condition that the sender burns exactly an amount. -/
def burns (amount : UInt64) (sender : Address) (_ : UInt32) :
    Except RegistryFault (List PostCondition) :=
  .ok [.native (.account sender) .sentEq amount]

/-- The conditions that a name leaves the sender and that the new owner keeps it. The
    registry is looked up for its asset, before it is looked up again to be called. -/
def handsOver (name : QualifiedName) (newOwner sender : Address) (chainId : UInt32) :
    Except RegistryFault (List PostCondition) := do
  let contract ← contractAt chainId
  let token := tokenOf name.name.text name.space.text
  return [.token (.account sender) contract.namesAsset token .sent,
    .token (.account newOwner) contract.namesAsset token .notSent]

/-- An amount as an argument. -/
def amountArgument (amount : UInt64) : Value := .uint (BitVec.ofNat 128 amount.toNat)

/-- A digest as an argument. -/
def digestArgument (digest : Hash160) : Value := .buffer digest.toList

/-- An account as an argument. -/
def accountArgument (address : Address) : Value := .principal (.account address)

/-- An argument that may be missing. -/
def optionalArgument : Option Value → Value
  | some value => .some value
  | none => .none

/-- The two arguments that a name makes, the namespace first. -/
def nameArguments (name : QualifiedName) : List Value :=
  [.bufferOfText name.space.text, .bufferOfText name.name.text]

/-! ### Operations as calls -/

/-- The call that an operation comes down to, if its name is one of two labels. -/
def Operation.call : Operation → Except RegistryFault RegistryCall
  | spacePreorder space salt burnt => .ok
      { function := ⟨"namespace-preorder", by decide⟩
        arguments := [digestArgument (commitment space salt), amountArgument burnt]
        guards := burns burnt }
  | spaceReveal space salt pricing lifetime importer => .ok
      { function := ⟨"namespace-reveal", by decide⟩
        arguments := [.bufferOfText space, .bufferOfText salt,
            .uint pricing.base, .uint pricing.coefficient]
          ++ pricing.buckets.toList.map .uint
          ++ [.uint pricing.nonAlphaDiscount, .uint pricing.noVowelDiscount, .uint lifetime,
            accountArgument importer] }
  | spaceReady space => .ok
      { function := ⟨"namespace-ready", by decide⟩
        arguments := [.bufferOfText space] }
  | nameImport name owner zonefile => do
    let name ← QualifiedName.parseTopLevel "import" name
    return { function := ⟨"name-import", by decide⟩
             arguments := nameArguments name
               ++ [accountArgument owner, digestArgument (zonefileHash zonefile)]
             attachment := zonefile }
  | namePreorder name salt burnt => do
    let name ← QualifiedName.parseTopLevel "preorder" name
    return { function := ⟨"name-preorder", by decide⟩
             arguments :=
               [digestArgument (commitment name.toText salt), amountArgument burnt]
             guards := burns burnt }
  | nameRegister name salt zonefile => do
    let name ← QualifiedName.parseTopLevel "register" name
    return { function := ⟨"name-register", by decide⟩
             arguments := nameArguments name
               ++ [.bufferOfText salt, digestArgument (zonefileHash zonefile)]
             attachment := zonefile }
  | nameUpdate name zonefile => do
    let name ← QualifiedName.parseTopLevel "update" name
    return { function := ⟨"name-update", by decide⟩
             arguments := nameArguments name ++ [digestArgument (zonefileHash zonefile)]
             attachment := zonefile }
  | nameTransfer name newOwner zonefile => do
    let name ← QualifiedName.parseTopLevel "transfer" name
    return { function := ⟨"name-transfer", by decide⟩
             arguments := nameArguments name
               ++ [accountArgument newOwner,
                 optionalArgument (zonefile.map fun file => digestArgument (zonefileHash file))]
             guards := handsOver name newOwner
             attachment := zonefile }
  | nameRevoke name => do
    let name ← QualifiedName.parseTopLevel "revoke" name
    return { function := ⟨"name-revoke", by decide⟩
             arguments := nameArguments name }
  | nameRenewal name burnt newOwner zonefile => do
    let name ← QualifiedName.parseTopLevel "renew" name
    return { function := ⟨"name-renewal", by decide⟩
             arguments := nameArguments name
               ++ [amountArgument burnt, optionalArgument (newOwner.map accountArgument),
                 optionalArgument (zonefile.map fun file => digestArgument (zonefileHash file))]
             guards := burns burnt
             attachment := zonefile }

/-! ### Drafts -/

/-- The unsigned transaction that calls the registry on the chain of the options. Its id is
    asked for as well, which fails if the transaction cannot be written. -/
def RegistryCall.draft (call : RegistryCall) (options : DraftOptions) :
    Except RegistryFault Envelope := do
  let contract ← contractAt options.network.chainId
  let envelope ← (draftCall contract.deployer contract.name.text call.function.text
    call.arguments call.attachment options).mapError .chain
  let _ ← envelope.transaction.id.mapError .chain
  return envelope

/-- The unsigned transaction that asks for an operation: the conditions that guard its call
    are put behind those of the options. -/
def Operation.draft (operation : Operation) (options : DraftOptions) :
    Except RegistryFault Envelope := do
  let call ← operation.call
  let guards ← call.guards options.sender options.network.chainId
  call.draft (options.guarded guards)

end Registrar.Registry
