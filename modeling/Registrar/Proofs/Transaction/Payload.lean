import Registrar.Proofs.Value.Canonical
import Registrar.Transaction.Payload

namespace Registrar

open Wire
open Wire.Decoder (Reads Completes)

/-!
# Payloads on the wire

* `RoundTrip`, `LoggedFormat` and `Canonical` for calls, whose arguments are values,
  and for payloads;
* `RoundTrip` and `Exact` for deployments, which hold no values.
-/

/-! ### Calls -/

namespace ContractCall

instance : RoundTrip ContractCall where
  reads := by
    intro call bytes h
    replace h : joined [encode call.deployer, encode call.contract, encode call.function,
      encode call.arguments] = .ok bytes := h
    exact .field h fun _ h => .field h fun _ h => .field h fun _ h => .field h fun _ h => .done h

instance : LoggedFormat ContractCall where
  logged := do
    let deployer ← Logged.plain decode
    let contract ← Logged.plain decode
    let function ← Logged.plain decode
    let arguments ← logged
    return { deployer, contract, function, arguments }
  forget_logged := by
    simp only [Logged.forget_bind, Logged.forget_plain, Logged.forget_pure, forget_logged]
    rfl

instance : Canonical ContractCall where
  rewrites_logged := by
    refine .of_completes ?_
    exact .field fun deployer => .field fun contract => .field fun function =>
      .loggedField fun arguments => .done rfl

end ContractCall

/-! ### Deployments -/

instance : RoundTrip Deployment where
  reads := by
    intro deployment bytes h
    replace h : joined [encode deployment.name, encode deployment.code] = .ok bytes := h
    exact .field h fun _ h => .field h fun _ h => .done h

instance : Exact Deployment where
  rewrites := by
    refine .of_completes ?_
    exact .field fun name => .field fun code => .done rfl

/-! ### Payloads -/

namespace Payload

/-- A deployment is read behind whatever says its version. -/
theorem decodeDeploy_reads {deployment : Deployment} {version : Option ClarityVersion}
    {bytes : Bytes} (h : joined [encode deployment] = .ok bytes) :
    (decodeDeploy version).Reads bytes (deploy deployment.name deployment.code version) :=
  .field h fun _ h => .done h

instance : RoundTrip Payload where
  reads := by
    intro payload bytes h
    cases payload with
    | transfer recipient amount memo =>
      replace h : joined [encode PayloadTag.transfer, encode recipient, encode amount,
        encode memo] = .ok bytes := h
      exact .field h fun _ h => .field h fun _ h => .field h fun _ h => .field h fun _ h => .done h
    | call c =>
      replace h : joined [encode PayloadTag.call, encode c] = .ok bytes := h
      exact .field h fun _ h => .field h fun _ h => .done h
    | deploy name code version =>
      -- the two tags of deployments tell whether a version is there
      cases version with
      | none =>
        replace h : joined [encode PayloadTag.deploy, encode (Deployment.mk name code)] =
          .ok bytes := h
        exact .field h fun _ h => decodeDeploy_reads h
      | some version =>
        replace h : joined [encode PayloadTag.deployVersioned, encode version,
          encode (Deployment.mk name code)] = .ok bytes := h
        exact .field h fun _ h => .field h fun _ h => decodeDeploy_reads h

instance : LoggedFormat Payload where
  logged := do
    let tag : PayloadTag ← Logged.plain decode
    match tag with
    | .transfer => do
      let recipient ← Logged.plain decode
      let amount ← Logged.plain decode
      let memo ← Logged.plain decode
      return transfer recipient amount memo
    | .call => do
      let c ← logged
      return call c
    | .deploy => Logged.plain (decodeDeploy none)
    | .deployVersioned => do
      let version ← Logged.plain decode
      Logged.plain (decodeDeploy (some version))
  forget_logged := by
    simp only [Logged.forget_bind, Logged.forget_plain]
    refine bind_congr fun tag => ?_
    cases tag <;>
      simp only [Logged.forget_bind, Logged.forget_plain, Logged.forget_pure, forget_logged]

instance : Canonical Payload where
  rewrites_logged := by
    refine .of_completes (.field fun tag => ?_)
    cases tag with
    | transfer =>
      exact .field fun recipient => .field fun amount => .field fun memo => .done rfl
    | call => exact .loggedField fun c => .done rfl
    | deploy => exact .plain (.field fun deployment => .done rfl)
    | deployVersioned =>
      exact .field fun version => .plain (.field fun deployment => .done rfl)

end Payload

end Registrar
