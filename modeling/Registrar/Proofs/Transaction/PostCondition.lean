import Registrar.Proofs.Value.Canonical
import Registrar.Transaction.PostCondition

namespace Registrar

open Wire
open Wire.Decoder (Reads Completes)

/-!
# Post conditions on the wire

* `RoundTrip` and `Exact` for assets and for their holders;
* `RoundTrip`, `LoggedFormat` and `Canonical` for post conditions, which name a token by
  a value and so may hold tuples.
-/

/-! ### Assets and their holders -/

instance : RoundTrip Asset where
  reads := by
    intro asset bytes h
    replace h : joined [encode asset.deployer, encode asset.contract, encode asset.name] =
      .ok bytes := h
    exact .field h fun _ h => .field h fun _ h => .field h fun _ h => .done h

instance : Exact Asset where
  rewrites := by
    refine .of_completes ?_
    exact .field fun deployer => .field fun contract => .field fun name => .done rfl

namespace PostConditionPrincipal

instance : RoundTrip PostConditionPrincipal where
  reads := by
    intro principal bytes h
    cases principal with
    | origin => exact (reads (a := PostConditionPrincipalTag.origin) h).last (.pure origin)
    | account address =>
      replace h : joined [encode PostConditionPrincipalTag.account, encode address] =
        .ok bytes := h
      exact .field h fun _ h => .field h fun _ h => .done h
    | contract deployer name =>
      replace h : joined [encode PostConditionPrincipalTag.contract, encode deployer,
        encode name] = .ok bytes := h
      exact .field h fun _ h => .field h fun _ h => .field h fun _ h => .done h

instance : Exact PostConditionPrincipal where
  rewrites := by
    refine .of_completes (.field fun tag => ?_)
    cases tag with
    | origin => exact .done rfl
    | account => exact .field fun address => .done rfl
    | contract => exact .field fun deployer => .field fun name => .done rfl

end PostConditionPrincipal

/-! ### Conditions -/

namespace PostCondition

instance : RoundTrip PostCondition where
  reads := by
    intro condition bytes h
    cases condition with
    | native principal code amount =>
      replace h : joined [encode AssetTag.native, encode principal, encode code,
        encode amount] = .ok bytes := h
      exact .field h fun _ h => .field h fun _ h => .field h fun _ h => .field h fun _ h => .done h
    | fungible principal asset code amount =>
      replace h : joined [encode AssetTag.fungible, encode principal, encode asset, encode code,
        encode amount] = .ok bytes := h
      exact .field h fun _ h => .field h fun _ h => .field h fun _ h => .field h fun _ h =>
        .field h fun _ h => .done h
    | token principal asset value code =>
      replace h : joined [encode AssetTag.token, encode principal, encode asset, encode value,
        encode code] = .ok bytes := h
      exact .field h fun _ h => .field h fun _ h => .field h fun _ h => .field h fun _ h =>
        .field h fun _ h => .done h

instance : LoggedFormat PostCondition where
  logged := do
    let tag : AssetTag ← Logged.plain decode
    let principal ← Logged.plain decode
    match tag with
    | .native => do
      let code ← Logged.plain decode
      let amount ← Logged.plain decode
      return native principal code amount
    | .fungible => do
      let asset ← Logged.plain decode
      let code ← Logged.plain decode
      let amount ← Logged.plain decode
      return fungible principal asset code amount
    | .token => do
      let asset ← Logged.plain decode
      let value ← logged
      let code ← Logged.plain decode
      return token principal asset value code
  forget_logged := by
    simp only [Logged.forget_bind, Logged.forget_plain]
    refine bind_congr fun tag => bind_congr fun principal => ?_
    cases tag <;>
      simp only [Logged.forget_bind, Logged.forget_plain, Logged.forget_pure, forget_logged]

instance : Canonical PostCondition where
  rewrites_logged := by
    refine .of_completes (.field fun tag => .field fun principal => ?_)
    cases tag with
    | native => exact .field fun code => .field fun amount => .done rfl
    | fungible => exact .field fun asset => .field fun code => .field fun amount => .done rfl
    | token => exact .field fun asset => .loggedField fun value => .field fun code => .done rfl

end PostCondition

end Registrar
