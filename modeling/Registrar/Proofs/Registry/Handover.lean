import Registrar.Proofs.Registry.Guards

namespace Registrar

/-!
# Conditions of a transfer

Conditions are met by what principals send while a transaction runs, or they are not. Those of
a transfer have the sender send the token of a name and the new owner keep it, whether or not
the two are one account.

* `PostCondition.MetBy` — whether a condition is met by what principals send;
* `PostCondition.Compatible` — conditions that can be met together;
* `PostCondition.compatible_token_iff` — a token is sent by one principal and kept by another
  exactly if they are two;
* `Registry.Operation.compatible_transfer_iff` — so a name can be handed over to any account but
  the sender's own;
* `Registry.Operation.not_forall_compatible` — but a transfer to the sender is drafted too.
-/

/-! ### Meeting conditions -/

/-- What principals send while a transaction runs. -/
structure Movements where
  /-- How much of the native coin a principal sends. -/
  native : Principal → Nat
  /-- How many units of an asset a principal sends. -/
  fungible : Principal → Asset → Nat
  /-- Whether a principal sends the token of an asset that a value identifies. -/
  token : Principal → Asset → Value → Prop

/-- Whether an amount that is sent compares as it should to the amount stated. -/
def AmountCode.Compares (code : AmountCode) (sent stated : Nat) : Prop :=
  match code with
  | sentEq => sent = stated
  | sentGt => sent > stated
  | sentGe => sent ≥ stated
  | sentLt => sent < stated
  | sentLe => sent ≤ stated

/-- The principal that a condition is about, in a transaction of the origin. -/
def PostConditionPrincipal.holder (origin : Address) : PostConditionPrincipal → Principal
  | .origin => .account origin
  | .account address => .account address
  | .contract deployer name => .contract deployer name

namespace PostCondition

/-- Whether a condition is met by what principals send in a transaction of the origin. -/
def MetBy (origin : Address) (movements : Movements) : PostCondition → Prop
  | native principal code amount =>
    code.Compares (movements.native (principal.holder origin)) amount.toNat
  | fungible principal asset code amount =>
    code.Compares (movements.fungible (principal.holder origin) asset) amount.toNat
  | token principal asset value .sent => movements.token (principal.holder origin) asset value
  | token principal asset value .notSent => ¬ movements.token (principal.holder origin) asset value

/-- Whether conditions can be met together. -/
def Compatible (origin : Address) (conditions : List PostCondition) : Prop :=
  ∃ movements, ∀ condition ∈ conditions, condition.MetBy origin movements

variable {origin : Address} {conditions more : List PostCondition}
  {giver keeper : PostConditionPrincipal} {asset : Asset} {value : Value}

/-- Conditions that are met together are met without the others. -/
theorem Compatible.of_subset (h : Compatible origin more) (hsubset : conditions ⊆ more) :
    Compatible origin conditions := by
  obtain ⟨movements, hmet⟩ := h
  exact ⟨movements, fun condition hcondition => hmet condition (hsubset hcondition)⟩

/-- **One token**, which one principal has to send and one has to keep: this can be exactly if
    they are two principals. -/
theorem compatible_token_iff :
    Compatible origin [.token giver asset value .sent, .token keeper asset value .notSent] ↔
      keeper.holder origin ≠ giver.holder origin := by
  simp only [Compatible, List.forall_mem_cons, List.not_mem_nil, false_imp_iff, implies_true,
    and_true]
  constructor
  · rintro ⟨movements, hsent, hkept⟩ heq
    have hkept' : ¬ movements.token (keeper.holder origin) asset value := hkept
    rw [heq] at hkept'
    exact hkept' hsent
  · intro hne
    -- the giver sends everything, and nobody else sends anything
    exact ⟨⟨fun _ => 0, fun _ _ => 0, fun principal _ _ => principal = giver.holder origin⟩,
      rfl, hne⟩

end PostCondition

namespace Registry.Operation

open PostCondition

/-! ### Handing a name over -/

variable {text : String} {newOwner : Address} {zonefile : Option Bytes} {options : DraftOptions}
  {envelope : Envelope}

/-- A transfer brings two conditions, which are about one token. -/
theorem exists_token_of_transfer
    (h : (nameTransfer text newOwner zonefile).draft options = .ok envelope) :
    ∃ asset token, envelope.transaction.postConditions = options.postConditions ++
      [.token (.account options.sender) asset token .sent,
        .token (.account newOwner) asset token .notSent] := by
  obtain ⟨call, family, guards, -, rfl, hguarded⟩ := exists_guarded_of_draft h
  obtain ⟨_, _, _, asset, token, -, -, -, -, -, rfl⟩ := hguarded
  exact ⟨asset, .tuple token, rfl⟩

/-- **Handing over.** Behind the conditions of the caller a transfer has two, which are about
    one token: the sender sends it, and the new owner keeps it. They can be met together exactly
    if the new owner is not the sender; if it is, then the draft's conditions cannot be met,
    whichever the caller has added. -/
theorem compatible_transfer_iff
    (h : (nameTransfer text newOwner zonefile).draft options = .ok envelope) :
    ∃ asset token guards,
      envelope.transaction.postConditions = options.postConditions ++ guards ∧
      guards = [.token (.account options.sender) asset token .sent,
        .token (.account newOwner) asset token .notSent] ∧
      (Compatible options.sender guards ↔ newOwner ≠ options.sender) ∧
      (newOwner = options.sender →
        ¬ Compatible options.sender envelope.transaction.postConditions) := by
  obtain ⟨asset, token, hconditions⟩ := exists_token_of_transfer h
  have hiff : Compatible options.sender [.token (.account options.sender) asset token .sent,
      .token (.account newOwner) asset token .notSent] ↔ newOwner ≠ options.sender := by
    refine compatible_token_iff.trans (not_congr ?_)
    exact ⟨Principal.account.inj, congrArg Principal.account⟩
  refine ⟨asset, token, _, hconditions, rfl, hiff, fun hself hall => ?_⟩
  -- conditions that can all be met can be met without those of the caller
  rw [hconditions] at hall
  exact hiff.1 (hall.of_subset (List.subset_append_right _ _)) hself

/-- The sample hands a name over to another account, so its two conditions can be met. -/
theorem compatible_transfer_iff_sampleTransfer :
    ∃ envelope guards, sampleTransfer.draft .sample = .ok envelope ∧
      envelope.transaction.postConditions = .native .origin .sentLe 5 :: guards ∧
      guards.length = 2 ∧ Compatible DraftOptions.sample.sender guards := by
  obtain ⟨envelope, -, hdraft, -⟩ :=
    exists_draft_sample sampleTransfer isTopLevel_sampleTransfer length_texts_sampleTransfer
  obtain ⟨asset, token, guards, hconditions, rfl, hiff, -⟩ := compatible_transfer_iff hdraft
  have hother : Transaction.sampleDeployer ≠ DraftOptions.sample.sender := by decide +kernel
  exact ⟨envelope, _, hdraft, hconditions, rfl, hiff.2 hother⟩

/-- **A transfer to the sender** is not refused. It has the sender both send the token of the
    name and keep it, so its conditions cannot be met. -/
theorem not_forall_compatible :
    ¬ ∀ (text : String) (newOwner : Address) (zonefile : Option Bytes) (options : DraftOptions)
      (envelope : Envelope), (nameTransfer text newOwner zonefile).draft options = .ok envelope →
      ∃ guards, envelope.transaction.postConditions = options.postConditions ++ guards ∧
        Compatible options.sender guards := by
  intro hall
  -- a transfer to the account that sends it
  obtain ⟨envelope, -, hdraft, -⟩ :=
    exists_draft_sample (nameTransfer "alice.btc" DraftOptions.sample.sender none)
      (by rintro _ ⟨⟩; decide) (List.forall_mem_singleton.2 (by decide))
  obtain ⟨guards, hguards, hcompatible⟩ := hall _ _ _ _ _ hdraft
  obtain ⟨asset, token, hconditions⟩ := exists_token_of_transfer hdraft
  obtain rfl := List.append_cancel_left (hguards.symm.trans hconditions)
  exact compatible_token_iff.1 hcompatible rfl

end Registry.Operation

end Registrar
