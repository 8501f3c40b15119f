import Registrar.Proofs.Registry.Draft
import Registrar.Proofs.Value.Limits

namespace Registrar

open Wire

/-!
# What the registry adds to a request can be written

The arguments of a call and the conditions that guard it are put together from labels,
digests, amounts and addresses. They nest two levels at most, so nothing but the length of
a text could keep them from being written.

* `Value.exists_encode_of_shallow` — values that hold no values with values in them;
* `GuardsWritable` — the conditions that burns and transfers are guarded with;
* `Operation.texts` — the texts of an operation, which are the only parts of any length;
* `RegistryCall.Writable` — the arguments and the conditions of a call can be written;
* `Operation.writable_of_call` — they can if the texts that the call is made from are short.
-/

/-! ### Values in calls -/

namespace Value

/-- A value that fits is written if the values in it fit and hold no values. -/
theorem exists_encode_of_shallow {value : Value} (hfits : value.Fits)
    (hchildren : ∀ child ∈ value.children, child.Fits ∧ child.children = []) :
    ∃ written, encode value = .ok written := by
  refine exists_encodeWithin_iff.2 ⟨?_, ?_⟩
  -- Two levels are far fewer than are allowed, so the limit is only peeled off twice.
  · show value.depth ≤ 31 + 1
    refine depth_le_succ.2 fun child hchild => ?_
    show child.depth ≤ 30 + 1
    refine depth_le_succ.2 ?_
    rw [(hchildren child hchild).2]
    exact List.forall_mem_nil _
  · refine forall_inside.2 ⟨hfits, fun child hchild => ?_⟩
    refine forall_inside.2 ⟨(hchildren child hchild).1, ?_⟩
    rw [(hchildren child hchild).2]
    exact List.forall_mem_nil _

/-- Four bytes count the bytes of a buffer that fits. -/
theorem fits_buffer {bytes : Bytes} (h : bytes.length < UInt32.size) : (buffer bytes).Fits where
  isAscii := by
    intro text htext
    cases htext
  extent_le := Nat.le_sub_one_of_lt h

/-- Principals are of no length to be counted. -/
theorem fits_principal (p : Principal) : (principal p).Fits where
  isAscii := by
    intro text htext
    cases htext
  extent_le := Nat.zero_le _

/-- Short buffers are written. -/
theorem exists_encode_buffer {bytes : Bytes} (h : bytes.length < UInt32.size) :
    ∃ written, encode (buffer bytes) = .ok written :=
  exists_encode_of_shallow (fits_buffer h) (List.forall_mem_nil _)

theorem exists_encode_uint (number : BitVec 128) : ∃ written, encode (uint number) = .ok written :=
  ⟨_, rfl⟩

theorem exists_encode_principal (p : Principal) : ∃ written, encode (principal p) = .ok written :=
  exists_encode_of_shallow (fits_principal p) (List.forall_mem_nil _)

/-- A value that holds no values is written inside a wrapper as well. -/
theorem exists_encode_some {value : Value} (hfits : value.Fits) (hchildren : value.children = []) :
    ∃ written, encode (some value) = .ok written := by
  refine exists_encode_of_shallow ⟨?_, Nat.zero_le _⟩ ?_
  · intro text htext
    cases htext
  · exact List.forall_mem_singleton.2 ⟨hfits, hchildren⟩

end Value

namespace Registry

open Value (exists_encode_uint exists_encode_buffer exists_encode_principal)

theorem length_digest_lt (digest : Hash160) : digest.toList.length < UInt32.size := by
  rw [Vector.length_toList]
  decide

/-- Digests among the arguments are written. -/
theorem exists_encode_digestArgument (digest : Hash160) :
    ∃ written, encode (digestArgument digest) = .ok written :=
  exists_encode_buffer (length_digest_lt digest)

/-- The digest of a zone file that may be missing is written. -/
theorem exists_encode_optionalZonefile (zonefile : Option Bytes) :
    ∃ written, encode (optionalArgument (zonefile.map fun file =>
      digestArgument (zonefileHash file))) = .ok written := by
  cases zonefile with
  | none => exact ⟨_, rfl⟩
  | some file => exact Value.exists_encode_some (Value.fits_buffer (length_digest_lt _)) rfl

theorem exists_encode_optionalAccount (address : Option Address) :
    ∃ written, encode (optionalArgument (address.map accountArgument)) = .ok written := by
  cases address with
  | none => exact ⟨_, rfl⟩
  | some address => exact Value.exists_encode_some (Value.fits_principal _) rfl

/-- The token of a name is written if both labels are short. -/
theorem exists_encode_tokenOf {name space : String} (hname : (Text.bytes name).length < UInt32.size)
    (hspace : (Text.bytes space).length < UInt32.size) :
    ∃ written, encode (tokenOf name space) = .ok written := by
  refine Value.exists_encode_of_shallow ⟨?_, ?_⟩ ?_
  · intro text htext
    cases htext
  · show 2 ≤ UInt32.size - 1
    decide
  -- both labels stand in the token as buffers
  · have hentries : (tokenOf name space).children =
        [.bufferOfText name, .bufferOfText space] := rfl
    rw [hentries]
    simp only [List.forall_mem_cons]
    exact ⟨⟨Value.fits_buffer hname, rfl⟩, ⟨Value.fits_buffer hspace, rfl⟩, List.forall_mem_nil _⟩

/-! ### Conditions of calls -/

/-- Wherever the conditions are there, they are at most two, which can be written. -/
def GuardsWritable (guards : Address → UInt32 → Except RegistryFault (List PostCondition)) : Prop :=
  ∀ sender chainId conditions, guards sender chainId = .ok conditions →
    conditions.length ≤ 2 ∧ ∀ condition ∈ conditions, ∃ written, encode condition = .ok written

/-- No conditions are no burden. -/
theorem guardsWritable_nil : GuardsWritable fun _ _ => .ok [] := by
  rintro sender chainId _ ⟨⟩
  exact ⟨Nat.zero_le _, List.forall_mem_nil _⟩

/-- A payment brings one condition, on an amount. -/
theorem guardsWritable_burns (amount : UInt64) : GuardsWritable (burns amount) := by
  rintro sender chainId _ ⟨⟩
  refine ⟨by simp, ?_⟩
  exact List.forall_mem_singleton.2 ⟨_, rfl⟩

/-- A condition on a token is written if the value that identifies the token is. -/
theorem exists_encode_token {address : Address} {asset : Asset} {value : Value} {code : TokenCode}
    (h : ∃ written, encode value = .ok written) :
    ∃ written, encode (PostCondition.token (.account address) asset value code) = .ok written := by
  refine exists_joined_iff.2 ?_
  simp only [List.forall_mem_cons]
  exact ⟨⟨_, rfl⟩, ⟨_, rfl⟩, ⟨_, rfl⟩, h, ⟨_, rfl⟩, List.forall_mem_nil _⟩

/-- A transfer brings two conditions, both on the token of its name. -/
theorem guardsWritable_handsOver {name : QualifiedName}
    (hname : (Text.bytes name.name.text).length < UInt32.size)
    (hspace : (Text.bytes name.space.text).length < UInt32.size) (newOwner : Address) :
    GuardsWritable (handsOver name newOwner) := by
  intro sender chainId conditions h
  obtain ⟨contract, -, h⟩ := Except.bind_eq_ok_iff.1 h
  obtain rfl := Except.ok.inj h
  have htoken := exists_encode_tokenOf hname hspace
  refine ⟨by simp, ?_⟩
  simp only [List.forall_mem_cons]
  exact ⟨exists_encode_token htoken, exists_encode_token htoken, List.forall_mem_nil _⟩

/-! ### Calls -/

/-- The arguments and the conditions of the call can be written. -/
structure RegistryCall.Writable (call : RegistryCall) : Prop where
  length_arguments : call.arguments.length < UInt32.size
  arguments : ∀ argument ∈ call.arguments, ∃ written, encode argument = .ok written
  guards : GuardsWritable call.guards

/-- A call that states a digest and the amount that is burnt for it. -/
theorem RegistryCall.Writable.of_preorder {call : RegistryCall} {digest : Hash160}
    {burnt : UInt64} (harguments : call.arguments = [digestArgument digest, amountArgument burnt])
    (hguards : call.guards = burns burnt) : call.Writable where
  length_arguments := by
    rw [harguments]
    show 2 < UInt32.size
    decide
  arguments := by
    rw [harguments]
    simp only [List.forall_mem_cons]
    exact ⟨exists_encode_digestArgument _, exists_encode_uint _, List.forall_mem_nil _⟩
  guards := by
    rw [hguards]
    exact guardsWritable_burns burnt

/-- A call that states a name and at most three values more. -/
theorem RegistryCall.Writable.of_arguments {call : RegistryCall} {name : QualifiedName}
    {rest : List Value} (harguments : call.arguments = nameArguments name ++ rest)
    (hfew : rest.length ≤ 3) (hname : (Text.bytes name.name.text).length < UInt32.size)
    (hspace : (Text.bytes name.space.text).length < UInt32.size)
    (hrest : ∀ argument ∈ rest, ∃ written, encode argument = .ok written)
    (hguards : GuardsWritable call.guards) : call.Writable where
  length_arguments := by
    have hlength : call.arguments.length = 2 + rest.length := by
      rw [harguments, List.length_append]
      rfl
    have hsize : 5 < UInt32.size := by decide
    omega
  arguments := by
    rw [harguments]
    simp only [nameArguments, List.cons_append, List.nil_append, List.forall_mem_cons]
    exact ⟨exists_encode_buffer hspace, exists_encode_buffer hname, hrest⟩
  guards := hguards

/-- Both labels of a short name are short. -/
theorem RegistryCall.Writable.of_name {verb text : String} {f : QualifiedName → RegistryCall}
    {call : RegistryCall} (htext : (Text.bytes text).length < UInt32.size)
    (h : (do let name ← QualifiedName.parseTopLevel verb text; return f name) = .ok call)
    (hf : ∀ name : QualifiedName, (Text.bytes name.name.text).length < UInt32.size →
      (Text.bytes name.space.text).length < UInt32.size → (f name).Writable) :
    call.Writable := by
  obtain ⟨name, space, rfl, rfl⟩ := exists_labels_of_call h
  simp only [Text.bytes_append, List.length_append] at htext
  -- a label is a part of the text, so it is no longer
  refine hf _ ?_ ?_
  · show (Text.bytes name.text).length < UInt32.size
    omega
  · show (Text.bytes space.text).length < UInt32.size
    omega

namespace Operation

/-- The texts of the operation. -/
def texts : Operation → List String
  | spacePreorder space salt _ | spaceReveal space salt _ _ _ => [space, salt]
  | spaceReady space => [space]
  | namePreorder name salt _ | nameRegister name salt _ => [name, salt]
  | nameImport name _ _ | nameUpdate name _ | nameTransfer name _ _ | nameRevoke name
  | nameRenewal name _ _ _ => [name]

/-- **Calls can be written** if the texts that they are made from are short. -/
theorem writable_of_call {operation : Operation} {call : RegistryCall}
    (htexts : ∀ text ∈ operation.texts, (Text.bytes text).length < UInt32.size)
    (h : operation.call = .ok call) : call.Writable := by
  cases operation with
  | spacePreorder space salt burnt =>
    obtain rfl := Except.ok.inj h
    exact .of_preorder rfl rfl
  | spaceReveal space salt pricing lifetime importer =>
    obtain rfl := Except.ok.inj h
    simp only [texts, List.forall_mem_cons] at htexts
    obtain ⟨hspace, hsalt, -⟩ := htexts
    -- No other call has so many arguments: sixteen of them are the buckets of the prices.
    have hlength : ∀ {n : Nat}, n ≤ 24 → n < UInt32.size :=
      fun hn => Nat.lt_of_le_of_lt hn (by decide)
    refine ⟨hlength (by simp), ?_, guardsWritable_nil⟩
    simp only [List.forall_mem_append, List.forall_mem_map, List.forall_mem_cons,
      exists_encode_uint, implies_true, true_and, and_true]
    exact ⟨⟨exists_encode_buffer hspace, exists_encode_buffer hsalt, List.forall_mem_nil _⟩,
      exists_encode_principal _, List.forall_mem_nil _⟩
  | spaceReady space =>
    obtain rfl := Except.ok.inj h
    have hspace := List.forall_mem_singleton.1 htexts
    have hlength : 1 < UInt32.size := by decide
    exact ⟨hlength, List.forall_mem_singleton.2 (exists_encode_buffer hspace), guardsWritable_nil⟩
  | nameImport text owner zonefile =>
    refine .of_name (htexts text List.mem_cons_self) h fun name hname hspace => ?_
    refine .of_arguments rfl (by simp) hname hspace ?_ guardsWritable_nil
    simp only [List.forall_mem_cons]
    exact ⟨exists_encode_principal _, exists_encode_digestArgument _, List.forall_mem_nil _⟩
  | namePreorder text salt burnt =>
    refine .of_name (htexts text List.mem_cons_self) h fun name hname hspace => ?_
    exact .of_preorder rfl rfl
  | nameRegister text salt zonefile =>
    simp only [texts, List.forall_mem_cons] at htexts
    obtain ⟨htext, hsalt, -⟩ := htexts
    refine .of_name htext h fun name hname hspace => ?_
    refine .of_arguments rfl (by simp) hname hspace ?_ guardsWritable_nil
    simp only [List.forall_mem_cons]
    exact ⟨exists_encode_buffer hsalt, exists_encode_digestArgument _, List.forall_mem_nil _⟩
  | nameUpdate text zonefile =>
    refine .of_name (htexts text List.mem_cons_self) h fun name hname hspace => ?_
    refine .of_arguments rfl (by simp) hname hspace ?_ guardsWritable_nil
    exact List.forall_mem_singleton.2 (exists_encode_digestArgument _)
  | nameTransfer text newOwner zonefile =>
    refine .of_name (htexts text List.mem_cons_self) h fun name hname hspace => ?_
    refine .of_arguments rfl (by simp) hname hspace ?_
      (guardsWritable_handsOver hname hspace newOwner)
    simp only [List.forall_mem_cons]
    exact ⟨exists_encode_principal _, exists_encode_optionalZonefile _, List.forall_mem_nil _⟩
  | nameRevoke text =>
    refine .of_name (htexts text List.mem_cons_self) h fun name hname hspace => ?_
    exact .of_arguments (List.append_nil _).symm (by simp) hname hspace (List.forall_mem_nil _)
      guardsWritable_nil
  | nameRenewal text burnt newOwner zonefile =>
    refine .of_name (htexts text List.mem_cons_self) h fun name hname hspace => ?_
    refine .of_arguments rfl (by simp) hname hspace ?_ (guardsWritable_burns burnt)
    simp only [List.forall_mem_cons]
    exact ⟨exists_encode_uint _, exists_encode_optionalAccount _, exists_encode_optionalZonefile _,
      List.forall_mem_nil _⟩

end Operation

end Registry

end Registrar
