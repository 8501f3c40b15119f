import Registrar.Proofs.Principal.Text
import Registrar.Proofs.Value.Limits
import Registrar.Proofs.Wire.Progress
import Registrar.Proofs.Wire.Truncation

namespace Registrar

open Wire
open Wire.Decoder (Takes Pays)

/-!
# The size of values

Each value on the wire has at least its type tag, so the bytes that are read bound how many
values there are, those inside others included. This holds of values that are read and of
readings that fail alike.

* `Value.nodes` — how many values stand in a value, at any depth;
* `Value.begun` — how many values a reading begins, those that fail included;
* `Value.nodes_of_run_decodeWithin` — a reading that ends well has begun as many values as it
  ends with, and has read a byte for each;
* `Value.begun_le_remaining` — any reading begins no more values than there are bytes left, and
  one that fails.
-/

/-! ### Keys -/

/-- A name takes its length and its bytes. -/
theorem Name.decode_takes {kind : Name.Kind} :
    (decode : Decoder (Name kind)).Takes fun name => kind.lengthWidth + name.bytes.length := by
  intro cursor name next hrun
  obtain ⟨read, written, hspans, hform, hlength, -⟩ := rewrites hrun
  obtain rfl := Except.ok.inj hform
  rw [List.length_append, Bytes.length_ofNat] at hlength
  have hposition : next.position = cursor.position + read.length := hspans.2
  show cursor.position + (kind.lengthWidth + name.bytes.length) ≤ next.position
  omega

/-- No key is empty. -/
theorem Name.length_bytes_pos (name : ClarityName) : 0 < name.bytes.length := by
  by_contra hempty
  have hsize : name.text.utf8ByteSize = 0 := by
    rw [← name.length_bytes]
    omega
  have hgrammar : Name.clarityGrammar name.text.toList = true := name.grammar_toList
  rw [String.utf8ByteSize_eq_zero_iff.1 hsize] at hgrammar
  cases hgrammar

namespace Value

variable {decodeValue : Decoder Value}

/-- An entry of a tuple takes the length of its key, a byte of the key at least, and its
    value. -/
theorem decodeEntry_takes {width : Nat} (hvalue : decodeValue.Takes fun _ => width) :
    (decodeEntry decodeValue).Takes fun _ => width + 2 := by
  have hkey : (decode : Decoder ClarityName).Takes fun _ => 2 :=
    Name.decode_takes.mono fun name => Nat.add_le_add_left name.length_bytes_pos 1
  exact hkey.bind fun key => hvalue.map fun _ => Nat.le_refl width

/-! ### Values in a value -/

mutual

/-- How many values stand in a value, the value itself included. -/
def nodes : Value → Nat
  | response _ data => nodes data + 1
  | some value => nodes value + 1
  | list items => nodesItems items + 1
  | tuple ⟨keys, _, value⟩ => ((List.finRange keys.length).map fun i => nodes (value i)).sum + 1
  | _ => 1
termination_by structural v => v

/-- How many values stand in the items of a list. -/
def nodesItems : List Value → Nat
  | [] => 0
  | item :: items => nodes item + nodesItems items
termination_by structural items => items

end

/-- The items of a list have as many nodes as they have one by one. -/
theorem nodesItems_eq (items : List Value) : nodesItems items = (items.map nodes).sum := by
  induction items with
  | nil => rfl
  | cons item items ih => rw [nodesItems, ih, List.map_cons, List.sum_cons]

/-- A value has itself and what stands in the values directly inside it. -/
theorem nodes_eq (value : Value) : value.nodes = (value.children.map nodes).sum + 1 := by
  cases value with
  | list items => rw [nodes, nodesItems_eq, children]
  | tuple entries =>
    obtain ⟨keys, sorted, value⟩ := entries
    rw [nodes, children, Tuple.toList_eq_map]
    simp [Function.comp_def]
  | _ => simp [nodes, children]

/-! ### Values begun -/

/-- How many values the reading of a value's content begins, with a reader for the values
    inside and with what that one begins. -/
def begunContent (decodeValue : Decoder Value) (begunValue : Cursor → Nat) :
    Kind → Cursor → Nat
  | .responseOk | .responseErr | .optionalSome => begunValue
  | .list => decodeLength.after fun count => decodeValue.eachLap count begunValue
  | .tuple => decodeLength.after fun count =>
    (decodeEntry decodeValue).eachLap count
      ((decode : Decoder ClarityName).after fun _ => begunValue)
  | _ => fun _ => 0

/-- How many values the reading of a value begins with a number of levels to spare, the value
    itself and those that fail included. -/
def begun : (levels : Nat) → Cursor → Nat
  | 0, _ => 1
  | levels + 1, cursor =>
    Decoder.byte.after (fun tag => match (ofCode? tag : Option Kind) with
      | .some kind => begunContent (decodeWithin levels) (begun levels) kind
      | .none => fun _ => 0) cursor + 1

/-- **What follows the type tag** begins the values inside, and has what stands in them. -/
theorem decodeContent_pays {begunValue : Cursor → Nat}
    (hvalue : decodeValue.Pays begunValue nodes) (offset : Nat) (kind : Kind) :
    (decodeContent decodeValue offset kind).Pays (begunContent decodeValue begunValue kind)
      fun value => (value.children.map nodes).sum := by
  -- the content of a value with no values inside is not looked into
  have hplain {α : Type} {d : Decoder α} (hd : d.Sequential) :
      d.Pays (fun _ => 0) (fun _ => 0) :=
    .free hd fun _ _ _ _ => rfl
  cases kind with
  | int => exact (hplain (.natural 16)).map fun _ => rfl
  | uint => exact (hplain (.natural 16)).map fun _ => rfl
  | buffer => exact (hplain decodeCounted_sequential).map fun _ => rfl
  | boolTrue => exact .pure rfl
  | boolFalse => exact .pure rfl
  | principalAccount => exact (hplain (Principal.decodeBody_sequential false)).map fun _ => rfl
  | principalContract => exact (hplain (Principal.decodeBody_sequential true)).map fun _ => rfl
  | responseOk => exact hvalue.map fun data => rfl
  | responseErr => exact hvalue.map fun data => rfl
  | optionalNone => exact .pure rfl
  | optionalSome => exact hvalue.map fun value => rfl
  | list =>
    refine .after decodeLength_sequential fun count => ?_
    exact (hvalue.times count).map fun items => rfl
  | tuple =>
    have hentry : (decodeEntry decodeValue).Pays
        ((decode : Decoder ClarityName).after fun _ => begunValue) fun entry => entry.2.nodes :=
      .after sequential fun key => hvalue.map fun value => rfl
    refine .after decodeLength_sequential fun count => ?_
    refine (hentry.times count).before (fun entries => ?_) fun entries cursor value next hrun => ?_
    · split
      · exact .pure _
      · exact .fail _
    · split at hrun
      · next entries' hentries =>
        obtain ⟨rfl, -⟩ := Decoder.run_pure_eq_ok.1 hrun
        -- the entries are put in order, which keeps their sum
        have hperm := (Tuple.toList_perm_of_ofEntries hentries).map fun entry => entry.2.nodes
        rw [children, List.map_map]
        exact hperm.sum_eq
      · exact (Decoder.run_fail_eq_ok.1 hrun).elim
  | ascii => exact (hplain (decodeText_sequential true)).map fun _ => rfl
  | utf8 => exact (hplain (decodeText_sequential false)).map fun _ => rfl

/-- **Values with levels to spare** begin the values that stand in them. -/
theorem decodeWithin_pays (levels : Nat) : (decodeWithin levels).Pays (begun levels) nodes := by
  induction levels with
  | zero => exact .fail fun cursor => Nat.le_refl 1
  | succ levels ih =>
    refine .offset fun offset => .succ_after .byte Takes.byte (fun tag => ?_) nodes_eq
    cases hkind : (ofCode? tag : Option Kind) with
    | none => exact .fail fun cursor => Nat.zero_le 1
    | some kind => exact decodeContent_pays ih offset kind

/-- **What is read was begun.** A value that is read has as many values standing in it as its
    reading began, and a byte was read for each. -/
theorem nodes_of_run_decodeWithin {levels : Nat} {cursor next : Cursor} {value : Value}
    (h : (decodeWithin levels).run cursor = (.ok value, next)) :
    begun levels cursor = value.nodes ∧ cursor.position + value.nodes ≤ next.position := by
  have hpays := decodeWithin_pays levels
  have hbegun := hpays.eq h
  exact ⟨hbegun, hbegun ▸ hpays.ok h⟩

/-- **Readings end.** However many items are announced and however deep they nest, a reading
    begins no more values than there are bytes left to read, and one that fails. -/
theorem begun_le_remaining (levels : Nat) (cursor : Cursor) :
    begun levels cursor ≤ cursor.remaining + 1 :=
  (decodeWithin_pays levels).le_remaining (decodeWithin_sequential levels) cursor

end Value

end Registrar
