import Mathlib.Data.List.DropRight
import Mathlib.Data.Nat.Digits.Lemmas
import Registrar.Base32

namespace Registrar.Base32

/-!
# Regrouped bits write the same number

Groups of bits, least significant group first, are the digits of a number. Regrouping them
keeps the number, so the groups of the new width are its digits again, up to zeros behind.

* `Pending.drained_drain` — taking full groups out of the pending bits keeps their number;
* `regroup_spec` — regrouped bits are digits of the same number;
* `widen?`, `widen?_eq` — towards wider groups one look at the pending bits is enough for each
  group that is taken, and the bits left in the end always fit a group;
* `leading_eq_digits`, `leading_regroup` — without the zeros behind they are the digits
  that the number has.
-/

open Nat (ofDigits digits)

/-! ### Pending bits -/

namespace Pending

/-- The bits are as many as the value needs. -/
def Bounded (pending : Pending) : Prop := pending.value < 2 ^ pending.bits

/-- A group put above bounded bits is added at their end. -/
theorem push_value {pending : Pending} (h : pending.Bounded) (width group : Nat) :
    (pending.push width group).value = pending.value + 2 ^ pending.bits * group := by
  show pending.value ||| group <<< pending.bits = _
  rw [Nat.or_comm, ← Nat.shiftLeft_add_eq_or_of_lt h, Nat.shiftLeft_eq, Nat.mul_comm group,
    Nat.add_comm]

/-- The bits are bounded again with a group put above them. -/
theorem push_bounded {pending : Pending} {width group : Nat} (h : pending.Bounded)
    (hgroup : group < 2 ^ width) : (pending.push width group).Bounded := by
  rw [Bounded, push_value h]
  show _ < 2 ^ (pending.bits + width)
  have hvalue : pending.value < 2 ^ pending.bits := h
  calc pending.value + 2 ^ pending.bits * group
      < 2 ^ pending.bits + 2 ^ pending.bits * group := by omega
    _ = 2 ^ pending.bits * (group + 1) := by ring
    _ ≤ 2 ^ pending.bits * 2 ^ width := Nat.mul_le_mul_left _ hgroup
    _ = 2 ^ (pending.bits + width) := (pow_add ..).symm

/-- The bits above a group that is taken out are bounded. -/
theorem shift_bounded {pending : Pending} {width : Nat} (h : pending.Bounded)
    (hfull : width ≤ pending.bits) :
    Bounded ⟨pending.value >>> width, pending.bits - width⟩ := by
  show pending.value >>> width < 2 ^ (pending.bits - width)
  rw [Nat.shiftRight_eq_div_pow, Nat.div_lt_iff_lt_mul (Nat.two_pow_pos width), ← pow_add,
    Nat.sub_add_cancel hfull]
  exact h

/-- A full group is drained, and the bits above it are drained in the same way. -/
theorem drain_of_le {width : Nat} (hwidth : 0 < width) {pending : Pending}
    (h : width ≤ pending.bits) :
    pending.drain width =
      (pending.value % 2 ^ width ::
        (Pending.drain width ⟨pending.value >>> width, pending.bits - width⟩).1,
        (Pending.drain width ⟨pending.value >>> width, pending.bits - width⟩).2) := by
  rw [Pending.drain, dif_pos ⟨hwidth, h⟩, Nat.shiftLeft_eq, Nat.one_mul]

/-- Fewer bits than a group has stay pending. -/
theorem drain_of_lt {width : Nat} {pending : Pending} (h : pending.bits < width) :
    pending.drain width = ([], pending) := by
  rw [Pending.drain, dif_neg fun hfull => absurd hfull.2 (not_le.2 h)]

/-- Groups of a width and a rest that together hold the pending bits. -/
structure Drained (width : Nat) (pending : Pending) (groups : List Nat) (rest : Pending) :
    Prop where
  value : ofDigits (2 ^ width) groups + 2 ^ (width * groups.length) * rest.value = pending.value
  bits : width * groups.length + rest.bits = pending.bits
  lt_of_mem : ∀ group ∈ groups, group < 2 ^ width
  bounded : rest.Bounded
  bits_lt : rest.bits < width

/-- **Draining** keeps the number: the full groups are its low digits, and fewer bits than
    a group has are left of it. -/
theorem drained_drain {width : Nat} (hwidth : 0 < width) {pending : Pending}
    (h : pending.Bounded) :
    Drained width pending (pending.drain width).1 (pending.drain width).2 := by
  fun_induction Pending.drain width pending with
  | case1 pending hfull groups rest hrest ih =>
    -- one group is the lowest digit; the bits above it are drained in the same way
    obtain ⟨-, hbits⟩ := hfull
    rw [hrest] at ih
    obtain ⟨hvalue, hcount, hlt, hbounded, hlast⟩ := ih (shift_bounded h hbits)
    have hpow : 1 <<< width = 2 ^ width := by rw [Nat.shiftLeft_eq, Nat.one_mul]
    simp only [Nat.shiftRight_eq_div_pow] at hvalue
    refine ⟨?_, ?_, ?_, hbounded, hlast⟩
    · simp only [hpow, Nat.ofDigits_cons, List.length_cons, Nat.mul_succ, pow_add]
      calc pending.value % 2 ^ width + 2 ^ width * ofDigits (2 ^ width) groups +
            2 ^ (width * groups.length) * 2 ^ width * rest.value
          = pending.value % 2 ^ width + 2 ^ width * (ofDigits (2 ^ width) groups +
              2 ^ (width * groups.length) * rest.value) := by ring
        _ = pending.value % 2 ^ width + 2 ^ width * (pending.value / 2 ^ width) := by rw [hvalue]
        _ = pending.value := Nat.mod_add_div _ _
    · have hrestBits : width * groups.length + rest.bits = pending.bits - width := hcount
      show width * (groups.length + 1) + rest.bits = pending.bits
      rw [Nat.mul_succ]
      omega
    · rw [List.forall_mem_cons, hpow]
      exact ⟨Nat.mod_lt _ (Nat.two_pow_pos width), hlt⟩
  | case2 pending hfull =>
    have hbits : pending.bits < width := by
      by_contra hge
      exact hfull ⟨hwidth, not_lt.1 hge⟩
    exact ⟨by simp, by simp, by simp, h, hbits⟩

end Pending

/-! ### Regrouped bits -/

section

variable {source target : Nat} {pending : Pending} {groups : List Nat}

/-- **Regrouped bits** are digits of the number that the pending bits and the groups
    behind them write. -/
theorem regroup_spec (htarget : 0 < target) (hpending : pending.Bounded)
    (hbits : pending.bits < target) (hgroups : ∀ group ∈ groups, group < 2 ^ source) :
    ofDigits (2 ^ target) (regroup source target pending groups) =
        pending.value + 2 ^ pending.bits * ofDigits (2 ^ source) groups ∧
      ∀ group ∈ regroup source target pending groups, group < 2 ^ target := by
  induction groups generalizing pending with
  | nil =>
    rw [regroup]
    -- the bits left make a digit of their own, smaller than a full group
    by_cases hempty : 0 < pending.bits
    · rw [if_pos hempty]
      have hlt : pending.value < 2 ^ target :=
        lt_of_lt_of_le hpending (Nat.pow_le_pow_right (by decide) hbits.le)
      simpa using hlt
    · rw [if_neg hempty]
      have hzero : pending.value = 0 := by
        have hvalue : pending.value < 2 ^ pending.bits := hpending
        rw [Nat.eq_zero_of_not_pos hempty] at hvalue
        omega
      simp [hzero]
  | cons group groups ih =>
    obtain ⟨hgroup, hrest⟩ := List.forall_mem_cons.1 hgroups
    have hdrained := Pending.drained_drain htarget (Pending.push_bounded hpending hgroup)
    obtain ⟨hvalue, hlt⟩ := ih hdrained.bounded hdrained.bits_lt hrest
    rw [regroup]
    -- the full groups are the low digits, and the bits left go on with the other groups
    generalize hdrain : (pending.push source group).drain target = drained at *
    obtain ⟨full, rest⟩ := drained
    have hcount : target * full.length + rest.bits = pending.bits + source := hdrained.bits
    refine ⟨?_, ?_⟩
    · rw [Nat.ofDigits_append, ← pow_mul, hvalue, Nat.ofDigits_cons]
      calc ofDigits (2 ^ target) full + 2 ^ (target * full.length) *
            (rest.value + 2 ^ rest.bits * ofDigits (2 ^ source) groups)
          = (ofDigits (2 ^ target) full + 2 ^ (target * full.length) * rest.value) +
              2 ^ (target * full.length + rest.bits) * ofDigits (2 ^ source) groups := by ring
        _ = (pending.value + 2 ^ pending.bits * group) +
              2 ^ (pending.bits + source) * ofDigits (2 ^ source) groups := by
            rw [hdrained.value, Pending.push_value hpending, hcount]
        _ = pending.value + 2 ^ pending.bits *
              (group + 2 ^ source * ofDigits (2 ^ source) groups) := by ring
    · intro found hfound
      rcases List.mem_append.1 hfound with hfound | hfound
      · exact hdrained.lt_of_mem found hfound
      · exact hlt found hfound

end

/-! ### One look for each group -/

/-- Groups of `source` bits regrouped to wider groups of `target` bits. The pending bits are
    looked at once for each group that is taken, and the bits left in the end are refused if
    their value does not fit a group. -/
def widen? (source target : Nat) (pending : Pending) : List Nat → Option (List Nat)
  | [] =>
    if 0 < pending.bits then
      if pending.value < 2 ^ target then some [pending.value] else none
    else some []
  | group :: rest =>
    let pending := pending.push source group
    if target ≤ pending.bits then
      (widen? source target ⟨pending.value >>> target, pending.bits - target⟩ rest).map
        (pending.value % 2 ^ target :: ·)
    else widen? source target pending rest

/-- Less than a full group is left behind the one that a narrower group has made full. -/
theorem push_sub_bits_lt {source target : Nat} {pending : Pending} (hwider : source ≤ target)
    (hbits : pending.bits < target) (group : Nat) :
    (pending.push source group).bits - target < target := by
  show pending.bits + source - target < target
  omega

/-- A group that is taken makes at most one group full, if it is no wider than that. -/
theorem drain_push_of_le {source target : Nat} {pending : Pending} (hwider : source ≤ target)
    (hbits : pending.bits < target) (group : Nat)
    (hfull : target ≤ (pending.push source group).bits) :
    (pending.push source group).drain target =
      ([(pending.push source group).value % 2 ^ target],
        ⟨(pending.push source group).value >>> target,
          (pending.push source group).bits - target⟩) := by
  -- less than a full group was pending, so there is one full group now and not two
  have hfew := push_sub_bits_lt hwider hbits group
  rw [Pending.drain_of_le (by omega) hfull, Pending.drain_of_lt hfew]

/-- **One look is enough** towards wider groups, and nothing is refused in the end. -/
theorem widen?_eq {source target : Nat} {pending : Pending} {groups : List Nat}
    (hwider : source ≤ target) (hpending : pending.Bounded) (hbits : pending.bits < target)
    (hgroups : ∀ group ∈ groups, group < 2 ^ source) :
    widen? source target pending groups = some (regroup source target pending groups) := by
  induction groups generalizing pending with
  | nil =>
    -- fewer bits than a group has are left, so their value fits one
    have hfits : pending.value < 2 ^ target :=
      lt_of_lt_of_le hpending (Nat.pow_le_pow_right (by decide) hbits.le)
    rw [widen?, regroup, if_pos hfits]
    split <;> rfl
  | cons group groups ih =>
    obtain ⟨hgroup, hrest⟩ := List.forall_mem_cons.1 hgroups
    have hpushed := Pending.push_bounded hpending hgroup
    rw [widen?, regroup]
    by_cases hfull : target ≤ (pending.push source group).bits
    · have hfew := push_sub_bits_lt hwider hbits group
      rw [if_pos hfull, ih (Pending.shift_bounded hpushed hfull) hfew hrest,
        drain_push_of_le hwider hbits group hfull]
      rfl
    · rw [if_neg hfull, ih hpushed (not_le.1 hfull) hrest, Pending.drain_of_lt (not_le.1 hfull)]
      rfl

/-! ### Digits without zeros in front -/

/-- Without the zeros behind, digits are those that their number has. -/
theorem leading_eq_digits {base : Nat} (hbase : 1 < base) {groups : List Nat}
    (h : ∀ group ∈ groups, group < base) :
    leading groups = (digits base (ofDigits base groups)).reverse := by
  -- zeros are dropped from the last group on, so the induction goes from there
  induction groups using List.reverseRecOn with
  | nil => simp [leading]
  | append_singleton groups last ih =>
    have hgroups : ∀ group ∈ groups, group < base := fun group hgroup => h group (by simp [hgroup])
    rw [leading, List.reverse_append, List.reverse_singleton, List.singleton_append]
    by_cases hzero : last = 0
    · subst hzero
      rw [Nat.ofDigits_append_zero, ← ih hgroups]
      rfl
    · rw [Nat.digits_ofDigits base hbase _ h (by simpa using hzero)]
      simp [hzero]

/-- The digits of the new width are those of the number that the groups write. -/
theorem leading_regroup {source target : Nat} (htarget : 0 < target) {groups : List Nat}
    (h : ∀ group ∈ groups, group < 2 ^ source) :
    leading (regroup source target .empty groups) =
      (digits (2 ^ target) (ofDigits (2 ^ source) groups)).reverse := by
  have hempty : Pending.empty.Bounded := Nat.one_pos
  obtain ⟨hvalue, hlt⟩ := regroup_spec htarget hempty htarget h
  rw [leading_eq_digits (Nat.one_lt_two_pow htarget.ne') hlt, hvalue]
  simp [Pending.empty]

end Registrar.Base32
