import Mathlib.Logic.Relation
import Registrar.Proofs.Base32.Regroup

namespace Registrar.Base32

/-!
# Regrouping moment by moment

Groups are taken one at a time and put above the pending bits, and as long as these make a
full group it is given away. However long this goes on, few bits are pending.

* `Moment`, `Moment.next?` — how far a regrouping is, and the moment after it;
* `Moment.nextInWords?` — the same on machine words, where bits may be lost;
* `Moment.Fits`, `Moment.fits_next`, `Moment.fits_of_reached` — what holds of the pending bits,
  from one moment to the next and so in every moment;
* `Moment.nextInWords?_eq` — no bit is lost in words that hold the pending bits;
* `Moment.result_next`, `Moment.regroup_of_last`, `Moment.exists_last` — the moments end with
  the regrouped groups;
* `InWords` — all of this for one list of groups.
-/

/-- How far a regrouping is: the groups that were given, least significant first, the pending
    bits, and the groups that are still to be taken. -/
structure Moment where
  given : List Nat
  pending : Pending
  left : List Nat

namespace Moment

/-- Nothing is taken or given yet. -/
def start (groups : List Nat) : Moment := ⟨[], .empty, groups⟩

/-- The moment after: a full group of pending bits is given, and where there is none the next
    group is taken. -/
def next? (source target : Nat) (m : Moment) : Option Moment :=
  if target ≤ m.pending.bits then
    some ⟨m.given ++ [m.pending.value % 2 ^ target],
      ⟨m.pending.value >>> target, m.pending.bits - target⟩, m.left⟩
  else
    match m.left with
    | [] => none
    | group :: left => some ⟨m.given, m.pending.push source group, left⟩

/-- The moment after on words of some bits, which drop what is shifted out of them. -/
def nextInWords? (size source target : Nat) (m : Moment) : Option Moment :=
  let word := BitVec.ofNat size m.pending.value
  if target ≤ m.pending.bits then
    some ⟨m.given ++ [(word &&& BitVec.ofNat size (2 ^ target - 1)).toNat],
      ⟨(word >>> target).toNat, m.pending.bits - target⟩, m.left⟩
  else
    match m.left with
    | [] => none
    | group :: left =>
      some ⟨m.given, ⟨(word ||| BitVec.ofNat size group <<< m.pending.bits).toNat,
        m.pending.bits + source⟩, left⟩

/-- The moment comes up when the groups are regrouped. -/
def Reached (source target : Nat) (groups : List Nat) : Moment → Prop :=
  Relation.ReflTransGen (fun m n => m.next? source target = some n) (start groups)

/-- All groups that are given in the end, those of this moment in front. -/
def result (source target : Nat) (m : Moment) : List Nat :=
  m.given ++ (m.pending.drain target).1 ++
    regroup source target (m.pending.drain target).2 m.left

variable {size source target : Nat} {groups : List Nat} {m n : Moment}

/-- **What comes next** is a group that is given or one that is taken. -/
theorem next?_cases (h : m.next? source target = some n) :
    (target ≤ m.pending.bits ∧ n = ⟨m.given ++ [m.pending.value % 2 ^ target],
      ⟨m.pending.value >>> target, m.pending.bits - target⟩, m.left⟩) ∨
    (m.pending.bits < target ∧ ∃ group left, m.left = group :: left ∧
      n = ⟨m.given, m.pending.push source group, left⟩) := by
  unfold next? at h
  split at h
  · next hfull => exact .inl ⟨hfull, (Option.some.inj h).symm⟩
  · next hfew =>
    split at h
    · cases h
    · next group left hleft =>
      exact .inr ⟨not_le.1 hfew, group, left, hleft, (Option.some.inj h).symm⟩

/-- **The end** comes when nothing is left to take and no group is full. -/
theorem next?_eq_none_iff :
    m.next? source target = none ↔ m.pending.bits < target ∧ m.left = [] := by
  unfold next?
  split
  · next hfull => simp [hfull]
  · next hfew => cases hleft : m.left <;> simp [not_le.1 hfew]

/-! ### The pending bits -/

/-- The pending bits are as many as their value needs, and fewer than a group that is taken and
    one that is given have together. -/
structure Fits (source target : Nat) (m : Moment) : Prop where
  bounded : m.pending.Bounded
  bits_lt : m.pending.bits < source + target
  lt_of_mem : ∀ group ∈ m.left, group < 2 ^ source

theorem fits_start (htarget : 0 < target) (h : ∀ group ∈ groups, group < 2 ^ source) :
    (start groups).Fits source target :=
  ⟨Nat.one_pos, Nat.add_pos_right source htarget, h⟩

/-- **From one moment to the next** the pending bits stay few. -/
theorem fits_next (h : m.Fits source target) (hnext : m.next? source target = some n) :
    n.Fits source target := by
  -- a full group goes out at the low end, or one comes in above where less is pending
  obtain ⟨hfull, rfl⟩ | ⟨hfew, group, left, hleft, rfl⟩ := next?_cases hnext
  · have hbits := h.bits_lt
    refine ⟨Pending.shift_bounded h.bounded hfull, ?_, h.lt_of_mem⟩
    show m.pending.bits - target < source + target
    omega
  · obtain ⟨hgroup, hrest⟩ := List.forall_mem_cons.1 (hleft ▸ h.lt_of_mem)
    refine ⟨Pending.push_bounded h.bounded hgroup, ?_, hrest⟩
    show m.pending.bits + source < source + target
    omega

/-- **In every moment** few bits are pending. -/
theorem fits_of_reached (htarget : 0 < target) (hgroups : ∀ group ∈ groups, group < 2 ^ source)
    (h : Reached source target groups m) : m.Fits source target := by
  induction h with
  | refl => exact fits_start htarget hgroups
  | tail _ hnext ih => exact fits_next ih hnext

/-- **No bit is lost** in words that have room for the pending bits. -/
theorem nextInWords?_eq (hsize : source + target ≤ size + 1) (h : m.Fits source target) :
    m.nextInWords? size source target = m.next? source target := by
  have hbits := h.bits_lt
  have hvalue : m.pending.value < 2 ^ size :=
    lt_of_lt_of_le h.bounded (Nat.pow_le_pow_right (by decide) (by omega))
  unfold nextInWords? next?
  split
  · next hfull =>
    have hmask : 2 ^ target - 1 < 2 ^ size :=
      lt_of_lt_of_le (Nat.sub_lt (Nat.two_pow_pos target) Nat.one_pos)
        (Nat.pow_le_pow_right (by decide) (by omega))
    simp only [BitVec.toNat_and, BitVec.toNat_ofNat, BitVec.toNat_ushiftRight,
      Nat.mod_eq_of_lt hvalue, Nat.mod_eq_of_lt hmask, Nat.and_two_pow_sub_one_eq_mod]
  · next hfew =>
    cases hleft : m.left with
    | nil => rfl
    | cons group left =>
      obtain ⟨hgroup, -⟩ := List.forall_mem_cons.1 (hleft ▸ h.lt_of_mem)
      -- the group stays below the top of the word, where the pending bits end it
      have hshifted : group <<< m.pending.bits < 2 ^ size := by
        rw [Nat.shiftLeft_eq]
        calc group * 2 ^ m.pending.bits
            < 2 ^ source * 2 ^ m.pending.bits :=
              Nat.mul_lt_mul_of_pos_right hgroup (Nat.two_pow_pos _)
          _ = 2 ^ (source + m.pending.bits) := (pow_add ..).symm
          _ ≤ 2 ^ size := Nat.pow_le_pow_right (by decide) (by omega)
      have hword : group < 2 ^ size := by
        rw [Nat.shiftLeft_eq] at hshifted
        exact lt_of_le_of_lt (Nat.le_mul_of_pos_right _ (Nat.two_pow_pos _)) hshifted
      have hpush : (BitVec.ofNat size m.pending.value |||
          BitVec.ofNat size group <<< m.pending.bits).toNat =
            (m.pending.push source group).value := by
        simp only [BitVec.toNat_or, BitVec.toNat_ofNat, BitVec.toNat_shiftLeft,
          Nat.mod_eq_of_lt hvalue, Nat.mod_eq_of_lt hword, Nat.mod_eq_of_lt hshifted]
        rfl
      simp only [hpush]
      rfl

/-! ### The groups that are given -/

/-- **From one moment to the next** the groups that are given in the end stay the same. -/
theorem result_next (htarget : 0 < target) (h : m.next? source target = some n) :
    n.result source target = m.result source target := by
  obtain ⟨hfull, rfl⟩ | ⟨hfew, group, left, hleft, rfl⟩ := next?_cases h
  · simp only [result, Pending.drain_of_le htarget hfull, List.append_assoc, List.cons_append,
      List.nil_append]
  · simp only [result, Pending.drain_of_lt hfew, hleft, regroup, List.append_assoc, List.nil_append]

/-- In the beginning all groups are still to be given. -/
theorem result_start (htarget : 0 < target) (groups : List Nat) :
    (start groups).result source target = regroup source target .empty groups := by
  have hempty : Pending.empty.bits < target := htarget
  simp only [result, start, Pending.drain_of_lt hempty, List.nil_append]

/-- So what is given in the end is known in every moment. -/
theorem result_of_reached (htarget : 0 < target) (h : Reached source target groups m) :
    m.result source target = regroup source target .empty groups := by
  induction h with
  | refl => exact result_start htarget groups
  | tail _ hnext ih => exact (result_next htarget hnext).trans ih

/-- **The last moment** has the groups that were given, and the bits left over as one more. -/
theorem regroup_of_last (htarget : 0 < target) (h : Reached source target groups m)
    (hlast : m.next? source target = none) : regroup source target .empty groups =
      m.given ++ if 0 < m.pending.bits then [m.pending.value] else [] := by
  obtain ⟨hfew, hleft⟩ := next?_eq_none_iff.1 hlast
  rw [← result_of_reached htarget h]
  simp only [result, Pending.drain_of_lt hfew, hleft, regroup, List.append_nil]

/-- A last moment is reached. -/
theorem exists_last (htarget : 0 < target) (groups : List Nat) :
    ∃ m, Reached source target groups m ∧ m.next? source target = none := by
  -- a group that is given leaves fewer bits, and one that is taken leaves fewer groups
  have hlast : ∀ (count : Nat) (m : Moment), m.left.length * (source + 1) + m.pending.bits = count →
      ∃ last, Relation.ReflTransGen (fun m n => m.next? source target = some n) m last ∧
        last.next? source target = none := by
    intro count
    induction count using Nat.strongRecOn with
    | _ count ih =>
      rintro m rfl
      cases hnext : m.next? source target with
      | none => exact ⟨m, .refl, hnext⟩
      | some n =>
        have hfewer : n.left.length * (source + 1) + n.pending.bits <
            m.left.length * (source + 1) + m.pending.bits := by
          obtain ⟨hfull, rfl⟩ | ⟨hfew, group, left, hleft, rfl⟩ := next?_cases hnext
          · exact Nat.add_lt_add_left (Nat.sub_lt_of_pos_le htarget hfull) _
          · show left.length * (source + 1) + (m.pending.bits + source) < _
            rw [hleft, List.length_cons, Nat.succ_mul]
            omega
        obtain ⟨last, hsteps, hend⟩ := ih _ hfewer n rfl
        exact ⟨last, .head hnext hsteps, hend⟩
  exact hlast _ (start groups) rfl

end Moment

/-! ### Regrouping in machine words -/

/-- The groups are regrouped on words of some bits, with at most twelve of them in use. -/
structure InWords (size source target : Nat) (groups : List Nat) : Prop where
  /-- The pending bits are as many as their value needs, and never more than twelve. -/
  bounded : ∀ m, Moment.Reached source target groups m →
    m.pending.value < 2 ^ m.pending.bits ∧ m.pending.bits ≤ 12
  /-- No bit is shifted out of a word. -/
  next?_eq : ∀ m, Moment.Reached source target groups m →
    m.nextInWords? size source target = m.next? source target
  exists_last : ∃ m, Moment.Reached source target groups m ∧ m.next? source target = none
  /-- In the end the value of the bits that are left fits a group, and is the last one. -/
  of_last : ∀ m, Moment.Reached source target groups m → m.next? source target = none →
    m.pending.value < 2 ^ target ∧ regroup source target .empty groups =
      m.given ++ if 0 < m.pending.bits then [m.pending.value] else []

/-- **In words** that have room for twelve bits the groups are regrouped as they should be. -/
theorem inWords {size source target : Nat} (htarget : 0 < target) (htwelve : source + target = 13)
    (hsize : 12 ≤ size) {groups : List Nat} (hgroups : ∀ group ∈ groups, group < 2 ^ source) :
    InWords size source target groups where
  bounded m hreached := by
    have hfits := Moment.fits_of_reached htarget hgroups hreached
    have hbits := hfits.bits_lt
    exact ⟨hfits.bounded, by omega⟩
  next?_eq m hreached :=
    Moment.nextInWords?_eq (by omega) (Moment.fits_of_reached htarget hgroups hreached)
  exists_last := Moment.exists_last htarget groups
  of_last m hreached hlast := by
    obtain ⟨hfew, -⟩ := Moment.next?_eq_none_iff.1 hlast
    have hbounded := (Moment.fits_of_reached htarget hgroups hreached).bounded
    -- nothing full is pending at the end, so what is left fits into one group
    have hvalue : m.pending.value < 2 ^ target :=
      lt_of_lt_of_le hbounded (Nat.pow_le_pow_right (by decide) hfew.le)
    exact ⟨hvalue, Moment.regroup_of_last htarget hreached hlast⟩

end Registrar.Base32
