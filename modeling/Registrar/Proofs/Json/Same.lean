import Mathlib.Data.List.Forall2
import Registrar.Json.Basic

namespace Registrar.Json

/-!
# JSON values up to the order of members

The members of an object stand in an order that means nothing.

* `Json.Same` — two values that differ in the order of members only, at any depth;
* `Same.exists_of_mem`, `Same.keys_perm` — a member of the one object has a partner in the
  other, and the keys are the same.
-/

mutual

/-- Two values are the same but for the order of members. -/
inductive Same : Json → Json → Prop where
  | refl (json : Json) : Same json json
  | items {items others : List Json} (h : List.Forall₂ Same items others) :
    Same (array items) (array others)
  | members {members permuted others : List (String × Json)} (hperm : members.Perm permuted)
    (h : List.Forall₂ SameMember permuted others) : Same (object members) (object others)

/-- Two members have the same key and values that are the same. -/
inductive SameMember : String × Json → String × Json → Prop where
  | mk (key : String) {json other : Json} (h : Same json other) :
    SameMember (key, json) (key, other)

end

namespace Same

/-- Texts are the same only if they are equal. -/
theorem string_inj {text other : String} (h : Same (string text) (string other)) :
    text = other := by
  cases h
  rfl

theorem bool_inj {flag other : Bool} (h : Same (bool flag) (bool other)) : flag = other := by
  cases h
  rfl

/-- Arrays are the same only if they are item by item. -/
theorem forall₂_items {items others : List Json} (h : Same (array items) (array others)) :
    List.Forall₂ Same items others := by
  cases h with
  | refl => exact List.forall₂_same.2 fun item _ => Same.refl item
  | items h => exact h

section

variable {members others : List (String × Json)} (hpairs : List.Forall₂ SameMember members others)

include hpairs

/-- Each member has one of the same name on the other side. -/
theorem exists_of_mem_pairs {key : String} {json : Json} (hmem : (key, json) ∈ members) :
    ∃ other, (key, other) ∈ others ∧ Same json other := by
  induction hpairs with
  | nil => cases hmem
  | cons hfirst _ ih =>
    rcases List.mem_cons.1 hmem with rfl | hmem
    · cases hfirst with
      | mk _ h => exact ⟨_, List.mem_cons_self, h⟩
    · obtain ⟨other, hother, hsame⟩ := ih hmem
      exact ⟨other, List.mem_cons_of_mem _ hother, hsame⟩

/-- Members that are the same in pairs have the same names in the same order. -/
theorem keys_eq_of_pairs : members.map Prod.fst = others.map Prod.fst := by
  induction hpairs with
  | nil => rfl
  | cons hfirst _ ih =>
    cases hfirst with
    | mk key _ => rw [List.map_cons, List.map_cons, ih]

end

/-- The members of one object in another order, each beside its partner in the other object. -/
theorem exists_permuted {members others : List (String × Json)}
    (h : Same (object members) (object others)) :
    ∃ permuted, members.Perm permuted ∧ List.Forall₂ SameMember permuted others := by
  cases h with
  | refl =>
    exact ⟨_, List.Perm.refl _, List.forall₂_same.2 fun member _ => .mk member.1 (.refl _)⟩
  | members hperm h => exact ⟨_, hperm, h⟩

/-- A member of the one object has a partner in the other. -/
theorem exists_of_mem {members others : List (String × Json)}
    (h : Same (object members) (object others)) {key : String} {json : Json}
    (hmem : (key, json) ∈ members) : ∃ other, (key, other) ∈ others ∧ Same json other := by
  obtain ⟨permuted, hperm, hpairs⟩ := h.exists_permuted
  exact exists_of_mem_pairs hpairs (hperm.subset hmem)

/-- The keys of the one object are those of the other. -/
theorem keys_perm {members others : List (String × Json)}
    (h : Same (object members) (object others)) :
    (members.map Prod.fst).Perm (others.map Prod.fst) := by
  obtain ⟨permuted, hperm, hpairs⟩ := h.exists_permuted
  exact keys_eq_of_pairs hpairs ▸ hperm.map Prod.fst

end Same

end Registrar.Json
