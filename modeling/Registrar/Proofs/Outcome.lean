namespace Except

/-!
# How computations end

* `bind_eq_ok_iff` — two steps in a row end well exactly if both do;
* `bind_eq_error_iff` — and end in a fault if the first does or the second does after it;
* `mapError_eq_ok_iff`, `mapError_eq_error_iff` — a fault told in other words is still a fault;
* `exists_eq_ok_of_isOk` — a computation that is seen to end well has a value;
* `exists_eq_error_iff` — and one without a value has a fault;
* `exists_eq_ok_of_mapM` — a computation on every item ends well only if each does.
-/

variable {α β ε δ : Type}

/-- **Two steps in a row** end well exactly if the first does and the second does with what the
    first has given. -/
theorem bind_eq_ok_iff {x : Except ε α} {f : α → Except ε β} {b : β} :
    x >>= f = .ok b ↔ ∃ a, x = .ok a ∧ f a = .ok b := by
  cases x with
  | error fault => simp [bind, Except.bind]
  | ok a => simp [bind, Except.bind]

/-- They end in a fault if the first does, or if the second does with the result of the first. -/
theorem bind_eq_error_iff {x : Except ε α} {f : α → Except ε β} {fault : ε} :
    x >>= f = .error fault ↔ x = .error fault ∨ ∃ a, x = .ok a ∧ f a = .error fault := by
  cases x with
  | error found => simp [bind, Except.bind]
  | ok a => simp [bind, Except.bind]

/-- A fault told in other words leaves results as they are. -/
theorem mapError_eq_ok_iff {x : Except ε α} {wrap : ε → δ} {a : α} :
    x.mapError wrap = .ok a ↔ x = .ok a := by
  cases x with
  | error fault =>
    show Except.error (wrap fault) = .ok a ↔ Except.error fault = .ok a
    simp
  | ok found =>
    show Except.ok found = .ok a ↔ Except.ok found = .ok a
    simp

/-- A fault told in other words is still a fault, and there is no other. -/
theorem mapError_eq_error_iff {x : Except ε α} {wrap : ε → δ} {fault : δ} :
    x.mapError wrap = .error fault ↔ ∃ found, x = .error found ∧ wrap found = fault := by
  cases x with
  | error found =>
    show Except.error (wrap found) = .error fault ↔ _
    simp
  | ok a =>
    show Except.ok a = .error fault ↔ _
    simp

/-- A computation that is seen to end well has a result. -/
theorem exists_eq_ok_of_isOk {x : Except ε α} (h : x.isOk = true) : ∃ a, x = .ok a := by
  cases x with
  | error fault => cases h
  | ok a => exact ⟨a, rfl⟩

/-- A computation ends in a fault exactly if it has no value. -/
theorem exists_eq_error_iff {x : Except ε α} : (∃ fault, x = .error fault) ↔ ¬ ∃ a, x = .ok a := by
  cases x <;> simp

/-- **A computation on every item** gets past an item only with a result for it. -/
theorem exists_eq_ok_of_mapM {f : α → Except ε β} {items : List α} {results : List β}
    (h : items.mapM f = .ok results) : ∀ item ∈ items, ∃ result, f item = .ok result := by
  induction items generalizing results with
  | nil => simp
  | cons first rest ih =>
    rw [List.mapM_cons] at h
    obtain ⟨result, hfirst, h⟩ := bind_eq_ok_iff.1 h
    obtain ⟨others, hrest, -⟩ := bind_eq_ok_iff.1 h
    exact List.forall_mem_cons.2 ⟨⟨result, hfirst⟩, ih hrest⟩

end Except
