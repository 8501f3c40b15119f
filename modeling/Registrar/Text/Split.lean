namespace Registrar.Text

/-!
# Splitting texts at separators

* `splitAll` — the pieces between all occurrences of a character;
* `splitFirst?` — what stands before and after the first occurrence of a
  separator;
* `join_splitAll`, `splitFirst?_eq_some` — the pieces and the separators make up
  the text.
-/

/-- The pieces between all occurrences of the separator, one more than there are
    occurrences. -/
def splitAll (separator : Char) : List Char → List (List Char)
  | [] => [[]]
  | c :: rest =>
    if c = separator then [] :: splitAll separator rest
    else match splitAll separator rest with
      | [] => [[c]]
      | piece :: pieces => (c :: piece) :: pieces

theorem splitAll_ne_nil (separator : Char) (text : List Char) :
    splitAll separator text ≠ [] := by
  cases text with
  | nil => simp [splitAll]
  | cons c rest =>
    simp only [splitAll]
    split
    · simp
    · split <;> simp

/-- The pieces with the separator between them are the text. -/
theorem join_splitAll (separator : Char) (text : List Char) :
    List.intercalate [separator] (splitAll separator text) = text := by
  induction text with
  | nil => rfl
  | cons c rest ih =>
    obtain ⟨piece, pieces, h⟩ := List.exists_cons_of_ne_nil (splitAll_ne_nil separator rest)
    rw [h] at ih
    simp only [splitAll, h]
    split
    · next e => subst e; cases pieces <;> simp_all [List.intercalate, List.intersperse]
    · cases pieces <;> simp_all [List.intercalate, List.intersperse]

/-- What stands before and after the first occurrence of the separator. -/
def splitFirst? (separator : List Char) : List Char → Option (List Char × List Char)
  | [] => if separator = [] then some ([], []) else none
  | c :: rest =>
    if separator.isPrefixOf (c :: rest) then some ([], (c :: rest).drop separator.length)
    else (splitFirst? separator rest).map fun (before, after) => (c :: before, after)

theorem splitFirst?_eq_some {separator text before after : List Char}
    (h : splitFirst? separator text = some (before, after)) :
    text = before ++ separator ++ after := by
  induction text generalizing before with
  | nil =>
    simp only [splitFirst?] at h
    split at h <;> simp_all
  | cons c rest ih =>
    simp only [splitFirst?] at h
    split at h
    · next hp =>
      obtain ⟨tail, htail⟩ := List.isPrefixOf_iff_prefix.1 hp
      simp only [Option.some.injEq, Prod.mk.injEq] at h
      obtain ⟨rfl, rfl⟩ := h
      simp [← htail]
    · simp only [Option.map_eq_some_iff, Prod.mk.injEq, Prod.exists] at h
      obtain ⟨front, tail, hrest, rfl, rfl⟩ := h
      simp [ih hrest]

end Registrar.Text
