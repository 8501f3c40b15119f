import Mathlib.Data.List.TakeWhile
import Registrar.Text.Split

namespace Registrar.Text

/-!
# Where texts are split

* `not_mem_of_mem_splitAll` — no piece of a text holds the character that it was split at;
* `splitFirst?_append` — a text is split at the first separator if what stands in front of it
  does not hold the separator's first character;
* `splitFirst?_eq_none_iff`, `splitFirst?_eq_some_iff` — when and where a text is split at a
  single character;
* `takeWhile_ne_append` — so what stands in front is all that comes before that character.
-/

variable {separator : Char} {text before after : List Char}

theorem not_mem_of_mem_splitAll {piece : List Char} (h : piece ∈ splitAll separator text) :
    separator ∉ piece := by
  induction text generalizing piece with
  | nil =>
    obtain rfl := List.mem_singleton.1 h
    exact List.not_mem_nil
  | cons c rest ih =>
    obtain ⟨first, others, hrest⟩ := List.exists_cons_of_ne_nil (splitAll_ne_nil separator rest)
    rw [hrest] at ih
    simp only [splitAll, hrest] at h
    -- a separator begins a new piece, and any other character joins the first one
    split at h
    · rcases List.mem_cons.1 h with rfl | hmem
      · exact List.not_mem_nil
      · exact ih hmem
    · next hc =>
      rcases List.mem_cons.1 h with rfl | hmem
      · exact List.not_mem_cons_of_ne_of_not_mem (Ne.symm hc) (ih List.mem_cons_self)
      · exact ih (List.mem_cons_of_mem _ hmem)

/-- A text is split at the first of its separators. -/
theorem splitFirst?_append (h : separator ∉ before) (more after : List Char) :
    splitFirst? (separator :: more) (before ++ separator :: (more ++ after)) =
      some (before, after) := by
  induction before with
  | nil => simp [splitFirst?]
  | cons c before ih =>
    obtain ⟨hc, hbefore⟩ := not_or.1 (mt List.mem_cons.2 h)
    -- the separator does not begin here, as its first character is another
    have hprefix : ¬ (separator :: more).isPrefixOf
        (c :: (before ++ separator :: (more ++ after))) = true := by
      rw [List.isPrefixOf_iff_prefix, List.cons_prefix_cons]
      exact fun hsame => hc hsame.1
    rw [List.cons_append, splitFirst?, if_neg hprefix, ih hbefore, Option.map_some]

/-- A text is not split exactly if there is no separator in it. -/
theorem splitFirst?_eq_none_iff : splitFirst? [separator] text = none ↔ separator ∉ text := by
  induction text with
  | nil => simp [splitFirst?]
  | cons c text ih =>
    by_cases hc : separator = c
    · subst hc
      simp [splitFirst?]
    · have hprefix : ¬ [separator].isPrefixOf (c :: text) = true := by simpa using hc
      rw [splitFirst?, if_neg hprefix, Option.map_eq_none_iff, ih]
      simp [hc]

/-- A text is split at a character where the character first stands in it. -/
theorem splitFirst?_eq_some_iff : splitFirst? [separator] text = some (before, after) ↔
    text = before ++ separator :: after ∧ separator ∉ before := by
  constructor
  · intro h
    have hmem : separator ∈ text := by
      by_contra hnot
      rw [splitFirst?_eq_none_iff.2 hnot] at h
      cases h
    -- the text is split there, and it is split at one place only
    obtain ⟨front, back, rfl, hfront⟩ := List.eq_append_cons_of_mem hmem
    have hsplit : splitFirst? [separator] (front ++ separator :: back) = some (front, back) :=
      splitFirst?_append hfront [] back
    rw [hsplit] at h
    obtain ⟨rfl, rfl⟩ := Prod.mk.inj (Option.some.inj h)
    exact ⟨rfl, hfront⟩
  · rintro ⟨rfl, hbefore⟩
    exact splitFirst?_append hbefore [] after

/-- What is in front of the first separator is taken up to it. -/
theorem takeWhile_ne_append (h : separator ∉ before) (after : List Char) :
    (before ++ separator :: after).takeWhile (· ≠ separator) = before := by
  have hbefore : ∀ c ∈ before, decide (c ≠ separator) = true := by
    intro c hc
    exact decide_eq_true (ne_of_mem_of_not_mem hc h)
  rw [List.takeWhile_append_of_pos hbefore, List.takeWhile_cons_of_neg (by simp), List.append_nil]

end Registrar.Text
