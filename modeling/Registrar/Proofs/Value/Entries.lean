import Registrar.Proofs.Tuple
import Registrar.Proofs.Value.RoundTrip
import Registrar.Value.Literal
import Registrar.Value.Projection
import Registrar.Value.Wire

namespace Registrar.Value

open Wire

/-!
# Tuples are made of entries in any order

Whoever makes a tuple gives its entries as they come, with keys that are texts. The keys are
looked at first, and then the tuple is known by its entries.

* `texts` — entries as they are given, with the texts of their keys;
* `ofText_texts` — each key is named by its text;
* `made_iff_distinct` — so entries make a tuple exactly if their keys are distinct, whatever
  their order, and the tuple holds them.
-/

/-! ### Entries with keys as texts -/

/-- The entries with the texts of their keys. -/
def texts (entries : List (Tuple.Entry Value)) : List (String × Value) :=
  entries.map fun entry => (entry.1.text, entry.2)

/-- Names that were valid are valid again as texts. -/
theorem mapM_texts (entries : List (Tuple.Entry Value)) :
    ((texts entries).mapM fun (key, value) => do
      let key ← Name.ofText key
      return (key, value) : Except Fault (List (Tuple.Entry Value))) = .ok entries := by
  induction entries with
  | nil => rfl
  | cons entry entries ih =>
    rw [texts, List.map_cons, List.mapM_cons]
    rw [texts] at ih
    simp only [Name.ofText_clarity, ih]
    rfl

/-- Each key is named by its text. -/
theorem ofText_texts (entries : List (Tuple.Entry Value)) :
    ofText (texts entries) = ofEntries entries := by
  unfold ofText
  rw [mapM_texts]
  rfl

/-- Keys are distinct exactly if their texts are. -/
theorem nodup_texts {entries : List (Tuple.Entry Value)} :
    ((texts entries).map Prod.fst).Nodup ↔ (entries.map Prod.fst).Nodup := by
  have hkeys : (texts entries).map Prod.fst = (entries.map Prod.fst).map Name.text := by
    simp [texts]
  rw [hkeys, List.nodup_map_iff Name.text_injective]

/-- Entries whose keys can be named are given by the texts of their names. -/
theorem exists_eq_texts {given : List (String × Value)}
    (h : ∀ entry ∈ given, Name.clarity.allows entry.1 = true) :
    ∃ entries, given = texts entries := by
  induction given with
  | nil => exact ⟨[], rfl⟩
  | cons entry given ih =>
    obtain ⟨hentry, hgiven⟩ := List.forall_mem_cons.1 h
    obtain ⟨entries, rfl⟩ := ih hgiven
    let key : ClarityName := ⟨entry.1, Name.Kind.allowsOnWire_of_allows hentry⟩
    exact ⟨(key, entry.2) :: entries, rfl⟩

/-! ### Tuples -/

/-- A value is made from entries exactly if a tuple is. -/
theorem ofEntries_eq_ok_iff {entries : List (Tuple.Entry Value)} {value : Value} :
    ofEntries entries = .ok value ↔
      ∃ made, Tuple.ofEntries entries = .ok made ∧ value = tuple made := by
  unfold ofEntries
  cases Tuple.ofEntries entries with
  | ok made => simp [eq_comm]
  | error key => simp

/-- From texts of valid keys a value is made exactly if no key comes twice. -/
theorem exists_ofText_texts_iff {entries : List (Tuple.Entry Value)} :
    (∃ value, ofText (texts entries) = .ok value) ↔ (entries.map Prod.fst).Nodup := by
  simp only [ofText_texts, ofEntries_eq_ok_iff, ← Tuple.exists_ofEntries_iff]
  constructor
  · rintro ⟨value, made, hmade, -⟩
    exact ⟨made, hmade⟩
  · rintro ⟨made, hmade⟩
    exact ⟨tuple made, made, hmade, rfl⟩

/-- **Entries make a tuple** exactly if no key is given twice, be the keys names or the texts
    of names. The tuple holds the entries, in the order of the bytes of their keys, and no
    others; and in whatever order they are given it is the same tuple, with the same wire
    form, the same literals and the same projection. -/
theorem made_iff_distinct :
    (∀ entries : List (Tuple.Entry Value),
      (∃ made, Tuple.ofEntries entries = .ok made) ↔ (entries.map Prod.fst).Nodup) ∧
    (∀ given : List (String × Value), (∀ entry ∈ given, Name.clarity.allows entry.1 = true) →
      ((∃ value, ofText given = .ok value) ↔ (given.map Prod.fst).Nodup)) ∧
    ∀ (entries : List (Tuple.Entry Value)) (made : Tuple Value),
      Tuple.ofEntries entries = .ok made →
        ofText (texts entries) = .ok (tuple made) ∧ made.Holds entries ∧
        ∀ other, other.Perm entries →
          Tuple.ofEntries other = .ok made ∧
          ∃ value, ofText (texts other) = .ok value ∧ value = tuple made ∧
            encode value = encode (tuple made) ∧
            (∀ style, value.literal style = (tuple made).literal style) ∧
            value.toJson = (tuple made).toJson := by
  refine ⟨fun entries => Tuple.exists_ofEntries_iff, fun given hgiven => ?_,
    fun entries made hmade => ⟨?_, Tuple.holds_of_ofEntries hmade, fun other hperm => ?_⟩⟩
  · obtain ⟨entries, rfl⟩ := exists_eq_texts hgiven
    rw [exists_ofText_texts_iff, nodup_texts]
  · rw [ofText_texts, ofEntries_eq_ok_iff]
    exact ⟨made, hmade, rfl⟩
  -- another order gives the same tuple, and with it all that is made from the tuple
  · have hother := Tuple.ofEntries_of_perm hperm hmade
    refine ⟨hother, tuple made, ?_, rfl, rfl, fun style => rfl, rfl⟩
    rw [ofText_texts, ofEntries_eq_ok_iff]
    exact ⟨made, hother, rfl⟩

/-- Two entries, the later key first. -/
def swappedEntries : List (Tuple.Entry Value) := [(nameB, none), (nameA, bool true)]

/-- Two entries in the wrong order make the tuple that they make in the right one. -/
theorem made_iff_distinct_swappedEntries :
    (∀ entry ∈ texts swappedEntries, Name.clarity.allows entry.1 = true) ∧
    (∃ value, ofText (texts swappedEntries) = .ok value) ∧
    ∃ made, Tuple.ofEntries swappedEntries = .ok made ∧ made.Holds swappedEntries ∧
      Tuple.ofEntries swappedEntries.reverse = .ok made := by
  have hallows : ∀ entry ∈ texts swappedEntries, Name.clarity.allows entry.1 = true := by
    simp only [swappedEntries, texts, List.map_cons, List.map_nil, List.forall_mem_cons]
    exact ⟨by decide, by decide, by simp⟩
  obtain ⟨hnamed, htexts, hmade⟩ := made_iff_distinct
  obtain ⟨made, h⟩ := (hnamed swappedEntries).2 (by decide)
  obtain ⟨-, hholds, hothers⟩ := hmade swappedEntries made h
  obtain ⟨hreverse, -⟩ := hothers swappedEntries.reverse (List.reverse_perm _)
  exact ⟨hallows, (htexts _ hallows).2 (by decide), made, h, hholds, hreverse⟩

/-- A key comes before the keys that it starts, and a hyphen before a letter. -/
example : (ofText [("aa", none), ("a-b", bool true), ("a", bool false)]).map (·.toText) =
    .ok "(tuple (a false) (a-b true) (aa none))" := by
  decide +kernel

end Registrar.Value
