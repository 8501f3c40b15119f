import Registrar.Name

namespace Registrar

/-!
# Tuples

A tuple gives a value to each of finitely many keys. It is held with its keys in
strictly increasing byte order, so that two tuples with the same entries are
equal and no key stands twice.

* `Tuple` — increasing keys and a value for each;
* `Tuple.toList` — the entries in key order;
* `Tuple.ofEntries` — the tuple of some entries, or the first key given again;
* `Tuple.get?` — the value for a key given as text.
-/

/-- Strictly increasing keys and a value for each. -/
structure Tuple (α : Type) where
  keys : List ClarityName
  sorted : keys.Pairwise (· < ·)
  value : Fin keys.length → α

namespace Tuple

variable {α : Type}

/-- An entry of a tuple. -/
abbrev Entry (α : Type) := ClarityName × α

/-- The entries in key order. -/
def toList (tuple : Tuple α) : List (Entry α) :=
  List.ofFn fun i => (tuple.keys[i], tuple.value i)

/-- The number of entries. -/
def size (tuple : Tuple α) : Nat := tuple.keys.length

/-- The value for the key with the given text. -/
def get? (tuple : Tuple α) (key : String) : Option α :=
  (tuple.toList.find? fun entry => entry.1.text == key).map Prod.snd

/-! ### Tuples from entries -/

/-- Whether the keys of the entries increase strictly. -/
def Increasing (entries : List (Entry α)) : Prop :=
  (entries.map Prod.fst).Pairwise (· < ·)

/-- The tuple of entries that are in key order already. -/
def ofIncreasing (entries : List (Entry α)) (h : Increasing entries) : Tuple α where
  keys := entries.map Prod.fst
  sorted := h
  value i := (entries.get ⟨i.val, by simpa using i.isLt⟩).2

/-- The entries with one more put at its place, unless its key is there. -/
def insert? (entry : Entry α) : List (Entry α) → Option (List (Entry α))
  | [] => some [entry]
  | first :: rest =>
    if entry.1 < first.1 then some (entry :: first :: rest)
    else if first.1 < entry.1 then (insert? entry rest).map (first :: ·)
    else none

theorem mem_keys_of_insert? {entry : Entry α} {entries result : List (Entry α)}
    (h : insert? entry entries = some result) {key : ClarityName}
    (hkey : key ∈ result.map Prod.fst) : key = entry.1 ∨ key ∈ entries.map Prod.fst := by
  induction entries generalizing result with
  | nil =>
    obtain rfl := Option.some.inj h
    simpa using hkey
  | cons first rest ih =>
    simp only [insert?] at h
    split at h
    · obtain rfl := Option.some.inj h
      simpa using hkey
    · split at h
      · obtain ⟨tail, htail, rfl⟩ := Option.map_eq_some_iff.1 h
        simp only [List.map_cons, List.mem_cons] at hkey ⊢
        rcases hkey with rfl | hkey
        · exact .inr (.inl rfl)
        · rcases ih htail hkey with rfl | hkey
          · exact .inl rfl
          · exact .inr (.inr hkey)
      · simp at h

/-- Putting an entry at its place keeps the keys increasing. -/
theorem increasing_of_insert? {entry : Entry α} {entries result : List (Entry α)}
    (h : insert? entry entries = some result) (hinc : Increasing entries) :
    Increasing result := by
  induction entries generalizing result with
  | nil =>
    obtain rfl := Option.some.inj h
    simp [Increasing]
  | cons first rest ih =>
    have hfirst : ∀ key ∈ rest.map Prod.fst, first.1 < key := by
      simpa [Increasing] using (List.pairwise_cons.1 hinc).1
    have hrest : Increasing rest := (List.pairwise_cons.1 hinc).2
    simp only [insert?] at h
    split at h
    · next hlt =>
      obtain rfl := Option.some.inj h
      refine List.pairwise_cons.2 ⟨?_, hinc⟩
      intro key hkey
      simp only [List.map_cons, List.mem_cons] at hkey
      rcases hkey with rfl | hkey
      · exact hlt
      · exact List.lt_trans hlt (hfirst key hkey)
    · split at h
      · next hlt =>
        obtain ⟨tail, htail, rfl⟩ := Option.map_eq_some_iff.1 h
        refine List.pairwise_cons.2 ⟨?_, ih htail hrest⟩
        intro key hkey
        rcases mem_keys_of_insert? htail hkey with rfl | hkey
        · exact hlt
        · exact hfirst key hkey
      · simp at h

/-- The entries put one after another into increasing ones; the first entry whose
    key is there already is reported by its key. -/
def collect (done : List (Entry α)) (hdone : Increasing done) :
    List (Entry α) → Except ClarityName (Tuple α)
  | [] => .ok (ofIncreasing done hdone)
  | entry :: rest =>
    match h : insert? entry done with
    | some next => collect next (increasing_of_insert? h hdone) rest
    | none => .error entry.1

/-- The tuple of the entries, or the first key that is given again. -/
def ofEntries (entries : List (Entry α)) : Except ClarityName (Tuple α) :=
  collect [] List.Pairwise.nil entries

end Tuple

end Registrar
