import Mathlib.Data.List.FinRange
import Mathlib.Data.List.Nodup
import Mathlib.Data.List.Perm.Subperm
import Registrar.Proofs.Name
import Registrar.Value.Tuple

namespace Registrar.Tuple

/-!
# Tuples and the order of their entries

* `eq_of_subset` — a tuple is known by what entries it has;
* `ofEntries_toList` — the entries of a tuple make the tuple;
* `toList_perm_of_ofEntries` — a tuple has the entries it was made of, as often as
  they were given;
* `toList_eq_iff_increasing` — they stand as they were given exactly if their keys
  were given in increasing order;
* `exists_ofEntries_iff` — entries make a tuple exactly if their keys are distinct;
* `Holds`, `holds_of_ofEntries` — what the tuple has to be then;
* `ofEntries_of_perm` — in whatever order the entries are given.
-/

variable {α : Type}

instance (entries : List (Entry α)) : Decidable (Increasing entries) :=
  inferInstanceAs (Decidable (List.Pairwise _ _))

/-! ### The entries of a tuple -/

/-- Entries in the order of their keys are the entries of the tuple that is made from them. -/
@[simp] theorem toList_ofIncreasing (entries : List (Entry α)) (h : Increasing entries) :
    (ofIncreasing entries h).toList = entries := by
  apply List.ext_getElem
  · simp [toList, ofIncreasing]
  · intro i _ _
    simp [toList, ofIncreasing]

@[simp] theorem length_toList (tuple : Tuple α) : tuple.toList.length = tuple.size := by
  simp [toList, size]

/-- The keys of the entries are those of the tuple, in the same order. -/
theorem keys_toList (tuple : Tuple α) : tuple.toList.map Prod.fst = tuple.keys := by
  apply List.ext_getElem
  · simp [toList]
  · intro i _ _
    simp [toList]

/-- The entries of a tuple stand in the order of their keys. -/
theorem increasing_toList (tuple : Tuple α) : Increasing tuple.toList := by
  rw [Increasing, keys_toList]
  exact tuple.sorted

/-- A tuple is known by its entries. -/
theorem toList_injective {tuple other : Tuple α} (h : tuple.toList = other.toList) :
    tuple = other := by
  obtain ⟨keys, sorted, value⟩ := tuple
  obtain ⟨keys', sorted', value'⟩ := other
  obtain rfl : keys = keys' := by simpa only [keys_toList] using congrArg (List.map Prod.fst) h
  have hvalue : value = value' := by
    funext i
    have hentry := congrArg (fun entries => entries[i.val]?) h
    simpa [toList] using hentry
  rw [hvalue]

/-- The entries of a tuple pair each key with the value at its place. -/
theorem toList_eq_map (keys : List ClarityName) (sorted : keys.Pairwise (· < ·))
    (value : Fin keys.length → α) : toList ⟨keys, sorted, value⟩ =
      (List.finRange keys.length).map fun i => (keys[i], value i) :=
  List.ofFn_eq_map

theorem forall_mem_toList {tuple : Tuple α} (P : α → Prop) (h : ∀ i, P (tuple.value i)) :
    ∀ entry ∈ tuple.toList, P entry.2 := by
  intro entry hentry
  obtain ⟨i, rfl⟩ := List.mem_ofFn.1 hentry
  exact h i

/-- Each key of the entries is less than those behind it. -/
theorem pairwise_toList (tuple : Tuple α) : tuple.toList.Pairwise fun a b => a.1 < b.1 :=
  List.pairwise_map.1 tuple.increasing_toList

theorem nodup_toList (tuple : Tuple α) : tuple.toList.Nodup := by
  apply tuple.pairwise_toList.imp
  intro entry other hlt heq
  subst heq
  exact List.lt_irrefl _ hlt

/-- A tuple is known by its entries in any order. -/
theorem eq_of_perm {tuple other : Tuple α} (hperm : tuple.toList.Perm other.toList) :
    tuple = other := by
  apply toList_injective
  refine hperm.eq_of_pairwise ?_ tuple.pairwise_toList other.pairwise_toList
  exact fun _ _ _ _ hlt hgt => absurd hgt (List.lt_asymm hlt)

/-- A tuple that has all entries of another and no more is the other. -/
theorem eq_of_subset {tuple other : Tuple α} (hsub : tuple.toList ⊆ other.toList)
    (hsize : other.size ≤ tuple.size) : tuple = other := by
  rw [← length_toList, ← length_toList] at hsize
  exact eq_of_perm ((List.subperm_of_subset tuple.nodup_toList hsub).perm_of_length_le hsize)

/-- No key of a tuple is there twice. -/
theorem nodup_keys (tuple : Tuple α) : (tuple.toList.map Prod.fst).Nodup := by
  apply tuple.increasing_toList.imp
  intro key other hlt heq
  subst heq
  exact List.lt_irrefl _ hlt

/-- The value for a text is the one in the entry whose key has that text. -/
theorem get?_eq_some_iff {tuple : Tuple α} {key : String} {value : α} :
    tuple.get? key = some value ↔ ∃ entry ∈ tuple.toList, entry.1.text = key ∧ entry.2 = value := by
  simp only [get?, Option.map_eq_some_iff]
  constructor
  · rintro ⟨entry, hfind, hvalue⟩
    have hkey := List.find?_some hfind
    exact ⟨entry, List.mem_of_find?_eq_some hfind, eq_of_beq hkey, hvalue⟩
  · rintro ⟨entry, hmem, hkey, hvalue⟩
    cases hfind : tuple.toList.find? fun entry => entry.1.text == key with
    | none =>
      have hnot := List.find?_eq_none.1 hfind entry hmem
      exact absurd (beq_iff_eq.2 hkey) hnot
    | some found =>
      -- no key stands twice, so the first entry with the text is the only one
      have hfound := List.find?_some hfind
      have hname : found.1 = entry.1 := Name.text_injective ((eq_of_beq hfound).trans hkey.symm)
      have hentry : found = entry :=
        List.inj_on_of_nodup_map tuple.nodup_keys (List.mem_of_find?_eq_some hfind) hmem hname
      exact ⟨found, rfl, hentry ▸ hvalue⟩

/-! ### One more entry -/

/-- An entry is put in, and none is lost. -/
theorem insert?_perm {entry : Entry α} {entries result : List (Entry α)}
    (h : insert? entry entries = some result) : result.Perm (entry :: entries) := by
  induction entries generalizing result with
  | nil =>
    obtain rfl := Option.some.inj h
    exact .refl _
  | cons first rest ih =>
    simp only [insert?] at h
    split at h
    · obtain rfl := Option.some.inj h
      exact .refl _
    · split at h
      · obtain ⟨tail, htail, rfl⟩ := Option.map_eq_some_iff.1 h
        exact ((ih htail).cons first).trans (.swap entry first rest)
      · simp at h

/-- An entry is left out only if its key is there. -/
theorem mem_keys_of_insert?_eq_none {entry : Entry α} {entries : List (Entry α)}
    (h : insert? entry entries = none) : entry.1 ∈ entries.map Prod.fst := by
  induction entries with
  | nil => cases h
  | cons first rest ih =>
    simp only [insert?] at h
    rw [List.map_cons, List.mem_cons]
    split at h
    · cases h
    · next hnot =>
      split at h
      · exact .inr (ih (Option.map_eq_none_iff.1 h))
      · next hnot' => exact .inl (Name.eq_of_not_lt hnot hnot')

/-- An entry with the greatest key comes last. -/
theorem insert?_of_forall_lt {entry : Entry α} {entries : List (Entry α)}
    (h : ∀ other ∈ entries, other.1 < entry.1) :
    insert? entry entries = some (entries ++ [entry]) := by
  induction entries with
  | nil => rfl
  | cons first rest ih =>
    have hlt : first.1 < entry.1 := h first (by simp)
    have hnot : ¬ entry.1 < first.1 := List.lt_asymm hlt
    simp only [insert?, if_neg hnot, if_pos hlt, ih fun other hother => h other (by simp [hother]),
      Option.map_some, List.cons_append]

/-! ### All entries -/

/-- **Collecting** entries loses none and adds none. -/
theorem toList_perm_of_collect {done entries : List (Entry α)} {hdone : Increasing done}
    {tuple : Tuple α} (h : collect done hdone entries = .ok tuple) :
    tuple.toList.Perm (done ++ entries) := by
  induction entries generalizing done with
  | nil =>
    obtain rfl := Except.ok.inj h
    simp
  | cons entry rest ih =>
    simp only [collect] at h
    split at h
    · next next hnext =>
      exact (ih h).trans (((insert?_perm hnext).append_right rest).trans List.perm_middle.symm)
    · simp at h

/-- The entries of a tuple are those it was made of. -/
theorem toList_perm_of_ofEntries {entries : List (Entry α)} {tuple : Tuple α}
    (h : ofEntries entries = .ok tuple) : tuple.toList.Perm entries :=
  toList_perm_of_collect h

/-- Entries that come in order are collected as they are. -/
theorem collect_of_increasing {done entries : List (Entry α)} {hdone : Increasing done}
    (h : Increasing (done ++ entries)) :
    collect done hdone entries = .ok (ofIncreasing (done ++ entries) h) := by
  induction entries generalizing done with
  | nil => simp only [collect, List.append_nil]
  | cons entry rest ih =>
    -- the next entry is greater than all that are done, so it is put last
    have hlast : ∀ other ∈ done, other.1 < entry.1 := by
      intro other hother
      rw [Increasing, List.map_append, List.pairwise_append] at h
      exact h.2.2 _ (List.mem_map_of_mem hother) _ (by simp)
    have hinsert := insert?_of_forall_lt hlast
    have happend : done ++ [entry] ++ rest = done ++ entry :: rest := by simp
    simp only [collect]
    split
    · next next hnext =>
      obtain rfl : done ++ [entry] = next := Option.some.inj (hinsert.symm.trans hnext)
      rw [ih (happend ▸ h)]
      simp only [happend]
    · next hnone => simp [hinsert] at hnone

/-- Entries in order make a tuple that has them as they stand. -/
theorem ofEntries_of_increasing {entries : List (Entry α)} (h : Increasing entries) :
    ofEntries entries = .ok (ofIncreasing entries h) := by
  rw [ofEntries]
  exact collect_of_increasing (show Increasing ([] ++ entries) from h)

/-- **The entries of a tuple** make the tuple. -/
theorem ofEntries_toList (tuple : Tuple α) : ofEntries tuple.toList = .ok tuple := by
  rw [ofEntries_of_increasing tuple.increasing_toList]
  exact congrArg Except.ok (toList_injective (toList_ofIncreasing _ _))

/-- The entries of a tuple stand as they were given exactly if their keys were given
    in increasing order. -/
theorem toList_eq_iff_increasing {entries : List (Entry α)} {tuple : Tuple α}
    (h : ofEntries entries = .ok tuple) : tuple.toList = entries ↔ Increasing entries := by
  constructor
  · rintro rfl
    exact tuple.increasing_toList
  · intro hinc
    obtain rfl := Except.ok.inj ((ofEntries_of_increasing hinc).symm.trans h)
    simp

/-! ### Entries with distinct keys -/

/-- Collecting succeeds exactly if no key comes twice. -/
theorem exists_collect_iff {done entries : List (Entry α)} {hdone : Increasing done} :
    (∃ tuple, collect done hdone entries = .ok tuple) ↔
      ((done ++ entries).map Prod.fst).Nodup := by
  constructor
  · rintro ⟨tuple, h⟩
    have hkeys := (toList_perm_of_collect h).map Prod.fst
    exact hkeys.nodup_iff.1 tuple.nodup_keys
  · intro h
    induction entries generalizing done with
    | nil => exact ⟨_, rfl⟩
    | cons entry rest ih =>
      simp only [collect]
      split
      · next next hnext =>
        -- the entry has moved to those that are done
        have hperm : (next ++ rest).Perm (done ++ entry :: rest) :=
          ((insert?_perm hnext).append_right rest).trans List.perm_middle.symm
        exact ih ((hperm.map Prod.fst).nodup_iff.2 h)
      · next hnone =>
        have hthere := mem_keys_of_insert?_eq_none hnone
        rw [List.map_append, List.nodup_append] at h
        exact absurd rfl (h.2.2 _ hthere _ (List.mem_map_of_mem List.mem_cons_self))

/-- **Entries** make a tuple exactly if no key is given twice. -/
theorem exists_ofEntries_iff {entries : List (Entry α)} :
    (∃ tuple, ofEntries entries = .ok tuple) ↔ (entries.map Prod.fst).Nodup :=
  exists_collect_iff

/-- The tuple has the entries and no others: each once, in the order of the bytes of their
    keys, and each value under the text of its key. -/
structure Holds (tuple : Tuple α) (entries : List (Entry α)) : Prop where
  perm : tuple.toList.Perm entries
  ordered : tuple.toList.Pairwise fun a b => a.1.bytes < b.1.bytes
  size_eq : tuple.size = entries.length
  get?_of_mem : ∀ entry ∈ entries, tuple.get? entry.1.text = some entry.2
  get?_of_not_mem : ∀ key, (∀ entry ∈ entries, entry.1.text ≠ key) → tuple.get? key = none

/-- A tuple holds the entries that it was made of. -/
theorem holds_of_ofEntries {entries : List (Entry α)} {tuple : Tuple α}
    (h : ofEntries entries = .ok tuple) : tuple.Holds entries where
  perm := toList_perm_of_ofEntries h
  ordered := tuple.pairwise_toList
  size_eq := by
    rw [← length_toList]
    exact (toList_perm_of_ofEntries h).length_eq
  get?_of_mem entry hentry :=
    get?_eq_some_iff.2 ⟨entry, (toList_perm_of_ofEntries h).mem_iff.2 hentry, rfl, rfl⟩
  get?_of_not_mem key hkey := by
    rw [Option.eq_none_iff_forall_ne_some]
    intro value hvalue
    obtain ⟨entry, hentry, htext, -⟩ := get?_eq_some_iff.1 hvalue
    exact hkey entry ((toList_perm_of_ofEntries h).mem_iff.1 hentry) htext

/-- The order in which entries are given does not matter. -/
theorem ofEntries_of_perm {entries other : List (Entry α)} {tuple : Tuple α}
    (hperm : other.Perm entries) (h : ofEntries entries = .ok tuple) :
    ofEntries other = .ok tuple := by
  have hnodup : (other.map Prod.fst).Nodup :=
    (hperm.map Prod.fst).nodup_iff.2 (exists_ofEntries_iff.1 ⟨tuple, h⟩)
  obtain ⟨tuple', hother⟩ := exists_ofEntries_iff.2 hnodup
  have hsame : tuple'.toList.Perm tuple.toList :=
    ((toList_perm_of_ofEntries hother).trans hperm).trans (toList_perm_of_ofEntries h).symm
  rw [hother, eq_of_perm hsame]

end Registrar.Tuple
