import Registrar.Proofs.Value.RoundTrip
import Registrar.Proofs.Wire.KeyLog

namespace Registrar.Value

open Wire
open Wire.Decoder (run_bind_eq_ok run_pure_eq_ok run_fail_eq_ok run_position_eq_ok
  run_require_eq_ok run_byte_eq_ok run_bytes_eq_ok run_natural_eq_ok)

/-!
# Values are written again as they were read, up to the order of keys

* `loggedWithin` — reads a value and keeps the log of the keys it meets;
* `rewritten_entries` — the entries of a tuple are written again in as many bytes, and
  in the same bytes exactly if they stood in order;
* `loggedContent_rewritten`, `loggedWithin_rewrites` — so is every value, by induction
  on the levels to spare;
* `exists_encode_iff_keysMet` — the same for a whole input that holds a value.
-/

/-! ### Words, counted bytes and texts -/

/-- A number of sixteen bytes is written again in the bytes that it was read from. -/
theorem word_rewritten {wrap : BitVec 128 → Value} {value : Value} {cursor next : Cursor}
    (h : (do return wrap (BitVec.ofNat 128 (← Decoder.natural 16)) : Decoder Value).run cursor =
      (.ok value, next)) :
    ∃ number, value = wrap number ∧
      Rewritten cursor next (.ok (Bytes.ofNat 16 number.toNat)) True := by
  simp only [run_bind_eq_ok, run_natural_eq_ok, run_pure_eq_ok] at h
  obtain ⟨n, _, ⟨hlt, hspans⟩, rfl, rfl⟩ := h
  refine ⟨BitVec.ofNat 128 n, rfl, ?_⟩
  have hback : (BitVec.ofNat 128 n).toNat = n := Nat.mod_eq_of_lt hlt
  rw [hback]
  exact .of_spans hspans

/-- Bytes behind their number are written again with it. -/
theorem decodeCounted_rewrites : decodeCounted.Rewrites encodeCounted fun _ => True := by
  intro cursor bytes next h
  simp only [decodeCounted, run_bind_eq_ok, run_bytes_eq_ok] at h
  obtain ⟨count, _, hcount, rfl, hspans⟩ := h
  exact .cons_same (decodeLength_rewrites hcount) (Rewritten.of_spans hspans).single

/-- A text that is read is written again, and is an ASCII string where one is expected. -/
theorem decodeText_rewritten {ascii : Bool} {text : String} {cursor next : Cursor}
    (h : (decodeText ascii).run cursor = (.ok text, next)) :
    Rewritten cursor next (encodeCounted (Text.bytes text)) True ∧
      (ascii = true → Text.isAscii (Text.bytes text) = true) := by
  simp only [decodeText, run_bind_eq_ok, run_position_eq_ok] at h
  obtain ⟨start, _, ⟨rfl, rfl⟩, bytes, mid, hbytes, h⟩ := h
  split at h
  · exact absurd h (by simp [run_fail_eq_ok])
  · next hcheck =>
    split at h
    · next text' htext =>
      obtain ⟨rfl, rfl⟩ := run_pure_eq_ok.1 h
      -- a text has one UTF-8 form, which is what it was read from
      rw [Text.bytes_of_ofBytes htext]
      refine ⟨decodeCounted_rewrites hbytes, fun hascii => ?_⟩
      simpa [hascii] using hcheck
    · exact absurd h (by simp [run_fail_eq_ok])

/-! ### Reading with the log -/

/-- Reads an entry of a tuple with the given reader for its value. -/
def loggedEntry (loggedValue : Logged Value) : Logged (Tuple.Entry Value) := do
  let key ← Logged.plain decode
  let value ← loggedValue
  return (key, value)

/-- Reads what follows a type tag at an offset, with a reader for the values inside. -/
def loggedContent (loggedValue : Logged Value) (offset : Nat) : Kind → Logged Value
  | .responseOk => do
    let data ← loggedValue
    return response true data
  | .responseErr => do
    let data ← loggedValue
    return response false data
  | .optionalSome => do
    let value ← loggedValue
    return some value
  | .list => do
    let count ← Logged.plain decodeLength
    let items ← Logged.times count loggedValue
    return list items
  | .tuple => do
    let count ← Logged.plain decodeLength
    let entries ← Logged.times count (loggedEntry loggedValue)
    Logged.meet (entries.map Prod.fst)
    match Tuple.ofEntries entries with
    | .ok entries => return tuple entries
    | .error key => Logged.plain (Decoder.fail (.invalidData offset (.duplicateKey key.text)))
  -- the other kinds hold no values
  | kind => Logged.plain (decodeContent loggedValue.forget offset kind)

/-- Reads a value with a number of levels of nesting to spare. -/
def loggedWithin : (levels : Nat) → Logged Value
  | 0 => Logged.plain (Decoder.fail (.depthExceeded maxDepth))
  | levels + 1 => do
    let offset ← Logged.plain Decoder.position
    let tag ← Logged.plain Decoder.byte
    let kind ← Logged.plain (Decoder.require (.unknownTypeTag tag offset) (ofCode? tag))
    loggedContent (loggedWithin levels) offset kind

/-- Without its log an entry is read as it is without logging. -/
theorem forget_loggedEntry (loggedValue : Logged Value) :
    (loggedEntry loggedValue).forget = decodeEntry loggedValue.forget := by
  simp only [loggedEntry, decodeEntry, Logged.forget_bind, Logged.forget_plain,
    Logged.forget_pure]

theorem forget_loggedContent (loggedValue : Logged Value) (offset : Nat) (kind : Kind) :
    (loggedContent loggedValue offset kind).forget =
      decodeContent loggedValue.forget offset kind := by
  cases kind
  -- only a tuple adds something of its own to the log, the keys of its entries
  case tuple =>
    simp only [loggedContent, decodeContent, Logged.forget_bind, Logged.forget_plain,
      Logged.forget_times, forget_loggedEntry, Logged.forget_meet, pure_bind]
    refine bind_congr fun count => bind_congr fun entries => ?_
    cases Tuple.ofEntries entries with
    | ok entries => exact Logged.forget_pure (tuple entries)
    | error key => exact Logged.forget_plain _
  all_goals
    simp only [loggedContent, decodeContent, Logged.forget_bind, Logged.forget_plain,
      Logged.forget_pure, Logged.forget_times]

/-- With the log, a value is read as it is without. -/
theorem forget_loggedWithin (levels : Nat) :
    (loggedWithin levels).forget = decodeWithin levels := by
  induction levels with
  | zero => simp [loggedWithin, decodeWithin]
  | succ levels ih =>
    simp only [loggedWithin, decodeWithin, Logged.forget_bind, Logged.forget_plain,
      forget_loggedContent, ih]

instance : LoggedFormat Value where
  logged := loggedWithin maxDepth
  forget_logged := forget_loggedWithin maxDepth

/-! ### Kinds without values inside -/

/-- Whether values of the kind have values inside. -/
def Kind.isNested : Kind → Bool
  | .responseOk | .responseErr | .optionalSome | .list | .tuple => true
  | _ => false

/-- Content without values in it meets no keys, so nothing is logged for it. -/
theorem loggedContent_of_not_nested {loggedValue : Logged Value} {offset : Nat} {kind : Kind}
    (hkind : ¬ kind.isNested = true) :
    loggedContent loggedValue offset kind =
      Logged.plain (decodeContent loggedValue.forget offset kind) := by
  cases kind <;> first | rfl | exact absurd rfl hkind

/-- The other kinds are written again in the bytes they were read from. -/
theorem decodeContent_rewritten {decodeValue : Decoder Value}
    {encodeValue : Value → Except EncodeFault Bytes} {offset : Nat} {kind : Kind} {value : Value}
    {cursor next : Cursor} (hkind : ¬ kind.isNested = true)
    (h : (decodeContent decodeValue offset kind).run cursor = (.ok value, next)) :
    value.kind = kind ∧ Rewritten cursor next (encodeContent encodeValue value) True := by
  cases kind with
  | int =>
    obtain ⟨number, rfl, hword⟩ := word_rewritten h
    exact ⟨rfl, hword⟩
  | uint =>
    obtain ⟨number, rfl, hword⟩ := word_rewritten h
    exact ⟨rfl, hword⟩
  | buffer =>
    simp only [decodeContent, run_bind_eq_ok, run_pure_eq_ok] at h
    obtain ⟨content, _, hcontent, rfl, rfl⟩ := h
    exact ⟨rfl, decodeCounted_rewrites hcontent⟩
  | boolTrue =>
    obtain ⟨rfl, rfl⟩ := run_pure_eq_ok.1 h
    exact ⟨rfl, .nil cursor⟩
  | boolFalse =>
    obtain ⟨rfl, rfl⟩ := run_pure_eq_ok.1 h
    exact ⟨rfl, .nil cursor⟩
  | principalAccount =>
    simp only [decodeContent, run_bind_eq_ok, run_pure_eq_ok] at h
    obtain ⟨p, _, hbody, rfl, rfl⟩ := h
    -- the same tag is written again only if the principal is an account
    have haccount := Principal.isContract_of_run_decodeBody hbody
    refine ⟨?_, Principal.decodeBody_rewrites false hbody⟩
    cases p with
    | account address => rfl
    | contract deployer name => cases haccount
  | principalContract =>
    simp only [decodeContent, run_bind_eq_ok, run_pure_eq_ok] at h
    obtain ⟨p, _, hbody, rfl, rfl⟩ := h
    have hcontract := Principal.isContract_of_run_decodeBody hbody
    refine ⟨?_, Principal.decodeBody_rewrites true hbody⟩
    cases p with
    | account address => cases hcontract
    | contract deployer name => rfl
  | optionalNone =>
    obtain ⟨rfl, rfl⟩ := run_pure_eq_ok.1 h
    exact ⟨rfl, .nil cursor⟩
  | ascii =>
    simp only [decodeContent, run_bind_eq_ok, run_pure_eq_ok] at h
    obtain ⟨text, _, htext, rfl, rfl⟩ := h
    obtain ⟨hrewritten, hascii⟩ := decodeText_rewritten htext
    refine ⟨rfl, ?_⟩
    simpa only [encodeContent, if_pos (hascii rfl)] using hrewritten
  | utf8 =>
    simp only [decodeContent, run_bind_eq_ok, run_pure_eq_ok] at h
    obtain ⟨text, _, htext, rfl, rfl⟩ := h
    exact ⟨rfl, (decodeText_rewritten htext).1⟩
  | _ => exact absurd rfl hkind

/-! ### Writing again -/

variable {loggedValue : Logged Value} {encodeValue : Value → Except EncodeFault Bytes}

/-- A key is written again as it was read, so an entry is as its value is. -/
theorem loggedEntry_rewrites (hvalue : loggedValue.Rewrites encodeValue) :
    (loggedEntry loggedValue).Rewrites (encodeEntry encodeValue) := by
  refine .of_completes (.field fun key => ?_)
  exact .bind hvalue fun value => .done rfl

/-- **Entries.** Those of a tuple are written again in as many bytes, and in the same
    bytes exactly if they and all keys inside them stood in order. -/
theorem rewritten_entries (hvalue : loggedValue.Rewrites encodeValue)
    (hreads : ∀ value written, encodeValue value = .ok written →
      loggedValue.forget.Reads written value)
    {count : Nat} {entries : List (Tuple.Entry Value)} {log : KeyLog} {tuple : Tuple Value}
    {cursor next : Cursor}
    (h : (Logged.times count (loggedEntry loggedValue)).run.run cursor =
      (.ok (entries, log), next))
    (htuple : Tuple.ofEntries entries = .ok tuple) :
    Rewritten cursor next (joined (tuple.toList.map (encodeEntry encodeValue)))
      (Tuple.Increasing entries ∧ log.InOrder) := by
  have hperm := Tuple.toList_perm_of_ofEntries htuple
  have hwire : Rewritten cursor next (joined (entries.map (encodeEntry encodeValue)))
      log.InOrder := (loggedEntry_rewrites hvalue).times count h
  obtain ⟨read, unsorted, hspans, hunsorted, hlen, hsame⟩ := hwire
  obtain ⟨written, hwritten, hlen'⟩ :=
    joined_perm (hperm.symm.map (encodeEntry encodeValue)) hunsorted
  refine ⟨read, written, hspans, hwritten, hlen'.trans hlen, ?_⟩
  rw [← Tuple.toList_eq_iff_increasing htuple, ← hsame]
  -- the same bytes cannot be read as two lists of entries
  have hentries : written = read → tuple.toList = entries := by
    rintro rfl
    have hback : (Decoder.times tuple.toList.length (decodeEntry loggedValue.forget)).Reads
        written tuple.toList :=
      .times (fun entry _ _ => decodeEntry_reads (hreads entry.2)) hwritten
    have hrun := Logged.run_forget_eq_ok.2 ⟨log, h⟩
    rw [Logged.forget_times, forget_loggedEntry] at hrun
    rw [hperm.length_eq, Logged.length_of_times h] at hback
    have hcursor := (Cursor.Spans.eq_iff.1 hspans).1
    rw [hcursor, hback] at hrun
    exact Except.ok.inj (Prod.mk.inj hrun).1
  constructor
  · intro h
    have htoList := hentries h
    rw [htoList, hunsorted] at hwritten
    exact ⟨htoList, (Except.ok.inj hwritten).trans h⟩
  · rintro ⟨htoList, rfl⟩
    rw [htoList, hunsorted] at hwritten
    exact (Except.ok.inj hwritten).symm

/-- **What follows the type tag** is written again, if the values inside are and are
    read back, and the value is of the kind that the tag names. -/
theorem loggedContent_rewritten (hvalue : loggedValue.Rewrites encodeValue)
    (hreads : ∀ value written, encodeValue value = .ok written →
      loggedValue.forget.Reads written value)
    {offset : Nat} {kind : Kind} {value : Value} {log : KeyLog} {cursor next : Cursor}
    (h : (loggedContent loggedValue offset kind).run.run cursor = (.ok (value, log), next)) :
    value.kind = kind ∧
      Rewritten cursor next (encodeContent encodeValue value) log.InOrder := by
  by_cases hkind : kind.isNested = true
  · cases kind with
    | responseOk =>
      simp only [loggedContent, Logged.run_bind_eq_ok, Logged.run_pure_eq_ok] at h
      obtain ⟨data, log, _, _, hdata, ⟨rfl, rfl, rfl⟩, rfl⟩ := h
      rw [List.append_nil]
      exact ⟨rfl, hvalue hdata⟩
    | responseErr =>
      simp only [loggedContent, Logged.run_bind_eq_ok, Logged.run_pure_eq_ok] at h
      obtain ⟨data, log, _, _, hdata, ⟨rfl, rfl, rfl⟩, rfl⟩ := h
      rw [List.append_nil]
      exact ⟨rfl, hvalue hdata⟩
    | optionalSome =>
      simp only [loggedContent, Logged.run_bind_eq_ok, Logged.run_pure_eq_ok] at h
      obtain ⟨inner, log, _, _, hinner, ⟨rfl, rfl, rfl⟩, rfl⟩ := h
      rw [List.append_nil]
      exact ⟨rfl, hvalue hinner⟩
    | list =>
      simp only [loggedContent, Logged.run_bind_eq_ok, Logged.run_plain_eq_ok,
        Logged.run_pure_eq_ok] at h
      obtain ⟨count, _, mid, _, ⟨hcount, rfl⟩,
        ⟨items, log, _, _, hitems, ⟨rfl, rfl, rfl⟩, rfl⟩, rfl⟩ := h
      obtain rfl := Logged.length_of_times hitems
      rw [List.nil_append, List.append_nil]
      exact ⟨rfl, .cons_same (decodeLength_rewrites hcount) (hvalue.times _ hitems)⟩
    | tuple =>
      simp only [loggedContent, Logged.run_bind_eq_ok, Logged.run_plain_eq_ok,
        Logged.run_meet_eq_ok] at h
      obtain ⟨count, _, mid, _, ⟨hcount, rfl⟩,
        ⟨entries, inner, _, _, hentries, ⟨_, _, _, _, ⟨rfl, rfl⟩, h, rfl⟩, rfl⟩, rfl⟩ := h
      split at h
      · next tuple htuple =>
        obtain ⟨rfl, rfl, rfl⟩ := Logged.run_pure_eq_ok.1 h
        have hsize : tuple.size = count := by
          rw [← Tuple.length_toList, (Tuple.toList_perm_of_ofEntries htuple).length_eq,
            Logged.length_of_times hentries]
        subst hsize
        have hrewritten := rewritten_entries hvalue hreads hentries htuple
        -- the log holds the tuples inside first, then the tuple's own keys
        refine ⟨rfl, (Rewritten.cons_same (decodeLength_rewrites hcount) hrewritten).congr ?_⟩
        rw [List.nil_append, List.append_nil, KeyLog.inOrder_append, KeyLog.inOrder_singleton,
          and_comm]
        rfl
      · -- a key given twice ends in a fault, so nothing was read
        exact absurd (Logged.run_plain_eq_ok.1 h).1 (by simp [run_fail_eq_ok])
    | _ => cases hkind
  · rw [loggedContent_of_not_nested hkind] at h
    obtain ⟨hrun, rfl⟩ := Logged.run_plain_eq_ok.1 h
    obtain ⟨rfl, hrewritten⟩ := decodeContent_rewritten hkind hrun
    exact ⟨rfl, hrewritten.unlogged⟩

/-- **Values with levels to spare** are written again with as many levels. -/
theorem loggedWithin_rewrites (levels : Nat) :
    (loggedWithin levels).Rewrites (encodeWithin levels) := by
  induction levels with
  | zero =>
    intro cursor value log next h
    exact absurd (Logged.run_plain_eq_ok.1 h).1 (by simp [run_fail_eq_ok])
  | succ levels ih =>
    intro cursor value log next h
    simp only [loggedWithin, Logged.run_bind_eq_ok, Logged.run_plain_eq_ok, run_position_eq_ok,
      run_byte_eq_ok, run_require_eq_ok] at h
    obtain ⟨_, _, _, _, ⟨⟨rfl, rfl⟩, rfl⟩, ⟨tag, _, mid, _, ⟨htag, rfl⟩,
      ⟨kind, _, _, log, ⟨⟨hcode, rfl⟩, rfl⟩, hcontent, rfl⟩, rfl⟩, rfl⟩ := h
    -- values with one level less are read back, by which entries cannot be confused
    have hreads : ∀ value written, encodeWithin levels value = .ok written →
        (loggedWithin levels).forget.Reads written value := by
      intro value written h
      rw [forget_loggedWithin]
      exact decodeWithin_reads h
    obtain ⟨rfl, hrewritten⟩ := loggedContent_rewritten ih hreads hcontent
    obtain rfl := ofCode?_eq_some_iff.1 hcode
    exact .cons_same (.of_spans htag) hrewritten.single

instance : Canonical Value where
  rewrites_logged := loggedWithin_rewrites maxDepth

/-! ### Whole inputs -/

/-- **Decoding and encoding again** puts the keys of tuples in order and changes nothing
    else: it never fails, the length stays, the value stays, and the bytes stay exactly
    if at every tuple the keys were read in strictly increasing order. -/
theorem exists_encode_iff_keysMet {bytes : Bytes} {value : Value} (h : ofBytes bytes = .ok value) :
    ∃ written, encode value = .ok written ∧ written.length = bytes.length ∧
      ofBytes written = .ok value ∧
      (written = bytes ↔ ∀ keys ∈ keysMet Value bytes, keys.Pairwise (· < ·)) := by
  obtain ⟨written, hencode, hlen, hsame⟩ := exists_encode_of_ofBytes h
  exact ⟨written, hencode, hlen, ofBytes_of_reads (reads hencode), hsame⟩

/-- A response with a tuple inside whose keys stand out of order, and with a tuple
    inside that one whose only key does not. -/
def unsortedBytes : Bytes := [7, 12, 0, 0, 0, 2, 1, 98, 9, 1, 97, 12, 0, 0, 0, 1, 1, 97, 3]

/-- What the bytes hold, with the keys in order. -/
def sortedValue : Value :=
  response true (tuple (.ofIncreasing
    [(nameA, tuple (.ofIncreasing [(nameA, bool true)] (by decide))), (nameB, none)]
    (by decide)))

/-- The tuple inside is entered first, since it is read before its own tuple ends; the
    bytes that are written are others, but as many. -/
theorem exists_encode_unsortedBytes :
    ofBytes unsortedBytes = .ok sortedValue ∧
      keysMet Value unsortedBytes = [[nameA], [nameB, nameA]] ∧
      ∃ written, encode sortedValue = .ok written ∧ written.length = 19 ∧
        ofBytes written = .ok sortedValue ∧ written ≠ unsortedBytes := by
  have hread : ofBytes unsortedBytes = .ok sortedValue := by rfl
  obtain ⟨written, hencode, hlen, hback, hsame⟩ := exists_encode_iff_keysMet hread
  refine ⟨hread, by rfl, written, hencode, hlen, hback, ?_⟩
  -- the bytes come back only if the keys are in order, and here they are not
  rw [Ne, hsame]
  show ¬ (keysMet Value unsortedBytes).InOrder
  decide

end Registrar.Value
