import Registrar.Proofs.Value.Canonical

namespace Registrar.Value

open Wire
open Wire.Decoder (run_bind_eq_ok run_pure_eq_ok run_position_eq_ok run_require_eq_ok
  run_byte_eq_ok)

/-!
# What values are read from

A value is written as its type tag and its content, and read as a type tag and then as content
of the kind that the tag names.

* `run_decodeWithin_iff` — so the tag of the value is the byte that was read first;
* `run_decodeWithin_iff_of_leaf` — a value without values inside is read exactly where its wire
  form stands;
* `run_decodeWithin_response_iff`, `ofBytes_response_iff` — a response is read where its tag
  stands in front of the value in it.
-/

variable {levels : Nat} {value : Value} {cursor next : Cursor}

/-! ### Tag and content -/

/-- A value is written as its type tag and then its content. -/
theorem encodeWithin_of_content {content : Bytes}
    (h : value.encodeContent (encodeWithin levels) = .ok content) :
    encodeWithin (levels + 1) value = .ok (code value.kind :: content) := by
  rw [encodeWithin, h, joined_ok_pair]
  rfl

/-- Content is read as a value of the kind that it was announced as. -/
theorem kind_of_run_decodeContent {decodeValue : Decoder Value} {offset : Nat} {kind : Kind}
    (h : (decodeContent decodeValue offset kind).run cursor = (.ok value, next)) :
    value.kind = kind := by
  -- a nested kind builds its own constructor; a leaf is known from what is written for it
  by_cases hkind : kind.isNested = true
  · cases kind with
    | responseOk =>
      obtain ⟨data, _, -, hvalue⟩ := run_bind_eq_ok.1 h
      obtain ⟨rfl, -⟩ := run_pure_eq_ok.1 hvalue
      rfl
    | responseErr =>
      obtain ⟨data, _, -, hvalue⟩ := run_bind_eq_ok.1 h
      obtain ⟨rfl, -⟩ := run_pure_eq_ok.1 hvalue
      rfl
    | optionalSome =>
      obtain ⟨inner, _, -, hvalue⟩ := run_bind_eq_ok.1 h
      obtain ⟨rfl, -⟩ := run_pure_eq_ok.1 hvalue
      rfl
    | list =>
      obtain ⟨count, _, -, hitems⟩ := run_bind_eq_ok.1 h
      obtain ⟨items, _, -, hvalue⟩ := run_bind_eq_ok.1 hitems
      obtain ⟨rfl, -⟩ := run_pure_eq_ok.1 hvalue
      rfl
    | tuple =>
      obtain ⟨count, _, -, hentries⟩ := run_bind_eq_ok.1 h
      obtain ⟨entries, _, -, hvalue⟩ := run_bind_eq_ok.1 hentries
      split at hvalue
      · obtain ⟨rfl, -⟩ := run_pure_eq_ok.1 hvalue
        rfl
      · exact absurd hvalue (by simp [Decoder.run_fail_eq_ok])
    | _ => cases hkind
  · have hleaf : value.kind = kind ∧
        Rewritten cursor next (encodeContent encode value) True := decodeContent_rewritten hkind h
    exact hleaf.1

/-- **A value** is read as its type tag and then as content of its kind. -/
theorem run_decodeWithin_iff :
    (decodeWithin (levels + 1)).run cursor = (.ok value, next) ↔
      ∃ mid, cursor.Spans [code value.kind] mid ∧
        (decodeContent (decodeWithin levels) cursor.position value.kind).run mid =
          (.ok value, next) := by
  simp only [decodeWithin, run_bind_eq_ok, run_position_eq_ok, run_byte_eq_ok,
    run_require_eq_ok, ofCode?_eq_some_iff]
  constructor
  · rintro ⟨_, _, ⟨rfl, rfl⟩, tag, mid, htag, kind, _, ⟨hcode, rfl⟩, hcontent⟩
    obtain rfl := kind_of_run_decodeContent hcontent
    exact ⟨mid, hcode ▸ htag, hcontent⟩
  · rintro ⟨mid, htag, hcontent⟩
    exact ⟨_, _, ⟨rfl, rfl⟩, _, mid, htag, _, _, ⟨rfl, rfl⟩, hcontent⟩

/-- **A value without values inside** is read exactly where its wire form stands. -/
theorem run_decodeWithin_iff_of_leaf (hleaf : ¬ value.kind.isNested = true) :
    (decodeWithin (levels + 1)).run cursor = (.ok value, next) ↔
      ∃ bytes, encodeWithin (levels + 1) value = .ok bytes ∧ cursor.Spans bytes next := by
  refine Decoder.run_eq_ok_iff_spans (fun _ h => decodeWithin_reads h) fun hrun => ?_
  obtain ⟨mid, htag, hcontent⟩ := run_decodeWithin_iff.1 hrun
  obtain ⟨-, hrewritten⟩ := decodeContent_rewritten hleaf hcontent
  exact .cons_same (.of_spans htag) hrewritten.single

/-! ### Responses -/

/-- A response is read where its tag stands in front of the value in it. -/
theorem run_decodeWithin_response_iff {committed : Bool} {data : Value} :
    (decodeWithin (levels + 1)).run cursor = (.ok (response committed data), next) ↔
      ∃ mid, cursor.Spans [if committed then 7 else 8] mid ∧
        (decodeWithin levels).run mid = (.ok data, next) := by
  have hrepacked (mid : Cursor) :
      (do return response committed (← decodeWithin levels) : Decoder Value).run mid =
          (.ok (response committed data), next) ↔
        (decodeWithin levels).run mid = (.ok data, next) :=
    Decoder.run_map_eq_ok fun _ _ h => (response.inj h).2
  rw [run_decodeWithin_iff]
  cases committed with
  | true => exact exists_congr fun mid => and_congr_right fun _ => hrepacked mid
  | false => exact exists_congr fun mid => and_congr_right fun _ => hrepacked mid

/-- A whole input is a response around a value without values inside if its tag stands in front
    of the wire form of that value. -/
theorem ofBytes_response_iff {committed : Bool} {data : Value} {input : Bytes}
    (hleaf : ¬ data.kind.isNested = true) :
    ofBytes input = .ok (response committed data) ↔
      ∃ bytes, encodeWithin (maxDepth - 1) data = .ok bytes ∧
        input = (if committed then 7 else 8) :: bytes := by
  have hrun (next : Cursor) :
      (decode : Decoder Value).run (.start input) = (.ok (response committed data), next) ↔
        ∃ mid, (Cursor.start input).Spans [if committed then 7 else 8] mid ∧
          (decodeWithin (maxDepth - 1)).run mid = (.ok data, next) :=
    run_decodeWithin_response_iff
  have hdata (mid next : Cursor) :
      (decodeWithin (maxDepth - 1)).run mid = (.ok data, next) ↔
        ∃ bytes, encodeWithin (maxDepth - 1) data = .ok bytes ∧ mid.Spans bytes next :=
    run_decodeWithin_iff_of_leaf hleaf
  simp only [ofBytes_eq_ok_iff, hrun, hdata]
  constructor
  · rintro ⟨next, ⟨mid, htag, bytes, hform, hspans⟩, hrest⟩
    -- nothing is left over, so the tag and the value in the response are all of the input
    have hinput : input = [if committed then 7 else 8] ++ bytes ++ next.rest :=
      (htag.trans hspans).1
    rw [hrest, List.append_nil] at hinput
    exact ⟨bytes, hform, hinput⟩
  · rintro ⟨bytes, hform, rfl⟩
    exact ⟨⟨1 + bytes.length, []⟩, ⟨⟨1, bytes⟩, ⟨rfl, rfl⟩, bytes, hform,
      (List.append_nil bytes).symm, rfl⟩, rfl⟩

end Registrar.Value
