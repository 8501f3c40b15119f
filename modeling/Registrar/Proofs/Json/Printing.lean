import Mathlib.Data.List.Forall2
import Registrar.Proofs.Json.Reading

namespace Registrar.Json

/-!
# Printed values are read back

Both printed forms are texts of the grammar. What is read differs from what was printed in the
numbers only, which have no type in the text.

* `Reread` — a value in which each number is the one that its text is read as;
* `spells_compactChars`, `spells_prettyChars` — the printed forms stand for that value;
* `ofText?_compact`, `ofText?_pretty` — so they are read as it.
-/

mutual

/-- The second value is the first with each number as its text is read. -/
inductive Reread : Json → Json → Prop where
  | null : Reread null null
  | bool (flag : Bool) : Reread (bool flag) (bool flag)
  | integer {number : Int} {read : Json} (h : NumberText (toString number).toList read) :
    Reread (integer number) read
  | decimal {number : Decimal} {read : Json} (h : NumberText number.text.toList read) :
    Reread (decimal number) read
  | string (text : String) : Reread (string text) (string text)
  | array {items reads : List Json} (h : List.Forall₂ Reread items reads) :
    Reread (array items) (array reads)
  | object {members reads : List (String × Json)} (h : List.Forall₂ RereadMember members reads) :
    Reread (object members) (object reads)

/-- A member under its key, with its value as it is read. -/
inductive RereadMember : String × Json → String × Json → Prop where
  | mk (key : String) {value read : Json} (h : Reread value read) :
    RereadMember (key, value) (key, read)

end

/-! ### On one line -/

mutual

/-- A value on one line stands for the value as it is reread. -/
theorem spells_compactChars (json : Json) {read : Json} (h : Reread json read) :
    Spells (compactChars json) read := by
  match json, h with
  | _, .null => exact .null
  | _, .bool flag => exact .bool flag
  | _, .integer h => exact .number h
  | _, .decimal h => exact .number h
  | _, .string text => exact .string text
  | .array [], .array .nil => exact .emptyArray blank_nil
  | .array (item :: items), .array h =>
    have hitems := Spells.array blank_nil
      (spells_itemsChars (item :: items) h (List.cons_ne_nil _ _))
    exact hitems
  | .object [], .object .nil => exact .emptyObject blank_nil
  | .object (member :: members), .object h =>
    have hmembers := Spells.object blank_nil
      (spells_membersChars (member :: members) h (List.cons_ne_nil _ _))
    exact hmembers
termination_by structural json

/-- Items with commas between them are spelled if each item is. -/
theorem spells_itemsChars (items : List Json) {reads : List Json}
    (h : List.Forall₂ Reread items reads) (hne : items ≠ []) :
    SpellsItems (itemsChars items ++ [']']) reads := by
  match items, h with
  | [], _ => exact absurd rfl hne
  | [item], .cons hitem .nil =>
    exact .last (spells_compactChars item hitem) blank_nil
  | item :: next :: items, .cons hitem hitems =>
    have hmore := spells_itemsChars (next :: items) hitems (List.cons_ne_nil _ _)
    have hcons := SpellsItems.cons (spells_compactChars item hitem) blank_nil blank_nil hmore
    rw [itemsChars, List.append_assoc]
    exact hcons
    exact List.cons_ne_nil _ _
termination_by structural items

/-- Members with commas between them are spelled if each member is, behind its name. -/
theorem spells_membersChars (members : List (String × Json)) {reads : List (String × Json)}
    (h : List.Forall₂ RereadMember members reads) (hne : members ≠ []) :
    SpellsMembers (membersChars members ++ ['\x7d']) reads := by
  match members, h with
  | [], _ => exact absurd rfl hne
  | [(key, value)], .cons (.mk _ hvalue) .nil =>
    have hlast := SpellsMembers.last key blank_nil (spells_compactChars value hvalue) blank_nil
    rw [membersChars, List.append_assoc]
    exact hlast
  | (key, value) :: next :: members, .cons (.mk _ hvalue) hmembers =>
    have hmore := spells_membersChars (next :: members) hmembers (List.cons_ne_nil _ _)
    have hcons := SpellsMembers.cons key blank_nil (spells_compactChars value hvalue) blank_nil
      blank_nil hmore
    rw [membersChars, List.append_assoc, List.append_assoc]
    · exact hcons
    · exact List.cons_ne_nil _ _
termination_by structural members

end

/-- **A value on one line** is read as it is reread. -/
theorem ofText?_compact {json read : Json} (h : Reread json read) :
    ofText? json.compact = some read :=
  ofText?_of_spells (spells_compactChars json h)

/-! ### On several lines -/

/-- A line break with its indentation is blank. -/
theorem blank_lineBreak (level : Nat) : Blank (lineBreak level) := by
  intro c hc
  rcases List.mem_cons.1 hc with rfl | hc
  · rfl
  · rw [List.eq_of_mem_replicate hc]
    rfl

mutual

/-- A value on several lines stands for the value as it is reread. -/
theorem spells_prettyChars (level : Nat) (json : Json) {read : Json} (h : Reread json read) :
    Spells (prettyChars level json) read := by
  match json, h with
  | _, .null => exact .null
  | _, .bool flag => exact .bool flag
  | _, .integer h => exact .number h
  | _, .decimal h => exact .number h
  | _, .string text => exact .string text
  | .array [], .array .nil => exact .emptyArray blank_nil
  | .array (item :: items), .array (.cons hitem hitems) =>
    have hfirst := spells_prettyChars (level + 1) item hitem
    have hrest := spells_prettyItems (level + 1) items hitems hfirst (blank_lineBreak level)
    have harray := Spells.array (blank_lineBreak (level + 1)) hrest
    simp only [prettyChars, List.append_assoc, List.cons_append]
    exact harray
  | .object [], .object .nil => exact .emptyObject blank_nil
  | .object ((key, value) :: members), .object (.cons (.mk _ hvalue) hmembers) =>
    have hfirst := spells_prettyChars (level + 1) value hvalue
    have hrest := spells_prettyMembers (level + 1) members hmembers key hfirst
      (blank_lineBreak level)
    have hobject := Spells.object (blank_lineBreak (level + 1)) hrest
    simp only [prettyChars, List.append_assoc, List.cons_append]
    exact hobject
termination_by structural json

/-- Further items stand behind a first one. -/
theorem spells_prettyItems (level : Nat) (items : List Json) {reads : List Json}
    (h : List.Forall₂ Reread items reads) {text after : List Char} {read : Json}
    (hfirst : Spells text read) (hafter : Blank after) :
    SpellsItems (text ++ (prettyItems level items ++ (after ++ [']']))) (read :: reads) := by
  match items, h with
  | [], .nil => exact .last hfirst hafter
  | item :: items, .cons hitem hitems =>
    have hmore := spells_prettyItems level items hitems (spells_prettyChars level item hitem) hafter
    have hcons := SpellsItems.cons hfirst blank_nil (blank_lineBreak level) hmore
    simp only [prettyItems, List.append_assoc, List.cons_append]
    exact hcons
termination_by structural items

/-- Further members stand behind a first one. -/
theorem spells_prettyMembers (level : Nat) (members : List (String × Json))
    {reads : List (String × Json)} (h : List.Forall₂ RereadMember members reads) (key : String)
    {text after : List Char} {read : Json} (hfirst : Spells text read) (hafter : Blank after) :
    SpellsMembers
      (quote key ++ (": ".toList ++ (text ++ (prettyMembers level members ++ (after ++ ['\x7d'])))))
      ((key, read) :: reads) := by
  have hblank : Blank [' '] := by
    intro c hc
    rw [List.mem_singleton.1 hc]
    rfl
  match members, h with
  | [], .nil => exact .last key hblank hfirst hafter
  | (next, value) :: members, .cons (.mk _ hvalue) hmembers =>
    have hmore := spells_prettyMembers level members hmembers next
      (spells_prettyChars level value hvalue) hafter
    have hcons := SpellsMembers.cons key hblank hfirst blank_nil (blank_lineBreak level) hmore
    simp only [prettyMembers, List.append_assoc, List.cons_append]
    exact hcons
termination_by structural members

end

/-- **A value on several lines** is read as it is reread. -/
theorem ofText?_pretty {json read : Json} (h : Reread json read) :
    ofText? json.pretty = some read :=
  ofText?_of_spells (spells_prettyChars 0 json h)

end Registrar.Json
