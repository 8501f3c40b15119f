import Registrar.Proofs.Json.Same
import Registrar.Proofs.Value.Literal
import Registrar.Value.Projection

namespace Registrar

/-!
# Projections lose nothing

Values of different kinds may have the same content. The first word of the type tells them apart,
and the content tells an empty optional value from another one.

* `Value.toJson_eq` — a projection has the type and the content of the value, and what only
  responses have;
* `Value.typeWord_eq_of_typeName_eq` — values of the same type have the same first word in it;
* `Value.same_toJson_iff` — values with the same projection are the same, by induction on the
  value.
-/

namespace Value

open Json (Same)
open Text (Stopped)

/-! ### The first word of a type -/

/-- The first word of the types of values of a sort. -/
def Shape.typeWord : Shape → List Char
  | int => "int".toList
  | uint => "uint".toList
  | bool => "bool".toList
  | principal => "principal".toList
  | buffer => "(buff".toList
  | ascii => "(string-ascii".toList
  | utf8 => "(string-utf8".toList
  | none | some => "(optional".toList
  | response => "(response".toList
  | list => "(list".toList
  | tuple => "(tuple".toList

/-- The word for a shape has no blank in it, so what a type is made of is split off at the first. -/
theorem Shape.forall_mem_typeWord (shape : Shape) : ∀ c ∈ shape.typeWord, ¬ c = ' ' := by
  cases shape <;> exact List.all_iff_forall_prop.1 (by decide)

/-- The first word tells the sort of a value, but for whether an optional value is empty. -/
theorem Shape.eq_of_typeWord_eq {a b : Shape} (h : a.typeWord = b.typeWord) :
    a = b ∨ a = none ∧ b = some ∨ a = some ∧ b = none := by
  revert h
  cases a <;> cases b <;> decide

/-- A type starts with its first word, and ends with it or has a blank behind it. -/
theorem exists_typeChars_eq (value : Value) :
    ∃ rest, value.typeChars = value.shape.typeWord ++ rest ∧ Stopped (· = ' ') rest := by
  have hend : Stopped (· = ' ') [] := Text.stopped_nil
  have hblank (text : List Char) : Stopped (· = ' ') (' ' :: text) := Text.stopped_self _ text
  -- a name ends with its first word, or a blank comes behind that
  cases value with
  | int | uint | bool | principal => exact ⟨[], rfl, hend⟩
  | buffer bytes =>
    refine ⟨_, ?_, hblank (toString bytes.length ++ ")").toList⟩
    show ("(buff " ++ toString bytes.length ++ ")").toList = _
    rw [String.append_assoc, String.toList_append]
    rfl
  | ascii text =>
    refine ⟨_, ?_, hblank (toString text.utf8ByteSize ++ ")").toList⟩
    show ("(string-ascii " ++ toString text.utf8ByteSize ++ ")").toList = _
    rw [String.append_assoc, String.toList_append]
    rfl
  | utf8 text =>
    refine ⟨_, ?_, hblank (toString text.utf8ByteSize ++ ")").toList⟩
    show ("(string-utf8 " ++ toString text.utf8ByteSize ++ ")").toList = _
    rw [String.append_assoc, String.toList_append]
    rfl
  | none => exact ⟨_, rfl, hblank _⟩
  | some value => exact ⟨_, rfl, hblank _⟩
  | response committed data => cases committed <;> exact ⟨_, rfl, hblank _⟩
  | list items =>
    cases items with
    | nil => exact ⟨_, rfl, hblank _⟩
    | cons item items =>
      let size := toString (items.length + 1)
      refine ⟨_, ?_, hblank ((size ++ " ").toList ++ item.typeChars ++ [')'])⟩
      show ("(list " ++ size ++ " ").toList ++ item.typeChars ++ [')'] = _
      rw [String.append_assoc, String.toList_append]
      rfl
  | tuple => exact ⟨_, rfl, hblank _⟩

/-- Values of the same type have the same first word in it. -/
theorem typeWord_eq_of_typeName_eq {value other : Value} (h : value.typeName = other.typeName) :
    value.shape.typeWord = other.shape.typeWord := by
  obtain ⟨r, hvalue, hr⟩ := value.exists_typeChars_eq
  obtain ⟨s, hother, hs⟩ := other.exists_typeChars_eq
  have hchars : value.shape.typeWord ++ r = other.shape.typeWord ++ s := by
    rw [← hvalue, ← hother]
    exact String.ofList_inj.1 h
  exact (Text.append_inj_of_stop (Shape.forall_mem_typeWord _) (Shape.forall_mem_typeWord _)
    hr hs hchars).1

/-! ### The members of a projection -/

/-- The member of a tuple's projection for an entry. -/
def entryToJson (entry : Tuple.Entry Value) : String × Json := (entry.1.text, toJson entry.2)

/-- The content of a value in its projection. -/
def content : Value → Json
  | int n => .string n.toInt.repr
  | uint n => .string n.toNat.repr
  | bool flag => .bool flag
  | buffer bytes => .string ("0x" ++ Hex.encode bytes)
  | principal p => .string p.toText
  | none => .null
  | some value => toJson value
  | response _ data => toJson data
  | list items => .array (items.map toJson)
  | tuple entries => .object (entries.toList.map entryToJson)
  | ascii text => .string text
  | utf8 text => .string text

/-- What the projection of a response has besides. -/
def mark : Value → List (String × Json)
  | response committed _ => [("success", .bool committed)]
  | _ => []

theorem itemsToJson_eq (items : List Value) : itemsToJson items = items.map toJson := by
  induction items with
  | nil => rfl
  | cons item items ih =>
    show toJson item :: itemsToJson items = _
    rw [ih, List.map_cons]

/-- The members of a projection. -/
def members (value : Value) : List (String × Json) :=
  value.mark ++ [("type", .string value.typeName), ("value", value.content)]

/-- A value is projected to an object of its members. -/
theorem toJson_eq (value : Value) : value.toJson = .object value.members := by
  cases value with
  | list items =>
    show typed (list items) (.array (itemsToJson items)) = typed _ (.array (items.map toJson))
    rw [itemsToJson_eq]
  | tuple entries =>
    obtain ⟨keys, sorted, value⟩ := entries
    show typed _ (.object _) = typed _ (.object ((Tuple.toList ⟨keys, sorted, value⟩).map _))
    rw [Tuple.toList_eq_map, List.map_map]
    rfl
  | _ => rfl

/-- The member `type` is the name of the type. -/
theorem mem_members_type {value : Value} {json : Json} :
    ("type", json) ∈ members value ↔ json = .string value.typeName := by
  cases value <;> simp [members, mark]

theorem mem_members_value {value : Value} {json : Json} :
    ("value", json) ∈ members value ↔ json = value.content := by
  cases value <;> simp [members, mark]

theorem mem_members_success {committed : Bool} {data : Value} {json : Json} :
    ("success", json) ∈ members (response committed data) ↔ json = .bool committed := by
  simp [members, mark]

/-- The same projections have the same types. -/
theorem typeName_eq_of_same {v w : Value} (h : (toJson v).Same (toJson w)) :
    v.typeName = w.typeName := by
  rw [toJson_eq, toJson_eq] at h
  obtain ⟨json, hmem, hsame⟩ := h.exists_of_mem (mem_members_type.2 rfl)
  rw [mem_members_type.1 hmem] at hsame
  exact hsame.string_inj

/-- The same projections have the same contents. -/
theorem content_same_of_same {v w : Value} (h : (toJson v).Same (toJson w)) :
    v.content.Same w.content := by
  rw [toJson_eq, toJson_eq] at h
  obtain ⟨json, hmem, hsame⟩ := h.exists_of_mem (mem_members_value.2 rfl)
  rwa [mem_members_value.1 hmem] at hsame

/-- The same projections of responses have the same mark. -/
theorem committed_eq_of_same {committed kept : Bool} {v w : Value}
    (h : (toJson (response committed v)).Same (toJson (response kept w))) : committed = kept := by
  rw [toJson_eq, toJson_eq] at h
  obtain ⟨json, hmem, hsame⟩ := h.exists_of_mem (mem_members_success.2 rfl)
  rw [mem_members_success.1 hmem] at hsame
  exact hsame.bool_inj

/-- The same projections are those of values of one sort. -/
theorem shape_eq_of_same {v w : Value} (h : (toJson v).Same (toJson w)) : v.shape = w.shape := by
  have hcontent := content_same_of_same h
  rcases Shape.eq_of_typeWord_eq (typeWord_eq_of_typeName_eq (typeName_eq_of_same h)) with
    hshape | ⟨hv, hw⟩ | ⟨hv, hw⟩
  · exact hshape
  -- absence and presence share their first word, but only one of them has null for its content
  · obtain rfl : v = none := by cases v <;> first | rfl | cases hv
    obtain ⟨w, rfl⟩ : ∃ u, w = some u := by cases w <;> first | exact ⟨_, rfl⟩ | cases hw
    rw [content, content, toJson_eq] at hcontent
    cases hcontent
  · obtain rfl : w = none := by cases w <;> first | rfl | cases hw
    obtain ⟨v, rfl⟩ : ∃ u, v = some u := by cases v <;> first | exact ⟨_, rfl⟩ | cases hv
    rw [content, content, toJson_eq] at hcontent
    cases hcontent

/-! ### Composed values -/

/-- Lists with the same content are equal, if this holds of their items. -/
theorem items_eq_of_same {items others : List Value}
    (ih : ∀ v ∈ items, ∀ w, (toJson v).Same (toJson w) → v = w)
    (h : (content (list items)).Same (content (list others))) : items = others := by
  have hpairs := h.forall₂_items
  rw [List.forall₂_map_left_iff, List.forall₂_map_right_iff] at hpairs
  clear h
  induction hpairs with
  | nil => rfl
  | cons hfirst _ htail =>
    obtain ⟨hitem, hitems⟩ := List.forall_mem_cons.1 ih
    rw [hitem _ hfirst, htail hitems]

/-- Tuples with the same content are equal, if this holds of their values. Members are compared
    without their order, but entries have one. -/
theorem entries_eq_of_same {entries others : Tuple Value}
    (ih : ∀ i w, (toJson (entries.value i)).Same (toJson w) → entries.value i = w)
    (h : (content (tuple entries)).Same (content (tuple others))) : entries = others := by
  have hvalues : ∀ entry ∈ entries.toList, ∀ w, (toJson entry.2).Same (toJson w) → entry.2 = w :=
    Tuple.forall_mem_toList (fun v => ∀ w, (toJson v).Same (toJson w) → v = w) ih
  -- as many members on both sides, so it is enough that each entry is among the others
  have hsize : others.size ≤ entries.size := by
    have hlength := h.keys_perm.length_eq
    simp only [List.length_map, Tuple.length_toList] at hlength
    exact hlength.ge
  refine Tuple.eq_of_subset ?_ hsize
  rintro ⟨key, value⟩ hentry
  obtain ⟨json, hmem, hsame⟩ := h.exists_of_mem (List.mem_map_of_mem hentry)
  obtain ⟨⟨otherKey, other⟩, hother, hmember⟩ := List.mem_map.1 hmem
  obtain ⟨hkey, rfl⟩ := Prod.mk.inj hmember
  obtain rfl : otherKey = key := Name.text_injective hkey
  obtain rfl : value = other := hvalues _ hentry _ hsame
  exact hother

/-- **Projections lose nothing**: values whose projections differ in the order of members only are
    the same. -/
theorem same_toJson_iff (v w : Value) : (toJson v).Same (toJson w) ↔ v = w := by
  refine ⟨fun h => ?_, fun h => h ▸ Same.refl _⟩
  -- equal projections have one shape, so the other value is of the same constructor
  induction v using induction generalizing w with
  | int m =>
    have hshape := shape_eq_of_same h
    cases w with
    | int n =>
      have hnumber := (content_same_of_same h).string_inj
      rw [BitVec.eq_of_toInt_eq (Int.repr_injective hnumber)]
    | _ => cases hshape
  | uint m =>
    have hshape := shape_eq_of_same h
    cases w with
    | uint n =>
      have hnumber := (content_same_of_same h).string_inj
      rw [BitVec.eq_of_toNat_eq (Nat.repr_injective hnumber)]
    | _ => cases hshape
  | bool a =>
    have hshape := shape_eq_of_same h
    cases w with
    | bool b => rw [(content_same_of_same h).bool_inj]
    | _ => cases hshape
  | buffer a =>
    have hshape := shape_eq_of_same h
    cases w with
    | buffer b =>
      have hbytes := (content_same_of_same h).string_inj
      rw [Hex.encode_injective ((String.append_right_inj _).1 hbytes)]
    | _ => cases hshape
  | principal p =>
    have hshape := shape_eq_of_same h
    cases w with
    | principal q => rw [Principal.toText_injective (content_same_of_same h).string_inj]
    | _ => cases hshape
  | response committed data ih =>
    have hshape := shape_eq_of_same h
    cases w with
    | response kept other =>
      rw [committed_eq_of_same h, ih other (content_same_of_same h)]
    | _ => cases hshape
  | none =>
    have hshape := shape_eq_of_same h
    cases w with
    | none => rfl
    | _ => cases hshape
  | some value ih =>
    have hshape := shape_eq_of_same h
    cases w with
    | some other => rw [ih other (content_same_of_same h)]
    | _ => cases hshape
  | list items ih =>
    have hshape := shape_eq_of_same h
    cases w with
    | list others => rw [items_eq_of_same ih (content_same_of_same h)]
    | _ => cases hshape
  | tuple entries ih =>
    have hshape := shape_eq_of_same h
    cases w with
    | tuple others => rw [entries_eq_of_same ih (content_same_of_same h)]
    | _ => cases hshape
  | ascii text =>
    have hshape := shape_eq_of_same h
    cases w with
    | ascii other => rw [(content_same_of_same h).string_inj]
    | _ => cases hshape
  | utf8 text =>
    have hshape := shape_eq_of_same h
    cases w with
    | utf8 other => rw [(content_same_of_same h).string_inj]
    | _ => cases hshape

end Value

end Registrar
