import Registrar.Decimal

namespace Registrar

/-!
# JSON values

* `Json` — the values of the format; an object keeps its members in order;
* `Json.ordered` — members in key order, the last of those with one key;
* `Json.get?` — the member with a key.
-/

/-- A value of the format. -/
inductive Json where
  | null
  | bool (flag : Bool)
  /-- A whole number. -/
  | integer (number : Int)
  /-- A binary number, by its shortest decimal. -/
  | decimal (number : Decimal)
  | string (text : String)
  | array (items : List Json)
  | object (members : List (String × Json))

namespace Json

instance : Inhabited Json := ⟨null⟩

/-- The members with one more put in key order, in place of one with its key. -/
def insertMember (member : String × Json) : List (String × Json) → List (String × Json)
  | [] => [member]
  | first :: rest =>
    if member.1 < first.1 then member :: first :: rest
    else if member.1 = first.1 then member :: rest
    else first :: insertMember member rest

/-- Members in key order; of those with one key, the last counts. -/
def ordered (members : List (String × Json)) : List (String × Json) :=
  members.foldl (fun sorted member => insertMember member sorted) []

/-- The member of an object with a key. -/
def get? (json : Json) (key : String) : Option Json :=
  match json with
  | object members => (members.reverse.find? fun member => member.1 == key).map Prod.snd
  | _ => none

end Json

end Registrar
