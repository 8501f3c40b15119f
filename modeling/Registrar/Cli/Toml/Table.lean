import Registrar.Json.Basic

namespace Registrar.Cli.Toml

/-!
# Tables under construction

The lines of a document add to tables that earlier lines made. How a table was made
decides what may be added to it: a table in braces is complete, a table with a
heading gets no second one, and a key with dots adds only to tables that such keys
made.

* `Origin`, `Node` — how a table was made, and what stands at a key;
* `assign?` — a value put at a key of one or several parts;
* `openHeading?`, `below?` — a heading, and a change of the table below it;
* `toJson` — the object that a table stands for.
-/

/-- How a table was made that is not complete yet. -/
inductive Origin where
  /-- By the heading of a table below it. -/
  | passed
  /-- By a key with dots. -/
  | dotted
  /-- By its own heading. -/
  | headed
deriving DecidableEq

/-- What stands at a key. -/
inductive Node where
  /-- A value, which is complete. -/
  | value (json : Json)
  | table (origin : Origin) (members : List (String × Node))
  /-- A list of tables, to the last of which further lines add. -/
  | tables (front : List (List (String × Node))) (last : List (String × Node))

/-- The members of a table, in the order in which they were made. -/
abbrev Members := List (String × Node)

/-- The members with what stands at a key changed; a key that is not there is added. -/
def alter? (key : String) (change : Option Node → Option Node) : Members → Option Members
  | [] => do return [(key, ← change none)]
  | (other, node) :: rest =>
    if other = key then do return (key, ← change (some node)) :: rest
    else do return (other, node) :: (← alter? key change rest)

/-! ### Keys -/

/-- A value at a key that is free. -/
def place? (value : Json) : Option Node → Option Node
  | none => some (.value value)
  | some _ => none

/-- A change of the table that a part of a key with dots leads to; `last` tells
    whether the next part is the last one, which has to be in a table that keys with
    dots made. -/
def alongKey? (last : Bool) (change : Members → Option Members) : Option Node → Option Node
  | none => (change []).map (.table .dotted)
  | some (.table .dotted members) => (change members).map (.table .dotted)
  | some (.table .passed members) =>
    if last then none else (change members).map (.table .passed)
  | some (.tables front members) =>
    if last then none else (change members).map (.tables front)
  | some (.table .headed _) | some (.value _) => none

/-- A value put at a key of one or several parts. -/
def assign? (value : Json) : List String → Members → Option Members
  | [], _ => none
  | [key], members => alter? key (place? value) members
  | key :: next :: rest, members =>
    alter? key (alongKey? rest.isEmpty (assign? value (next :: rest))) members

/-! ### Headings -/

/-- A change of the table that a part of a heading leads to. -/
def alongHeading? (change : Members → Option Members) : Option Node → Option Node
  | none => (change []).map (.table .passed)
  | some (.table origin members) => (change members).map (.table origin)
  | some (.tables front members) => (change members).map (.tables front)
  | some (.value _) => none

/-- A change of the table below a heading. -/
def below? (change : Members → Option Members) : List String → Members → Option Members
  | [], members => change members
  | key :: path, members => alter? key (alongHeading? (below? change path)) members

/-- A table gets its heading. -/
def openTable? : Option Node → Option Node
  | none => some (.table .headed [])
  | some (.table .passed members) => some (.table .headed members)
  | some _ => none

/-- A list of tables gets one more. -/
def openNext? : Option Node → Option Node
  | none => some (.tables [] [])
  | some (.tables front last) => some (.tables (front ++ [last]) [])
  | some _ => none

/-- A heading for a table, or for the next one of a list. -/
def openHeading? (listed : Bool) (path : List String) (members : Members) : Option Members := do
  let key ← path.getLast?
  below? (alter? key (if listed then openNext? else openTable?)) path.dropLast members

/-! ### Objects -/

mutual

/-- The value that a node stands for. -/
def Node.toJson : Node → Json
  | .value json => json
  | .table _ members => .object (membersToJson members)
  | .tables front last => .array (tablesToJson front ++ [.object (membersToJson last)])
termination_by structural node => node

/-- The values at the keys of a table. -/
def membersToJson : List (String × Node) → List (String × Json)
  | [] => []
  | (key, node) :: rest => (key, node.toJson) :: membersToJson rest
termination_by structural members => members

/-- The objects that tables stand for. -/
def tablesToJson : List (List (String × Node)) → List Json
  | [] => []
  | members :: rest => .object (membersToJson members) :: tablesToJson rest
termination_by structural tables => tables

end

end Registrar.Cli.Toml
