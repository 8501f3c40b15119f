import Registrar.Cli.Toml.Scalar
import Registrar.Cli.Toml.Table
import Registrar.Cli.Toml.Text

namespace Registrar.Cli.Toml

/-!
# TOML documents

A document of key and value pairs, possibly under the headings of tables, is read
into a JSON object.

* `readValue` — a value, which may hold others;
* `readLines` — the lines of a document;
* `ofText?` — the object that a document describes.

Every read takes at least one character, so the length of the text bounds the
number of nested and consecutive reads.
-/

/-! ### Values -/

mutual

/-- A value and what stands behind it, with at most `fuel` reads. It may hold values
    in `spare` levels. -/
def readValue (fuel spare : Nat) (text : List Char) : Option (Json × List Char) :=
  match fuel with
  | 0 => none
  | fuel + 1 =>
    match text, spare with
    | '"' :: _, _ => (readString text).map fun (text, rest) => (.string text, rest)
    | '\'' :: _, _ => (readString text).map fun (text, rest) => (.string text, rest)
    | '[' :: _, 0 | '\x7b' :: _, 0 => none
    | '[' :: rest, spare + 1 =>
      (readItems fuel spare rest).map fun (items, rest) => (.array items, rest)
    | '\x7b' :: rest, spare + 1 =>
      match skipBlanks rest with
      | '\x7d' :: rest => some (.object [], rest)
      | rest => (readMembers fuel spare [] rest).map fun (members, rest) =>
        (.object (membersToJson members), rest)
    | _, _ => readBareValue text
termination_by structural fuel

/-- The items of an array up to its closing bracket, on one line or several. -/
def readItems (fuel spare : Nat) (text : List Char) : Option (List Json × List Char) :=
  match fuel with
  | 0 => none
  | fuel + 1 =>
    match skipLines text.length text with
    | ']' :: rest => some ([], rest)
    | text => do
      let (item, rest) ← readValue fuel spare text
      match skipLines rest.length rest with
      | ',' :: rest =>
        let (items, rest) ← readItems fuel spare rest
        return (item :: items, rest)
      | ']' :: rest => return ([item], rest)
      | _ => none
termination_by structural fuel

/-- The pairs of a table on one line, up to its closing brace. -/
def readMembers (fuel spare : Nat) (members : Members) (text : List Char) :
    Option (Members × List Char) :=
  match fuel with
  | 0 => none
  | fuel + 1 => do
    let (key, rest) ← readKey text
    match skipBlanks rest with
    | '=' :: rest =>
      let (value, rest) ← readValue fuel spare (skipBlanks rest)
      let members ← assign? value key members
      match skipBlanks rest with
      | ',' :: rest => readMembers fuel spare members rest
      | '\x7d' :: rest => return (members, rest)
      | _ => none
    | _ => none
termination_by structural fuel

end

/-! ### Documents -/

/-- The lines of a document, which stand below the heading with a path, added to what
    was read. -/
def readLines : (fuel : Nat) → (path : List String) → Members → List Char → Option Members
  | 0, _, _, _ => none
  | fuel + 1, path, members, text =>
    match skipLines text.length text with
    | [] => some members
    | '[' :: '[' :: rest => do
      let (key, rest) ← readKey rest
      let members ← openHeading? true key members
      match skipBlanks rest with
      | ']' :: ']' :: rest => readLines fuel key members (← finishLine? rest)
      | _ => none
    | '[' :: rest => do
      let (key, rest) ← readKey rest
      let members ← openHeading? false key members
      match skipBlanks rest with
      | ']' :: rest => readLines fuel key members (← finishLine? rest)
      | _ => none
    | text => do
      let (key, rest) ← readKey text
      match skipBlanks rest with
      | '=' :: rest =>
        let rest := skipBlanks rest
        let (value, rest) ← readValue (rest.length + 1) deepest rest
        let members ← below? (assign? value key) path members
        readLines fuel path members (← finishLine? rest)
      | _ => none

/-- The object that a document describes. A mark of the byte order may stand in
    front. -/
def ofText? (text : String) : Option Json :=
  let chars := match text.toList with
    | '\uFEFF' :: rest => rest
    | chars => chars
  (readLines (chars.length + 1) [] [] chars).map fun members => .object (membersToJson members)

end Registrar.Cli.Toml
