import Registrar.Json.Basic

namespace Registrar.Json

/-!
# JSON text

* `escape` — a character within quotation marks;
* `compact` — a value on one line without blanks;
* `pretty` — a value with one item or member on a line, two blanks per level.
-/

/-! ### Strings -/

/-- The hexadecimal digits of a number in four places. -/
def fourDigits (n : Nat) : List Char :=
  let digits := Nat.toDigits 16 n
  List.replicate (4 - digits.length) '0' ++ digits

/-- A character within quotation marks. -/
def escape (c : Char) : List Char :=
  if c = '"' then ['\\', '"']
  else if c = '\\' then ['\\', '\\']
  else if c = '\n' then ['\\', 'n']
  else if c = '\r' then ['\\', 'r']
  else if c = '\t' then ['\\', 't']
  else if c = '\x08' then ['\\', 'b']
  else if c = '\x0c' then ['\\', 'f']
  else if c.toNat < 0x20 then '\\' :: 'u' :: fourDigits c.toNat
  else [c]

/-- A text between quotation marks. -/
def quote (text : String) : List Char := '"' :: text.toList.flatMap escape ++ ['"']

/-! ### On one line -/

mutual

/-- The characters of a value on one line. -/
def compactChars : Json → List Char
  | null => "null".toList
  | bool flag => (if flag then "true" else "false").toList
  | integer number => (toString number).toList
  | decimal number => number.text.toList
  | string text => quote text
  | array items => '[' :: itemsChars items ++ [']']
  | object members => '\x7b' :: membersChars members ++ ['\x7d']
termination_by structural json => json

/-- The items of an array with commas between them. -/
def itemsChars : List Json → List Char
  | [] => []
  | [item] => compactChars item
  | item :: items => compactChars item ++ ',' :: itemsChars items
termination_by structural items => items

/-- The members of an object with commas between them. -/
def membersChars : List (String × Json) → List Char
  | [] => []
  | [(key, value)] => quote key ++ ':' :: compactChars value
  | (key, value) :: members =>
    quote key ++ ':' :: compactChars value ++ ',' :: membersChars members
termination_by structural members => members

end

/-- A value on one line. -/
def compact (json : Json) : String := String.ofList (compactChars json)

/-! ### On several lines -/

/-- A line break and the blanks before a line at a level. -/
def lineBreak (level : Nat) : List Char := '\n' :: List.replicate (2 * level) ' '

mutual

/-- The characters of a value on several lines, the first of which is at a level. -/
def prettyChars (level : Nat) : Json → List Char
  | null => "null".toList
  | bool flag => (if flag then "true" else "false").toList
  | integer number => (toString number).toList
  | decimal number => number.text.toList
  | string text => quote text
  | array [] => "[]".toList
  | array (item :: items) =>
    '[' :: lineBreak (level + 1) ++ prettyChars (level + 1) item
      ++ prettyItems (level + 1) items ++ lineBreak level ++ [']']
  | object [] => "\x7b\x7d".toList
  | object ((key, value) :: members) =>
    '\x7b' :: lineBreak (level + 1) ++ quote key ++ ": ".toList ++ prettyChars (level + 1) value
      ++ prettyMembers (level + 1) members ++ lineBreak level ++ ['\x7d']
termination_by structural json => json

/-- Further items, each after a comma and on a line of its own. -/
def prettyItems (level : Nat) : List Json → List Char
  | [] => []
  | item :: items =>
    ',' :: lineBreak level ++ prettyChars level item ++ prettyItems level items
termination_by structural items => items

/-- Further members, each after a comma and on a line of its own. -/
def prettyMembers (level : Nat) : List (String × Json) → List Char
  | [] => []
  | (key, value) :: members =>
    ',' :: lineBreak level ++ quote key ++ ": ".toList ++ prettyChars level value
      ++ prettyMembers level members
termination_by structural members => members

end

/-- A value on several lines. -/
def pretty (json : Json) : String := String.ofList (prettyChars 0 json)

end Registrar.Json
