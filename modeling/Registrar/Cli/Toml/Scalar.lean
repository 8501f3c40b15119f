import Registrar.Json.Reader
import Registrar.Text.Split

namespace Registrar.Cli.Toml

/-!
# Numbers, truth values and dates of TOML documents

* `integer?`, `float?` — the numbers that words write;
* `skipDateTime?` — what stands behind a date, a time or both;
* `readBareValue` — a value without any mark; a date is kept as its text.
-/

/-! ### Numbers -/

/-- The digits of a base with single underscores between them. -/
def digitGroups? (isDigit : Char → Bool) : List Char → Option (List Char)
  | [] => none
  | [c] => if isDigit c then some [c] else none
  | c :: '_' :: rest =>
    if isDigit c then (digitGroups? isDigit rest).map (c :: ·) else none
  | c :: rest => if isDigit c then (digitGroups? isDigit rest).map (c :: ·) else none

/-- The number that digits of a base write. -/
def baseValue? (base : Nat) (text : List Char) : Option Nat := do
  let isDigit (c : Char) : Bool := match Json.hexDigit? c with
    | some digit => digit < base
    | none => false
  let digits ← digitGroups? isDigit text
  return digits.foldl (fun n c => n * base + (Json.hexDigit? c).getD 0) 0

/-- An integer of 64 bits. -/
def integer? (text : List Char) : Option Int := do
  let number : Int ← match text with
    | '0' :: 'x' :: digits => (baseValue? 16 digits).map Int.ofNat
    | '0' :: 'o' :: digits => (baseValue? 8 digits).map Int.ofNat
    | '0' :: 'b' :: digits => (baseValue? 2 digits).map Int.ofNat
    | _ =>
      let (negative, digits) := match text with
        | '-' :: digits => (true, digits)
        | '+' :: digits => (false, digits)
        | digits => (false, digits)
      -- no zero stands in front of other digits
      if digits.length ≠ 1 && digits.head? == some '0' then none
      else (baseValue? 10 digits).map fun n => if negative then -(n : Int) else n
  if -0x8000000000000000 ≤ number && number < 0x8000000000000000 then return number else none

/-- The text without a sign in front, and whether the sign is a minus. -/
def unsigned : List Char → Bool × List Char
  | '-' :: rest => (true, rest)
  | '+' :: rest => (false, rest)
  | text => (false, text)

/-- Decimal digits, possibly grouped, behind a sign. -/
def exponent? (text : List Char) : Option Int := do
  let (negative, digits) := unsigned text
  let number ← baseValue? 10 digits
  return if negative then -(number : Int) else number

/-- A number with a fraction or an exponent. One that is too large for 64 bits is
    refused, unless it has a minus sign; the numbers that are not finite count as zero
    here, as no setting is one. -/
def float? (text : List Char) : Option Json := do
  let (negative, number) := unsigned text
  if number == "inf".toList || number == "nan".toList then return .decimal ⟨negative, 0, 0⟩
  let isMark (c : Char) : Bool := c == 'e' || c == 'E'
  let mantissa := number.takeWhile fun c => !isMark c
  let power ← match number.dropWhile fun c => !isMark c with
    | [] => some 0
    | _ :: digits => exponent? digits
  let (whole, fraction) ← match Text.splitFirst? ['.'] mantissa with
    | some (whole, fraction) => do
      let places ← digitGroups? Char.isDigit fraction
      some (whole, places)
    | none => if mantissa.length = number.length then none else some (mantissa, [])
  let whole ← digitGroups? Char.isDigit whole
  if whole.length ≠ 1 && whole.head? == some '0' then none
  let written : Decimal :=
    ⟨negative, Json.digitsValue (whole ++ fraction), power - fraction.length⟩
  match written.nearest? with
  | some nearest => return .decimal (.shortest negative nearest)
  | none => if negative then return .decimal ⟨negative, 0, 0⟩ else none

/-! ### Dates and times -/

/-- A number of `places` digits within bounds, and what stands behind it. -/
def ranged? (places low high : Nat) (text : List Char) : Option (Nat × List Char) :=
  let digits := text.take places
  let number := Json.digitsValue digits
  if digits.length = places && digits.all Char.isDigit && low ≤ number && number ≤ high then
    some (number, text.drop places)
  else none

/-- What stands behind a character that has to be there. -/
def behind? (mark : Char) : List Char → Option (List Char)
  | [] => none
  | c :: rest => if c = mark then some rest else none

/-- The number of days in a month. -/
def daysIn (year month : Nat) : Nat :=
  if month = 2 then
    if year % 4 = 0 && (year % 100 ≠ 0 || year % 400 = 0) then 29 else 28
  else if [4, 6, 9, 11].contains month then 30
  else 31

/-- What stands behind a date. -/
def skipDate? (text : List Char) : Option (List Char) := do
  let (year, rest) ← ranged? 4 0 9999 text
  let (month, rest) ← ranged? 2 1 12 (← behind? '-' rest)
  let (_, rest) ← ranged? 2 1 (daysIn year month) (← behind? '-' rest)
  return rest

/-- What stands behind a time of day. -/
def skipTime? (text : List Char) : Option (List Char) := do
  let (_, rest) ← ranged? 2 0 23 text
  let (_, rest) ← ranged? 2 0 59 (← behind? ':' rest)
  let (_, rest) ← ranged? 2 0 60 (← behind? ':' rest)
  match rest with
  | '.' :: places =>
    if (places.takeWhile Char.isDigit).isEmpty then none else return places.dropWhile Char.isDigit
  | _ => return rest

/-- What stands behind the offset from universal time, if there is one. -/
def skipOffset? : List Char → Option (List Char)
  | [] => some []
  | c :: rest =>
    if c = 'Z' || c = 'z' then some rest
    else if c = '+' || c = '-' then do
      let (_, rest) ← ranged? 2 0 23 rest
      let (_, rest) ← ranged? 2 0 59 (← behind? ':' rest)
      return rest
    else some (c :: rest)

/-- What stands behind a date, a time, or a date and a time with or without an
    offset. -/
def skipDateTime? (text : List Char) : Option (List Char) :=
  match skipDate? text with
  | none => skipTime? text
  | some [] => some []
  | some (c :: rest) =>
    if c = 'T' || c = 't' then (skipTime? rest).bind skipOffset?
    else if c = ' ' then some (((skipTime? rest).bind skipOffset?).getD (c :: rest))
    else some (c :: rest)

/-- A number, a truth value or a date. -/
def readBareValue (text : List Char) : Option (Json × List Char) :=
  match skipDateTime? text with
  | some rest => some (.string (String.ofList (text.take (text.length - rest.length))), rest)
  | none =>
    let inValue (c : Char) : Bool := c.isAlphanum || "_-+.".toList.contains c
    let word := text.takeWhile inValue
    let rest := text.dropWhile inValue
    if word == "true".toList then some (.bool true, rest)
    else if word == "false".toList then some (.bool false, rest)
    else match integer? word with
      | some number => some (.integer number, rest)
      | none => (float? word).map fun value => (value, rest)

end Registrar.Cli.Toml
