import Registrar.Json.Basic

namespace Registrar.Json

/-!
# Numbers in JSON text

An integer of 64 bits, with or without a sign, is kept as it is. Any other number is
read as a binary one: the digits that fit 64 bits make an integer, which is then
scaled by a power of ten, and each of the steps rounds.

* `digitsValue`, `readDigits` — decimal digits;
* `significand` — the digits that count, and the power of ten behind them;
* `readNumber` — a number in front of a text.
-/

/-- The number that decimal digits write. -/
def digitsValue (digits : List Char) : Nat :=
  digits.foldl (fun n c => n * 10 + (c.toNat - 48)) 0

/-- The digits in front, at least one, and what stands behind them. -/
def readDigits (text : List Char) : Option (List Char × List Char) :=
  let digits := text.takeWhile Char.isDigit
  if digits.isEmpty then none else some (digits, text.dropWhile Char.isDigit)

/-- The digits after a decimal point, if there is one. -/
def readFraction : List Char → Option (List Char × List Char)
  | '.' :: rest => readDigits rest
  | text => some ([], text)

/-- The exponent after its letter, if there is one. -/
def readExponent : List Char → Option (Option Int × List Char)
  | c :: rest =>
    if c = 'e' || c = 'E' then
      match rest with
      | '-' :: rest => (readDigits rest).map fun (digits, rest) =>
        (some (-(digitsValue digits : Int)), rest)
      | '+' :: rest => (readDigits rest).map fun (digits, rest) =>
        (some (digitsValue digits : Int), rest)
      | _ => (readDigits rest).map fun (digits, rest) => (some (digitsValue digits : Int), rest)
    else some (none, c :: rest)
  | [] => some (none, [])

/-- The number that the digits in front write behind those of another number, as far
    as it fits 64 bits, and how many digits are left. -/
def appendFitting (number : Nat) : List Char → Nat × Nat
  | [] => (number, 0)
  | c :: rest =>
    let next := number * 10 + (c.toNat - 48)
    if next < UInt64.size then appendFitting next rest else (number, rest.length + 1)

/-- The digits that count among those before and after a decimal point, and the power
    of ten behind them. Digits that do not fit are dropped, before the point and
    after it on their own. -/
def significand (whole fraction : List Char) : Nat × Int :=
  let (number, wholeLeft) := appendFitting 0 whole
  let (number, fractionLeft) := appendFitting number fraction
  (number, (wholeLeft : Int) - (fraction.length - fractionLeft : Nat))

/-- The binary number that digits and an exponent write, by its shortest decimal. -/
def decimalOf? (negative : Bool) (whole fraction : List Char) (exponent : Int) :
    Option Decimal := do
  let (number, power) := significand whole fraction
  let binary ← (Binary.ofRatio number 1).scaleTen? (power + exponent)
  return .shortest negative binary

/-- The integer that digits write, if it has 64 bits; zero has no minus sign. -/
def word? (negative : Bool) (whole : List Char) : Option Int :=
  let number := digitsValue whole
  if negative then
    if 0 < number ∧ number ≤ 0x8000000000000000 then some (-(number : Int)) else none
  else if number < UInt64.size then some number
  else none

/-- A number, unless it is too large. -/
def readNumber (text : List Char) : Option (Json × List Char) := do
  let (negative, unsigned) :=
    match text with
    | '-' :: rest => (true, rest)
    | _ => (false, text)
  let (whole, rest) ← readDigits unsigned
  -- no zero stands in front of other digits
  if whole.length ≠ 1 && whole.head? == some '0' then none
  let (fraction, rest) ← readFraction rest
  let (exponent, rest) ← readExponent rest
  -- a number that one word holds stays whole if it is written so
  let isWhole := fraction.isEmpty && exponent.isNone
  match if isWhole then word? negative whole else none with
  | some number => return (integer number, rest)
  | none =>
    let number ← decimalOf? negative whole fraction (exponent.getD 0)
    return (decimal number, rest)

end Registrar.Json
