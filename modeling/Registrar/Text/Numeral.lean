namespace Registrar.Text

/-!
# Decimal numerals

Unsigned numbers given as text: an optional plus sign and decimal digits, at
least one, writing a number below a bound.

* `parseNatural` — the number that a numeral writes;
* `parseDigits` — the same for digits alone, of any base up to sixteen.
-/

/-- Why a text is no numeral of a number below the bound. -/
inductive NumeralFault where
  | empty
  | badDigit
  | tooLarge
deriving DecidableEq

/-- What a user is told about the fault. -/
def NumeralFault.message : NumeralFault → String
  | empty => "cannot parse integer from empty string"
  | badDigit => "invalid digit found in string"
  | tooLarge => "number too large to fit in target type"

/-- The value of a decimal digit. -/
def digitValue? (c : Char) : Option Nat :=
  if '0' ≤ c && c ≤ '9' then some (c.toNat - 48) else none

/-- The value of a digit of bases up to sixteen, whose letters are in lower case. -/
def letterValue? (c : Char) : Option Nat :=
  if 'a' ≤ c && c ≤ 'f' then some (c.toNat - 87) else digitValue? c

/-- The number that digits of a base write; no digit writes zero. -/
def parseDigits (base : Nat) (digits : List Char) : Option Nat :=
  digits.foldlM (fun n c => do
    let digit ← letterValue? c
    if digit < base then some (n * base + digit) else none) 0

/-- The number after reading more digits from the left; the first digit that is
    none, or that carries the number to the bound, decides. -/
def readDigits (bound : Nat) : Nat → List Char → Except NumeralFault Nat
  | n, [] => .ok n
  | n, c :: rest =>
    match digitValue? c with
    | none => .error .badDigit
    | some digit =>
      if n * 10 + digit < bound then readDigits bound (n * 10 + digit) rest
      else .error .tooLarge

/-- The number below `bound` that a numeral writes. -/
def parseNatural (bound : Nat) (text : String) : Except NumeralFault Nat :=
  match text.toList with
  | [] => .error .empty
  | ['+'] => .error .badDigit
  | '+' :: digits => readDigits bound 0 digits
  | digits => readDigits bound 0 digits

end Registrar.Text
