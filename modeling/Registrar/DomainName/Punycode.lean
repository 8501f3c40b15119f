namespace Registrar.DomainName.Punycode

/-!
# Texts in small letters and digits

A text is written as its ASCII characters, a hyphen behind them if there are any, and
numbers that tell where the other characters are put in. These go in in the order of
their own numbers. A number says how many steps lie between two of them, where a step
goes to the next place in the text, and from its end to the next character at its start.

Numbers are written in base 36, the last digit first. A digit below the threshold of its
place is the last one of a number; thresholds follow from the size of the numbers before.

* `encode`, `decode?` — a text written in this way, and read back.
-/

/-! ### Digits -/

/-- The digit with a value: first the letters, then the decimal digits. -/
def digitOf (value : Nat) : Char := Char.ofNat (if value < 26 then value + 97 else value + 22)

/-- The value of a digit. -/
def valueOf? (c : Char) : Option Nat :=
  if 'a' ≤ c && c ≤ 'z' then some (c.toNat - 97)
  else if '0' ≤ c && c ≤ '9' then some (c.toNat - 22)
  else none

/-- The threshold of the digit at a place, counted from one. -/
def threshold (bias place : Nat) : Nat := min 26 (max 1 (36 * place - bias))

theorem threshold_pos (bias place : Nat) : 0 < threshold bias place := by
  simp only [threshold]
  omega

/-- The bias for numbers of a size. -/
def biasFor (size : Nat) : Nat :=
  if 455 < size then biasFor (size / 35) + 36 else 36 * size / (size + 38)
termination_by size

/-- The bias for the number after `number`, which put in the last of `count`
    characters. -/
def biasAfter (number count : Nat) (isFirst : Bool) : Nat :=
  let size := if isFirst then number / 700 else number / 2
  biasFor (size + size / count)

/-! ### Writing -/

/-- The digits of a number from a place on. -/
def numberDigits (bias place number : Nat) : List Char :=
  let least := threshold bias place
  if number < least then [digitOf number]
  else
    digitOf (least + (number - least) % (36 - least)) ::
      numberDigits bias (place + 1) ((number - least) / (36 - least))
termination_by number
decreasing_by
  have := threshold_pos bias place
  have := Nat.div_le_self (number - threshold bias place) (36 - threshold bias place)
  omega

/-- How far a text is written. -/
structure Written where
  /-- How many characters are written. -/
  count : Nat
  /-- How many steps were made since the last of them. -/
  steps : Nat
  bias : Nat
  digits : List Char

/-- One character of the text is passed while those with the number `code` are put in;
    `basic` is the count of the ASCII characters. -/
def Written.pass (basic code : Nat) (written : Written) (c : Char) : Written :=
  if c.toNat < code then { written with steps := written.steps + 1 }
  else if c.toNat = code then
    { count := written.count + 1
      steps := 0
      bias := biasAfter written.steps (written.count + 1) (written.count = basic)
      digits := written.digits ++ numberDigits written.bias 1 written.steps }
  else written

/-- The digits for the characters with the numbers in a list, which goes up; no other
    character from the number `next` on is in the text. -/
def insertions (text : List Char) (basic : Nat) : List Nat → (next : Nat) → Written → List Char
  | [], _, written => written.digits
  | code :: codes, next, written =>
    let steps := written.steps + (code - next) * (written.count + 1)
    let written := text.foldl (Written.pass basic code) { written with steps }
    insertions text basic codes (code + 1) { written with steps := written.steps + 1 }

/-- A text in small letters, digits and its other ASCII characters. -/
def encode (text : List Char) : List Char :=
  let basic := text.filter (·.toNat < 0x80)
  let codes := ((text.map Char.toNat).filter (0x80 ≤ ·)).mergeSort.eraseDups
  basic ++ (if basic.isEmpty then [] else ['-']) ++
    insertions text basic.length codes 0x80 ⟨basic.length, 0, 72, []⟩

/-! ### Reading -/

/-- How far a text is read. -/
structure Reading where
  text : List Char
  /-- The number of the character that was put in last. -/
  code : Nat
  /-- The place behind that character. -/
  index : Nat
  bias : Nat
  /-- The digits of the next number up to here, added to `index`. -/
  sum : Nat
  /-- What the next digit counts. -/
  weight : Nat
  /-- The place of the next digit. -/
  place : Nat

/-- The text with the character put in that a whole number stands for. -/
def Reading.insert? (reading : Reading) (sum : Nat) : Option Reading :=
  let count := reading.text.length + 1
  let code := reading.code + sum / count
  let place := sum % count
  if code.isValidChar then
    some {
      text := reading.text.insertIdx place (Char.ofNat code)
      code
      index := place + 1
      bias := biasAfter (sum - reading.index) count (reading.index = 0)
      sum := place + 1
      weight := 1
      place := 1 }
  else none

/-- One more digit is read; a number is below the count of numbers of 32 bits. -/
def Reading.step? (reading : Reading) (c : Char) : Option Reading := do
  let digit ← valueOf? c
  let sum := reading.sum + digit * reading.weight
  if UInt32.size ≤ sum then none
  let least := threshold reading.bias reading.place
  if digit < least then reading.insert? sum
  else
    let weight := reading.weight * (36 - least)
    if UInt32.size ≤ weight then none
    return { reading with sum, weight, place := reading.place + 1 }

/-- The text that is written so. -/
def decode? (written : List Char) : Option (List Char) := do
  let digits := (written.reverse.takeWhile (· ≠ '-')).reverse
  let basic := (written.take (written.length - digits.length)).dropLast
  if basic.isEmpty && digits.length ≠ written.length then none
  let reading ← digits.foldlM Reading.step? ⟨basic, 0x80, 0, 72, 0, 1, 1⟩
  if reading.place = 1 then return reading.text else none

end Registrar.DomainName.Punycode
