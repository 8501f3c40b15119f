import Registrar.Binary

namespace Registrar

/-!
# Decimal numbers

A message shows a binary number by the fewest decimal digits that still tell it from
its neighbours.

* `Decimal` — digits times a power of ten, with a sign;
* `Decimal.nearest?` — the binary number nearest to it;
* `Decimal.shortest` — the shortest decimal with a given nearest binary number, and
  of those the one nearest to it;
* `Decimal.text` — the digits around a decimal point, or before a power of ten.
-/

/-- Digits times a power of ten, with a sign. -/
structure Decimal where
  negative : Bool
  digits : Nat
  exponent : Int
deriving DecidableEq

namespace Decimal

/-! ### From decimal to binary -/

/-- The digits as characters. -/
def digitChars (d : Decimal) : List Char := Nat.toDigits 10 d.digits

/-- The exponent of the first digit. -/
def leadingExponent (d : Decimal) : Int := d.digitChars.length - 1 + d.exponent

/-- Numerator and denominator of the number without its sign. -/
def ratio (d : Decimal) : Nat × Nat := scaled 10 d.digits 1 (-d.exponent)

/-- The binary number nearest to the number without its sign, unless that is too
    large for the format. Numbers from `10 ^ 309` on are too large and those below
    `10 ^ (-325)` nearest to zero, so no power of ten beyond these is worked out. -/
def nearest? (d : Decimal) : Option Binary :=
  if d.digits = 0 ∨ d.leadingExponent < -325 then some ⟨0, 0⟩
  else if 308 < d.leadingExponent then none
  else
    let (num, den) := d.ratio
    let nearest := Binary.ofRatio num den
    if nearest.isFinite then some nearest else none

/-! ### From binary to decimal -/

/-- The exponent of the first decimal digit of a positive quotient. -/
def firstExponent (num den : Nat) : Int :=
  let guess := ((num.log2 : Int) - den.log2) * 30103 / 100000 - 1
  [guess + 1, guess + 2, guess + 3].foldl (fun best exponent =>
    let (n, d) := scaled 10 num den exponent
    if d ≤ n then exponent else best) guess

/-- The decimal on the grid of a power of ten that is nearest to a binary number, if
    it or the other neighbour on the grid has that nearest binary number. -/
def onGrid? (target : Binary) (exponent : Int) : Option Nat :=
  let (num, den) := target.ratio
  let (n, d) := scaled 10 num den exponent
  let below := n / d
  let fits (digits : Nat) : Bool := (Decimal.mk false digits exponent).nearest? == some target
  match fits below, fits (below + 1) with
  | true, true => some (roundHalfEven n d)
  | true, false => some below
  | false, true => some (below + 1)
  | false, false => none

/-- A decimal on the first grid that has one, from the grid of a power of ten on to
    finer ones. After `more` grids it is the nearest one on the next. -/
def onGrids (negative : Bool) (target : Binary) : (more : Nat) → (exponent : Int) → Decimal
  | 0, exponent =>
    let (num, den) := target.ratio
    let (n, d) := scaled 10 num den exponent
    ⟨negative, roundHalfEven n d, exponent⟩
  | more + 1, exponent =>
    match onGrid? target exponent with
    | some digits => ⟨negative, digits, exponent⟩
    | none => onGrids negative target more (exponent - 1)

/-- The same number without zeros at the end of its digits. -/
def trimmed (d : Decimal) : Decimal :=
  if _h : 0 < d.digits ∧ d.digits % 10 = 0 then
    trimmed ⟨d.negative, d.digits / 10, d.exponent + 1⟩
  else d
termination_by d.digits
decreasing_by omega

/-- The shortest decimal with the given nearest binary number. Seventeen digits
    always tell a number from its neighbours. -/
def shortest (negative : Bool) (target : Binary) : Decimal :=
  if target.isZero then ⟨negative, 0, 0⟩
  else
    let (num, den) := target.ratio
    (onGrids negative target 16 (firstExponent num den)).trimmed

/-! ### Text -/

/-- The digits around a decimal point, with at least one on either side. -/
def positional (d : Decimal) : List Char :=
  if 0 ≤ d.exponent then d.digitChars ++ List.replicate d.exponent.toNat '0' ++ ['.', '0']
  else
    let places := (-d.exponent).toNat
    let digits := List.replicate (places + 1 - d.digitChars.length) '0' ++ d.digitChars
    let whole := digits.length - places
    digits.take whole ++ '.' :: digits.drop whole

/-- The digits with a decimal point behind the first, and the power of ten. -/
def scientific (d : Decimal) : List Char :=
  let fraction := d.digitChars.drop 1
  let power := d.leadingExponent
  d.digitChars.take 1 ++ (if fraction.isEmpty then [] else '.' :: fraction)
    ++ 'e' :: (if power < 0 then '-' else '+') :: Nat.toDigits 10 power.natAbs

/-- The number as it is shown: around a decimal point if its first digit stands at
    most fifteen places before the last whole one and five behind it. -/
def text (d : Decimal) : String :=
  let isPlain := -5 ≤ d.leadingExponent && d.leadingExponent < 16
  let chars := if isPlain then d.positional else d.scientific
  String.ofList (if d.negative then '-' :: chars else chars)

end Decimal

end Registrar
