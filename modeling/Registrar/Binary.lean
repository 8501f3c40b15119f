namespace Registrar

/-!
# Binary floating point numbers

The numbers of 64 bits that most readers of JSON and TOML keep: a mantissa of 53
bits, or of fewer next to zero, times a power of two. A sign is kept apart.

* `roundHalfEven`, `scaled` — exact quotients and how they are rounded;
* `Binary.ofRatio`, `Binary.ratio` — the number nearest to a quotient, and back;
* `Binary.mul`, `Binary.div` — product and quotient, rounded again;
* `Binary.isFinite` — whether the number is not too large for the format;
* `Binary.scaleTen?` — a number times a power of ten.
-/

/-- A mantissa times a power of two. -/
structure Binary where
  mantissa : Nat
  exponent : Int
deriving DecidableEq

/-- A quotient rounded to the nearest whole number, a half to the even one. -/
def roundHalfEven (num den : Nat) : Nat :=
  let quotient := num / den
  let rest := num % den
  if 2 * rest < den ∨ (2 * rest = den ∧ quotient % 2 = 0) then quotient else quotient + 1

/-- Numerator and denominator of a quotient divided by a power of a base. -/
def scaled (base : Nat) (num den : Nat) (exponent : Int) : Nat × Nat :=
  if 0 ≤ exponent then (num, den * Nat.pow base exponent.toNat)
  else (num * Nat.pow base (-exponent).toNat, den)

namespace Binary

/-- The number nearest to a quotient, ties going to the even mantissa. -/
def ofRatio (num den : Nat) : Binary :=
  if num = 0 then ⟨0, 0⟩
  else
    let low := max ((num.log2 : Int) - den.log2 - 53) (-1074)
    let (n, d) := scaled 2 num den low
    let exponent := if 1 <<< 53 ≤ n / d then low + 1 else low
    let (n, d) := scaled 2 num den exponent
    let mantissa := roundHalfEven n d
    if mantissa = 1 <<< 53 then ⟨1 <<< 52, exponent + 1⟩ else ⟨mantissa, exponent⟩

/-- Numerator and denominator of the number. -/
def ratio (b : Binary) : Nat × Nat := scaled 2 b.mantissa 1 (-b.exponent)

/-- The number nearest to the product. -/
def mul (a b : Binary) : Binary :=
  let (n, d) := a.ratio
  let (n', d') := b.ratio
  ofRatio (n * n') (d * d')

/-- The number nearest to the quotient. -/
def div (a b : Binary) : Binary :=
  let (n, d) := a.ratio
  let (n', d') := b.ratio
  ofRatio (n * d') (d * n')

/-- Whether the number is zero. -/
def isZero (b : Binary) : Bool := b.mantissa == 0

/-- Whether the format has the number; a larger one counts as infinite there. -/
def isFinite (b : Binary) : Bool := b.isZero || b.exponent ≤ 971

/-! ### Powers of ten -/

/-- The number nearest to a power of ten. -/
def powerOfTen (exponent : Nat) : Binary := ofRatio (Nat.pow 10 exponent) 1

/-- The largest exponent of a power of ten that the format has. -/
def largestPower : Nat := 308

/-- The number divided by a power of ten, in steps by the largest power that each
    round. -/
def divTen (b : Binary) (exponent : Nat) : Binary :=
  if _h : exponent ≤ largestPower then b.div (powerOfTen exponent)
  else if b.isZero then b
  else (b.div (powerOfTen largestPower)).divTen (exponent - largestPower)
termination_by exponent
decreasing_by simp only [largestPower] at *; omega

/-- The number times a power of ten, rounded at every step, unless it gets too large
    for the format. -/
def scaleTen? (b : Binary) (exponent : Int) : Option Binary :=
  if exponent < 0 then some (b.divTen (-exponent).toNat)
  else if exponent ≤ largestPower then
    let product := b.mul (powerOfTen exponent.toNat)
    if product.isFinite then some product else none
  else if b.isZero then some b
  else none

end Binary

end Registrar
