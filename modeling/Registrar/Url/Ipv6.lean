import Registrar.Text.Numeral
import Registrar.Text.Split

namespace Registrar.Url.Ipv6

/-!
# Hosts of sixteen bytes

Such a host is written as eight numbers of two bytes in base sixteen with colons between.
Two colons stand for zeros, once at most, and the last two numbers may be written as
four bytes with dots between.

* `parse?` — the eight numbers that a text writes;
* `text` — the shortest text: two colons stand for the first of the longest rows of
  zeros, unless it is a single one.
-/

/-! ### Reading -/

/-- The number that one to four digits of base sixteen write. -/
def piece? (digits : List Char) : Option UInt16 :=
  if digits.isEmpty || 4 < digits.length then none
  else (Text.parseDigits 16 (digits.map Char.toLower)).map UInt16.ofNat

/-- The number below 256 that decimal digits write, without a zero in front. -/
def byte? (digits : List Char) : Option UInt16 :=
  if digits.isEmpty || 3 < digits.length || (digits.head? = some '0' && digits ≠ ['0']) then none
  else do
    let number ← Text.parseDigits 10 digits
    if number < 256 then return UInt16.ofNat number else none

/-- The two numbers that four bytes with dots between write. -/
def dotted? (written : List Char) : Option (List UInt16) := do
  match ← (Text.splitAll '.' written).mapM byte? with
  | [a, b, c, d] => return [a * 256 + b, c * 256 + d]
  | _ => none

/-- The numbers in parts of a host; the last part of the host may have dots. -/
def pieces? (areLast : Bool) : List (List Char) → Option (List UInt16)
  | [] => some []
  | [last] => if areLast && last.contains '.' then dotted? last else do return [← piece? last]
  | first :: rest => do return (← piece? first) :: (← pieces? areLast rest)

/-- The numbers with colons between in a part of a host, which may be empty. -/
def side? (isLast : Bool) (written : List Char) : Option (List UInt16) :=
  if written.isEmpty then some [] else pieces? isLast (Text.splitAll ':' written)

/-- The numbers of a host, zeros put in for two colons. -/
def numbers? (written : List Char) : Option (List UInt16) :=
  match Text.splitFirst? [':', ':'] written with
  | none => side? true written
  | some (before, after) => do
    let front ← side? false before
    let back ← side? true after
    let gap := 8 - (front.length + back.length)
    if gap = 0 then none else return front ++ List.replicate gap 0 ++ back

/-- The eight numbers that a text writes. -/
def parse? (written : List Char) : Option (Vector UInt16 8) := do
  let numbers ← numbers? written
  if h : numbers.length = 8 then return ⟨numbers.toArray, by simpa using h⟩ else none

/-! ### Writing -/

/-- Numbers in base sixteen with colons between. -/
def joined (pieces : List UInt16) : List Char :=
  [':'].intercalate (pieces.map fun piece => Nat.toDigits 16 piece.toNat)

/-- The place and the length of the first of the longest rows of zeros. -/
def longestZeros (pieces : List UInt16) : Nat × Nat :=
  (List.range pieces.length).foldl (fun best place =>
    let count := ((pieces.drop place).takeWhile (· = 0)).length
    if best.2 < count then (place, count) else best) (0, 0)

/-- The shortest text of eight numbers. -/
def text (pieces : Vector UInt16 8) : List Char :=
  let pieces := pieces.toList
  let (place, count) := longestZeros pieces
  if count < 2 then joined pieces
  else joined (pieces.take place) ++ [':', ':'] ++ joined (pieces.drop (place + count))

end Registrar.Url.Ipv6
