import Registrar.Bytes
import Registrar.Text.Numeral
import Registrar.Text.Split

namespace Registrar.Url.Ipv4

/-!
# Hosts of four bytes

A host that ends in a number is an address of four bytes. It has up to four numbers with
dots between; the last number fills the bytes that are left, and a dot may stand at the
end.

* `isNumeric` — whether a host ends in a number;
* `parse?` — the bytes that a host writes;
* `text` — the bytes as four decimal numbers.
-/

/-- The number that a part of a host writes: in base sixteen after `0x`, in base eight
    after another zero, and in base ten otherwise. -/
def number? : List Char → Option Nat
  | [] => none
  | '0' :: 'x' :: digits => Text.parseDigits 16 digits
  | '0' :: digits => Text.parseDigits 8 digits
  | digits => Text.parseDigits 10 digits

/-- The parts of a host between its dots, without the dot at its end. -/
def parts (host : List Char) : List (List Char) :=
  let parts := Text.splitAll '.' host
  if parts.getLast? = some [] then parts.dropLast else parts

/-- Whether the last part of a host is a number. -/
def isNumeric (host : List Char) : Bool :=
  match (parts host).getLast? with
  | none | some [] => false
  | some last => last.all Char.isDigit || (number? last).isSome

/-- The four bytes of a numeric host. -/
def parse? (host : List Char) : Option (Vector UInt8 4) := do
  let numbers ← (parts host).mapM number?
  let last ← numbers.getLast?
  let front := numbers.dropLast
  if front.length < 4 && front.all (· < 256) && last < Bytes.capacity (4 - front.length) then
    Bytes.block? 4 (front.map UInt8.ofNat ++ Bytes.ofNat (4 - front.length) last)
  else none

/-- Four bytes as decimal numbers with dots between. -/
def text (bytes : Vector UInt8 4) : List Char :=
  ['.'].intercalate (bytes.toList.map fun byte => Nat.toDigits 10 byte.toNat)

end Registrar.Url.Ipv4
