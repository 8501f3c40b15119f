namespace Registrar.Text

/-!
# Classes of characters as ranges

A class of characters is given by the ranges of numbers that make it up.

* `Ranges.hold` — whether a character is in one of the ranges;
* `valueIn?` — what the range of a character is marked with.
-/

/-- The first and the last number of each range. -/
abbrev Ranges := List (Nat × Nat)

/-- Whether a character is in one of the ranges. -/
def Ranges.hold (ranges : Ranges) (c : Char) : Bool :=
  ranges.any fun (first, last) => first ≤ c.toNat && c.toNat ≤ last

/-- What the first range that holds a character is marked with. -/
def valueIn? {α : Type} (ranges : List (Nat × Nat × α)) (c : Char) : Option α :=
  (ranges.find? fun (first, last, _) => first ≤ c.toNat && c.toNat ≤ last).map fun (_, _, a) => a

end Registrar.Text
