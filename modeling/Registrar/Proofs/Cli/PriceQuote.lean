import Registrar.Cli.PriceQuote
import Registrar.Proofs.Json.Printing
import Registrar.Proofs.Text.Numeral

namespace Registrar.Cli.PriceQuote

open Registrar.Json (Reread NumberText)

/-!
# Quotes in JSON text

A quote is printed with its amount as a number, and read with an amount that is a text or a
number of 64 bits. Amounts have 128 bits.

* `ofJson_object` — a quote is read from an object with its unit and whatever its amount is
  read as;
* `ofJson_numeral` — an amount in a text is read over the whole range;
* `reread_toJson` — in a printed quote, the amount is what its digits are read as;
* `ofText?_toJson_outcome` — a printed quote is read back if and only if its amount has 64 bits.
-/

/-! ### Amounts -/

/-- An amount that is a whole number of 64 bits is read as it is. -/
theorem readAmount_integer {n : Nat} (h : n < UInt64.size) :
    readAmount (.integer n) = .ok (BitVec.ofNat 128 n) := by
  have hrange : (decide (0 ≤ (n : Int)) && decide ((n : Int) < UInt64.size)) = true := by
    rw [Bool.and_eq_true, decide_eq_true_eq, decide_eq_true_eq]
    exact ⟨Int.natCast_nonneg n, Int.ofNat_lt.2 h⟩
  have hword : Json.readWord (.integer n) = .ok (UInt64.ofNat n) := by
    rw [Json.readWord, if_pos hrange, Int.toNat_natCast]
  rw [readAmount, hword]
  · dsimp only
    rw [UInt64.toNat_ofNat_of_lt' h]
  · intro text htext
    cases htext

/-- An amount with a fraction or an exponent is refused. -/
theorem readAmount_decimal (number : Decimal) :
    readAmount (.decimal number) = .error (.noAlternative "Amount") := rfl

/-- The members of a quote are written by name, the amount first. -/
theorem ordered_members (units : String) (amount : Json) :
    Json.ordered [("units", .string units), ("amount", amount)] =
      [("amount", amount), ("units", .string units)] := by
  have hlt : "amount" < "units" := by decide
  rw [Json.ordered]
  simp only [List.foldl_cons, List.foldl_nil, Json.insertMember, if_pos hlt]

/-- A quote is read from its unit and its amount, whatever that is read as. -/
theorem ofJson_object (units : String) (amount : Json) :
    ofJson (.object [("units", .string units), ("amount", amount)]) =
      (readAmount amount).map (PriceQuote.mk units) := by
  have hunits : [("amount", amount), ("units", Json.string units)].lookup "units" =
      some (.string units) := rfl
  have hamount : [("amount", amount), ("units", Json.string units)].lookup "amount" =
      some amount := rfl
  rw [ofJson, Json.readFields, ordered_members]
  -- the amount is checked before the unit, as its key comes first
  cases h : readAmount amount with
  | ok amount =>
    simp [h, hunits, hamount, Json.Field.of, Json.readText, bind, Except.bind, pure, Except.pure,
      Except.map]
  | error fault => simp [h, Json.Field.of, bind, Except.bind, Except.map]

/-- An amount in a text is read over its whole range, beyond 64 bits as well. -/
theorem ofJson_numeral (quote : PriceQuote) :
    ofJson (.object [("units", .string quote.units),
      ("amount", .string quote.amount.toNat.repr)]) = .ok quote := by
  have hparse : Text.parseNatural (Bytes.capacity 16) quote.amount.toNat.repr =
      .ok quote.amount.toNat := Text.parseNatural_repr quote.amount.isLt
  rw [ofJson_object, readAmount, hparse]
  dsimp only
  rw [BitVec.ofNat_toNat, BitVec.setWidth_eq]
  rfl

/-! ### Printed quotes -/

/-- A printed quote is read with whatever its amount is read as. -/
theorem reread_toJson (quote : PriceQuote) {amount : Json}
    (h : NumberText (toString (quote.amount.toNat : Int)).toList amount) :
    Reread quote.toJson (.object [("units", .string quote.units), ("amount", amount)]) :=
  .object (.cons (.mk "units" (.string quote.units)) (.cons (.mk "amount" (.integer h)) .nil))

/-- Up to an amount of 64 bits, a printed quote is read back. -/
theorem exists_reread_of_lt {quote : PriceQuote} (h : quote.amount.toNat < 2 ^ 64) :
    ∃ json, Reread quote.toJson json ∧ ofJson json = .ok quote := by
  have hread : NumberText (toString (quote.amount.toNat : Int)).toList
      (.integer quote.amount.toNat) :=
    Json.numberText_integer (by omega) (Int.ofNat_lt.2 h)
  refine ⟨_, reread_toJson quote hread, ?_⟩
  rw [ofJson_object, readAmount_integer h, BitVec.ofNat_toNat, BitVec.setWidth_eq]
  rfl

/-- Beyond 64 bits, the amount is read as a binary number, which is none of the alternatives. -/
theorem exists_reread_of_le {quote : PriceQuote} (h : 2 ^ 64 ≤ quote.amount.toNat) :
    ∃ json, Reread quote.toJson json ∧ ofJson json = .error (.noAlternative "Amount") := by
  have hhigh : quote.amount.toNat < 10 ^ 50 :=
    Nat.lt_of_lt_of_le quote.amount.isLt (by decide)
  obtain ⟨number, hread⟩ := Json.exists_numberText_decimal h hhigh
  refine ⟨_, reread_toJson quote hread, ?_⟩
  rw [ofJson_object, readAmount_decimal]
  rfl

/-- **A printed quote** can always be parsed, from one line or several. It is read back if and
    only if its amount has 64 bits, and is refused for its amount otherwise. -/
theorem ofText?_toJson_outcome (quote : PriceQuote) :
    ∃ json, Json.ofText? quote.toJson.compact = some json ∧
      Json.ofText? quote.toJson.pretty = some json ∧
      (ofJson json = .ok quote ↔ quote.amount.toNat < 2 ^ 64) ∧
      (ofJson json = .error (.noAlternative "Amount") ↔ 2 ^ 64 ≤ quote.amount.toNat) := by
  -- a numeral of one word is read as an integer, a longer one as a decimal
  by_cases h : quote.amount.toNat < 2 ^ 64
  · obtain ⟨json, hreread, hread⟩ := exists_reread_of_lt h
    refine ⟨json, Json.ofText?_compact hreread, Json.ofText?_pretty hreread, ?_, ?_⟩
    · exact iff_of_true hread h
    · exact iff_of_false (by rw [hread]; intro heq; cases heq) (Nat.not_le.2 h)
  · obtain ⟨json, hreread, hread⟩ := exists_reread_of_le (Nat.not_lt.1 h)
    refine ⟨json, Json.ofText?_compact hreread, Json.ofText?_pretty hreread, ?_, ?_⟩
    · exact iff_of_false (by rw [hread]; intro heq; cases heq) h
    · exact iff_of_true hread (Nat.not_lt.1 h)

/-- The least amount of more than 64 bits is printed and not read back. -/
theorem not_forall_ofText?_toJson :
    ¬ ∀ quote : PriceQuote, ∃ json, Json.ofText? quote.toJson.compact = some json ∧
      ofJson json = .ok quote := by
  intro h
  -- the least amount that one word does not hold
  have hle : 2 ^ 64 ≤ (PriceQuote.mk "STX" 18446744073709551616).amount.toNat := by decide
  obtain ⟨json, htext, hread⟩ := h ⟨"STX", 18446744073709551616⟩
  obtain ⟨other, hreread, herror⟩ := exists_reread_of_le hle
  rw [Json.ofText?_compact hreread] at htext
  obtain rfl : other = json := Option.some.inj htext
  rw [hread] at herror
  cases herror

end Registrar.Cli.PriceQuote
