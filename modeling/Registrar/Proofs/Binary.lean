import Mathlib.Algebra.Group.Nat.Defs
import Registrar.Binary

namespace Registrar

/-!
# Bounds on binary numbers

Rounding at most doubles a quotient. A bound on two factors is therefore one on their rounded
product, and what is far enough below the largest number of the format is not too large for it.

* `roundHalfEven_mul_le`, `Binary.ratio_ofRatio_le` — a rounded quotient is at most twice the
  exact one;
* `Binary.exponent_ofRatio_le`, `Binary.isFinite_ofRatio` — the exponent follows the quotient, so
  one below `2 ^ 1022` is finite;
* `Binary.exists_scaleTen?` — a whole number can be multiplied by a power of ten if the product
  is small enough.
-/

/-- Rounding at most doubles a quotient. -/
theorem roundHalfEven_mul_le (num den : Nat) : roundHalfEven num den * den ≤ 2 * num := by
  have hnum : num / den * den + num % den = num := Nat.div_add_mod' num den
  unfold roundHalfEven
  dsimp only
  split
  · omega
  · next hup =>
    -- the rest is at least half of the divisor where the quotient is rounded up
    have hrest : den ≤ 2 * (num % den) := by omega
    rw [Nat.add_mul]
    omega

/-- Numerator and denominator are each multiplied by one power, the other of which is one. -/
theorem scaled_eq (base num den : Nat) (exponent : Int) :
    scaled base num den exponent =
      (num * base ^ (-exponent).toNat, den * base ^ exponent.toNat) := by
  -- one of the two powers has zero for its exponent
  unfold scaled
  split
  · next h =>
    have hzero : (-exponent).toNat = 0 := by omega
    rw [hzero, Nat.pow_zero, Nat.mul_one]
    rfl
  · next h =>
    have hzero : exponent.toNat = 0 := by omega
    rw [hzero, Nat.pow_zero, Nat.mul_one]
    rfl

namespace Binary

/-- One side of the ratio is a power of two and the other has no power left in it, whichever sign
    the exponent has. -/
theorem ratio_eq (b : Binary) :
    b.ratio = (b.mantissa * 2 ^ b.exponent.toNat, 2 ^ (-b.exponent).toNat) := by
  rw [ratio, scaled_eq, Int.neg_neg, Nat.one_mul]

theorem ratio_snd_pos (b : Binary) : 0 < b.ratio.2 := by
  rw [ratio_eq]
  exact Nat.pow_pos (by decide)

/-! ### The number nearest to a quotient -/

/-- The number nearest to a quotient is the quotient rounded at an exponent that follows the
    sizes of numerator and denominator; one mantissa is too long by a bit and is halved. -/
theorem exists_ofRatio {num : Nat} (hnum : num ≠ 0) (den : Nat) :
    ∃ exponent : Int, exponent ≤ max ((num.log2 : Int) - den.log2 - 52) (-1073) ∧
      ∃ mantissa : Nat, mantissa * (den * 2 ^ exponent.toNat) ≤ 2 * (num * 2 ^ (-exponent).toNat) ∧
        (ofRatio num den = ⟨mantissa, exponent⟩ ∨
          mantissa = 2 * (1 <<< 52) ∧ ofRatio num den = ⟨1 <<< 52, exponent + 1⟩) := by
  -- the exponent is guessed from the sizes, and is one too low or right
  obtain ⟨low, hlow⟩ :
      ∃ low : Int, low = max ((num.log2 : Int) - den.log2 - 53) (-1074) := ⟨_, rfl⟩
  obtain ⟨exponent, hexponent⟩ : ∃ exponent : Int, exponent =
      if 1 <<< 53 ≤ (scaled 2 num den low).1 / (scaled 2 num den low).2 then low + 1
      else low := ⟨_, rfl⟩
  have hle : exponent ≤ low + 1 := by
    rw [hexponent]
    split <;> omega
  refine ⟨exponent, by omega,
    roundHalfEven (scaled 2 num den exponent).1 (scaled 2 num den exponent).2, ?_, ?_⟩
  · have hround := roundHalfEven_mul_le (scaled 2 num den exponent).1 (scaled 2 num den exponent).2
    rwa [scaled_eq] at hround ⊢
  · have heq : ofRatio num den =
        if roundHalfEven (scaled 2 num den exponent).1 (scaled 2 num den exponent).2 = 1 <<< 53 then
          ⟨1 <<< 52, exponent + 1⟩
        else ⟨roundHalfEven (scaled 2 num den exponent).1 (scaled 2 num den exponent).2,
          exponent⟩ := by
      rw [hexponent, hlow, ofRatio, if_neg hnum]
    rw [heq]
    split
    · next hlong => exact .inr ⟨hlong, rfl⟩
    · exact .inl rfl

/-- Half a mantissa at the next exponent is the same number. -/
theorem ratio_halved_le {mantissa num den : Nat} {exponent : Int}
    (h : 2 * mantissa * (den * 2 ^ exponent.toNat) ≤ 2 * (num * 2 ^ (-exponent).toNat)) :
    mantissa * (den * 2 ^ (exponent + 1).toNat) ≤ 2 * (num * 2 ^ (-(exponent + 1)).toNat) := by
  -- the power stands below the line or above it, as the sign of the exponent says
  by_cases hsign : 0 ≤ exponent
  · have hup : (exponent + 1).toNat = exponent.toNat + 1 := by omega
    have hdown : (-(exponent + 1)).toNat = (-exponent).toNat := by omega
    rw [hup, hdown, Nat.pow_succ]
    calc mantissa * (den * (2 ^ exponent.toNat * 2))
        = 2 * mantissa * (den * 2 ^ exponent.toNat) := by
          simp only [Nat.mul_comm, Nat.mul_left_comm, Nat.mul_assoc]
      _ ≤ 2 * (num * 2 ^ (-exponent).toNat) := h
  · have hup : (exponent + 1).toNat = exponent.toNat := by omega
    have hdown : (-exponent).toNat = (-(exponent + 1)).toNat + 1 := by omega
    rw [hdown, Nat.pow_succ, ← Nat.mul_assoc num, Nat.mul_assoc 2 mantissa] at h
    rw [hup]
    omega

/-- The number nearest to a quotient is at most twice the quotient. -/
theorem ratio_ofRatio_le (num den : Nat) :
    (ofRatio num den).ratio.1 * den ≤ 2 * num * (ofRatio num den).ratio.2 := by
  by_cases hnum : num = 0
  · rw [ratio_eq, ofRatio, if_pos hnum]
    simp
  · suffices h : (ofRatio num den).mantissa * (den * 2 ^ (ofRatio num den).exponent.toNat) ≤
        2 * (num * 2 ^ (-(ofRatio num den).exponent).toNat) by
      rw [ratio_eq, Nat.mul_assoc, Nat.mul_comm _ den, Nat.mul_assoc 2]
      exact h
    -- a mantissa that is rounded up to one bit too many is halved, with the exponent one more
    obtain ⟨exponent, -, mantissa, hround, heq | ⟨hlong, heq⟩⟩ := exists_ofRatio hnum den
    · rw [heq]
      exact hround
    · rw [hlong] at hround
      rw [heq]
      exact ratio_halved_le hround

/-- The exponent is about the difference in size of numerator and denominator. -/
theorem exponent_ofRatio_le {num : Nat} (hnum : num ≠ 0) (den : Nat) :
    (ofRatio num den).exponent ≤ max ((num.log2 : Int) - den.log2 - 51) (-1072) := by
  obtain ⟨exponent, hle, mantissa, -, heq | ⟨-, heq⟩⟩ := exists_ofRatio hnum den
  · rw [heq]
    dsimp only
    omega
  · rw [heq]
    dsimp only
    omega

/-- A quotient below `2 ^ 1022` is not too large for the format. -/
theorem isFinite_ofRatio {num den limit : Nat} (hlimit : limit ≤ 1022)
    (h : num < 2 ^ limit * den) :
    (ofRatio num den).isFinite = true := by
  by_cases hnum : num = 0
  · rw [ofRatio, if_pos hnum]
    rfl
  · have hlog : num.log2 < limit + (den.log2 + 1) := by
      rw [Nat.log2_lt hnum, Nat.pow_add]
      exact Nat.lt_of_lt_of_le h (Nat.mul_le_mul_left _ (Nat.le_of_lt Nat.lt_log2_self))
    have hexponent := exponent_ofRatio_le hnum den
    have hle : (ofRatio num den).exponent ≤ 971 := by omega
    rw [isFinite, decide_eq_true hle, Bool.or_true]

/-! ### Products -/

/-- The rounded product of two whole numbers that are rounded themselves is finite if the exact
    product is far enough below the largest number. -/
theorem isFinite_mul_ofRatio {m n limit : Nat} (hlimit : limit ≤ 1022)
    (h : 2 * m * (2 * n) < 2 ^ limit) :
    ((ofRatio m 1).mul (ofRatio n 1)).isFinite = true := by
  have hm := ratio_ofRatio_le m 1
  have hn := ratio_ofRatio_le n 1
  rw [Nat.mul_one] at hm hn
  apply isFinite_ofRatio hlimit
  calc (ofRatio m 1).ratio.1 * (ofRatio n 1).ratio.1
      ≤ 2 * m * (ofRatio m 1).ratio.2 * (2 * n * (ofRatio n 1).ratio.2) := Nat.mul_le_mul hm hn
    _ = 2 * m * (2 * n) * ((ofRatio m 1).ratio.2 * (ofRatio n 1).ratio.2) := by
      rw [Nat.mul_mul_mul_comm]
    _ < 2 ^ limit * ((ofRatio m 1).ratio.2 * (ofRatio n 1).ratio.2) :=
      Nat.mul_lt_mul_of_pos_right h (Nat.mul_pos (ratio_snd_pos _) (ratio_snd_pos _))

/-- A whole number can be multiplied by a power of ten that the format has, if the product is
    far enough below the largest number. -/
theorem exists_scaleTen? {n exponent limit : Nat} (hpower : exponent ≤ largestPower)
    (hlimit : limit ≤ 1022) (h : 2 * n * (2 * 10 ^ exponent) < 2 ^ limit) :
    ∃ product, (ofRatio n 1).scaleTen? (exponent : Int) = some product := by
  have hfinite : ((ofRatio n 1).mul (powerOfTen exponent)).isFinite = true :=
    isFinite_mul_ofRatio hlimit h
  have hsign : ¬ (exponent : Int) < 0 := by omega
  have hle : (exponent : Int) ≤ (largestPower : Int) := by omega
  rw [scaleTen?, if_neg hsign, if_pos hle, Int.toNat_natCast]
  exact ⟨_, if_pos hfinite⟩

end Binary

end Registrar
