import Registrar.Digest

namespace Registrar

/-!
# Public keys

Points of the curve `y² = x³ + 7` over a prime field. A key is known by its
abscissa and by the parity of its ordinate, which is also its short encoding.

* `PublicKey` — an abscissa below the modulus over which the curve has a point,
  and a parity;
* `PublicKey.compressed` — the 33 bytes of the short encoding;
* `PublicKey.ofBytes?` — reads the short encoding, the long one, and the long
  one that also states the parity;
* `ofBytes?_compressed` — the short encoding is read back.
-/

namespace Curve

/-- The prime that the coordinates are taken modulo. -/
def modulus : Nat :=
  0xFFFFFFFFFFFFFFFFFFFFFFFFFFFFFFFFFFFFFFFFFFFFFFFFFFFFFFFEFFFFFC2F

/-- A power modulo the prime, by repeated squaring. -/
def power (base exponent : Nat) : Nat :=
  if _h : exponent = 0 then 1
  else
    let half := power (base * base % modulus) (exponent / 2)
    if exponent % 2 = 1 then base * half % modulus else half
termination_by exponent
decreasing_by omega

/-- What the square of the ordinate has to be. -/
def rightSide (x : Nat) : Nat := (x * x * x + 7) % modulus

/-- Whether `(x, y)` lies on the curve. -/
def onCurve (x y : Nat) : Bool := y * y % modulus == rightSide x

/-- The one number that can be a root of the right side up to its sign, as the
    modulus leaves three when divided by four. -/
def root (x : Nat) : Nat := power (rightSide x) ((modulus + 1) / 4)

end Curve

/-- A point of the curve other than the one at infinity. -/
structure PublicKey where
  /-- The abscissa. -/
  x : Nat
  /-- Whether the ordinate is odd. -/
  odd : Bool
  x_lt : x < Curve.modulus
  on_curve : Curve.onCurve x (Curve.root x) = true
deriving DecidableEq

namespace PublicKey

/-- The short encoding: the parity, then the abscissa. -/
def compressed (key : PublicKey) : Vector UInt8 33 :=
  Bytes.fit 33 ((if key.odd then 3 else 2) :: Bytes.ofNat 32 key.x)

/-- The key with an abscissa and a parity, if the curve has a point there. -/
def ofAbscissa? (x : Nat) (odd : Bool) : Option PublicKey :=
  if h : x < Curve.modulus ∧ Curve.onCurve x (Curve.root x) = true then
    some ⟨x, odd, h.1, h.2⟩
  else none

/-- The key with both coordinates given, if they are those of a point. -/
def ofPoint? (x y : Nat) : Option PublicKey :=
  if x < Curve.modulus ∧ y < Curve.modulus ∧ Curve.onCurve x y then
    ofAbscissa? x (y % 2 == 1)
  else none

/-- The key that the bytes encode: 33 bytes after a tag of the parity, or 65
    bytes after the tag of the long encoding, which may state the parity too. -/
def ofBytes? (bytes : Bytes) : Option PublicKey :=
  match bytes with
  | [] => none
  | tag :: rest =>
    let x := Bytes.toNat (rest.take 32)
    if rest.length = 32 then
      if tag = 2 then ofAbscissa? x false
      else if tag = 3 then ofAbscissa? x true
      else none
    else if rest.length = 64 then
      let y := Bytes.toNat (rest.drop 32)
      if tag = 4 ∨ (tag = 6 ∧ y % 2 = 0) ∨ (tag = 7 ∧ y % 2 = 1) then ofPoint? x y
      else none
    else none

/-- What a user is told about bytes that encode no key. -/
def malformedMessage : String := "malformed public key"

/-! ### Reading back the short encoding -/

theorem toList_compressed (key : PublicKey) :
    key.compressed.toList = (if key.odd then 3 else 2) :: Bytes.ofNat 32 key.x := by
  apply List.ext_getElem
  · simp
  · intro i _ _
    simp [compressed, Bytes.fit]

/-- The short encoding of a key is read back as the key. -/
theorem ofBytes?_compressed (key : PublicKey) : ofBytes? key.compressed.toList = some key := by
  obtain ⟨x, odd, hx, hc⟩ := key
  have hbound : x < Bytes.capacity 32 := Nat.lt_trans hx (by decide)
  have htake : (Bytes.ofNat 32 x).take 32 = Bytes.ofNat 32 x :=
    List.take_of_length_le (by simp)
  rw [toList_compressed]
  cases odd <;>
    simp [ofBytes?, ofAbscissa?, htake, Bytes.toNat_ofNat hbound, hx, hc]

end PublicKey

end Registrar
