import Registrar.Bytes

namespace Registrar.Digest.Sha2

/-!
# The SHA-2 digests

One construction over words of 32 or 64 bits: the message is padded to whole
blocks, each block is stretched to one word per round, and the rounds mix these
words into a chain of eight.

* `Variant` — what distinguishes the members of the family;
* `Variant.digest` — the bytes of the final chain;
* `sha256`, `sha512t256` — the two members in use, 32 bytes each.
-/

/-! ### The construction -/

/-- The eight words that the rounds mix. -/
structure Chain (ω : Type) where
  (a b c d e f g h : ω)

/-- The words of a chain in order. -/
def Chain.words {ω : Type} (chain : Chain ω) : List ω :=
  [chain.a, chain.b, chain.c, chain.d, chain.e, chain.f, chain.g, chain.h]

/-- A member of the family: its word width in bytes, its mixing functions, one
    constant per round and the chain before the first block. -/
structure Variant (ω : Type) where
  width : Nat
  ofNat : Nat → ω
  toNat : ω → Nat
  stretch₀ : ω → ω
  stretch₁ : ω → ω
  mix₀ : ω → ω
  mix₁ : ω → ω
  constants : List ω
  initial : Chain ω

section

variable {ω : Type} [Add ω] [AndOp ω] [XorOp ω] [Complement ω]

/-- The list cut into pieces of the given size, the last one possibly shorter. -/
def pieces {α : Type} (size : Nat) (xs : List α) : List (List α) :=
  if _h : 0 < size ∧ xs ≠ [] then xs.take size :: pieces size (xs.drop size) else []
termination_by xs.length
decreasing_by
  have := List.length_pos_iff.2 _h.2
  simp only [List.length_drop]
  omega

/-- The message, a one bit, zeros, and the message's length in bits, filling
    whole blocks of sixteen words. -/
def Variant.padded (v : Variant ω) (message : Bytes) : Bytes :=
  let block := 16 * v.width
  let filled := (message.length + 1 + 2 * v.width) % block
  message ++ 0x80 :: List.replicate ((block - filled) % block) 0
    ++ Bytes.ofNat (2 * v.width) (8 * message.length)

/-- One word per round: the sixteen of the block and those derived from them. -/
def Variant.schedule (v : Variant ω) (block : Bytes) : Array ω :=
  let start := (pieces v.width block).map fun word => v.ofNat (Bytes.toNat word)
  let zero := v.ofNat 0
  (List.range (v.constants.length - 16)).foldl
    (fun words i => words.push (v.stretch₁ (words.getD (i + 14) zero) + words.getD (i + 9) zero
      + v.stretch₀ (words.getD (i + 1) zero) + words.getD i zero))
    start.toArray

/-- One round with its constant and its word of the schedule. -/
def Variant.round (v : Variant ω) (chain : Chain ω) (constant word : ω) : Chain ω :=
  let choice := (chain.e &&& chain.f) ^^^ (~~~chain.e &&& chain.g)
  let majority := (chain.a &&& chain.b) ^^^ (chain.a &&& chain.c) ^^^ (chain.b &&& chain.c)
  let t₁ := chain.h + v.mix₁ chain.e + choice + constant + word
  let t₂ := v.mix₀ chain.a + majority
  ⟨t₁ + t₂, chain.a, chain.b, chain.c, chain.d + t₁, chain.e, chain.f, chain.g⟩

/-- The chain after one more block: the rounds' result added to the chain. -/
def Variant.absorb (v : Variant ω) (chain : Chain ω) (block : Bytes) : Chain ω :=
  let mixed := (v.constants.zip (v.schedule block).toList).foldl
    (fun chain (constant, word) => v.round chain constant word) chain
  ⟨chain.a + mixed.a, chain.b + mixed.b, chain.c + mixed.c, chain.d + mixed.d,
    chain.e + mixed.e, chain.f + mixed.f, chain.g + mixed.g, chain.h + mixed.h⟩

/-- The bytes of the chain after the last block. -/
def Variant.digest (v : Variant ω) (message : Bytes) : Bytes :=
  let chain := (pieces (16 * v.width) (v.padded message)).foldl v.absorb v.initial
  chain.words.flatMap fun word => Bytes.ofNat v.width (v.toNat word)

end

/-! ### The members in use -/

/-- The first 64 bits after the point of the cube roots of the first eighty
    primes, one per round. -/
def cubeRootBits : List UInt64 :=
  [
   0x428a2f98d728ae22, 0x7137449123ef65cd, 0xb5c0fbcfec4d3b2f, 0xe9b5dba58189dbbc,
   0x3956c25bf348b538, 0x59f111f1b605d019, 0x923f82a4af194f9b, 0xab1c5ed5da6d8118,
   0xd807aa98a3030242, 0x12835b0145706fbe, 0x243185be4ee4b28c, 0x550c7dc3d5ffb4e2,
   0x72be5d74f27b896f, 0x80deb1fe3b1696b1, 0x9bdc06a725c71235, 0xc19bf174cf692694,
   0xe49b69c19ef14ad2, 0xefbe4786384f25e3, 0x0fc19dc68b8cd5b5, 0x240ca1cc77ac9c65,
   0x2de92c6f592b0275, 0x4a7484aa6ea6e483, 0x5cb0a9dcbd41fbd4, 0x76f988da831153b5,
   0x983e5152ee66dfab, 0xa831c66d2db43210, 0xb00327c898fb213f, 0xbf597fc7beef0ee4,
   0xc6e00bf33da88fc2, 0xd5a79147930aa725, 0x06ca6351e003826f, 0x142929670a0e6e70,
   0x27b70a8546d22ffc, 0x2e1b21385c26c926, 0x4d2c6dfc5ac42aed, 0x53380d139d95b3df,
   0x650a73548baf63de, 0x766a0abb3c77b2a8, 0x81c2c92e47edaee6, 0x92722c851482353b,
   0xa2bfe8a14cf10364, 0xa81a664bbc423001, 0xc24b8b70d0f89791, 0xc76c51a30654be30,
   0xd192e819d6ef5218, 0xd69906245565a910, 0xf40e35855771202a, 0x106aa07032bbd1b8,
   0x19a4c116b8d2d0c8, 0x1e376c085141ab53, 0x2748774cdf8eeb99, 0x34b0bcb5e19b48a8,
   0x391c0cb3c5c95a63, 0x4ed8aa4ae3418acb, 0x5b9cca4f7763e373, 0x682e6ff3d6b2b8a3,
   0x748f82ee5defb2fc, 0x78a5636f43172f60, 0x84c87814a1f0ab72, 0x8cc702081a6439ec,
   0x90befffa23631e28, 0xa4506cebde82bde9, 0xbef9a3f7b2c67915, 0xc67178f2e372532b,
   0xca273eceea26619c, 0xd186b8c721c0c207, 0xeada7dd6cde0eb1e, 0xf57d4f7fee6ed178,
   0x06f067aa72176fba, 0x0a637dc5a2c898a6, 0x113f9804bef90dae, 0x1b710b35131c471b,
   0x28db77f523047d84, 0x32caab7b40c72493, 0x3c9ebe0a15c9bebc, 0x431d67c49c100d4c,
   0x4cc5d4becb3e42b6, 0x597f299cfc657e2a, 0x5fcb6fab3ad6faec, 0x6c44198c4a475817]

/-- A 32-bit word rotated to the right. -/
def rotate32 (word count : UInt32) : UInt32 := word >>> count ||| word <<< (32 - count)

/-- A 64-bit word rotated to the right. -/
def rotate64 (word count : UInt64) : UInt64 := word >>> count ||| word <<< (64 - count)

/-- The member over 32-bit words, whose constants are the upper halves. -/
def narrow : Variant UInt32 where
  width := 4
  ofNat := UInt32.ofNat
  toNat := UInt32.toNat
  stretch₀ w := rotate32 w 7 ^^^ rotate32 w 18 ^^^ w >>> 3
  stretch₁ w := rotate32 w 17 ^^^ rotate32 w 19 ^^^ w >>> 10
  mix₀ w := rotate32 w 2 ^^^ rotate32 w 13 ^^^ rotate32 w 22
  mix₁ w := rotate32 w 6 ^^^ rotate32 w 11 ^^^ rotate32 w 25
  constants := (cubeRootBits.take 64).map fun (bits : UInt64) => (bits >>> 32).toUInt32
  initial := ⟨0x6a09e667, 0xbb67ae85, 0x3c6ef372, 0xa54ff53a,
    0x510e527f, 0x9b05688c, 0x1f83d9ab, 0x5be0cd19⟩

/-- The member over 64-bit words, started so that its first half is a digest of
    its own. -/
def wide : Variant UInt64 where
  width := 8
  ofNat := UInt64.ofNat
  toNat := UInt64.toNat
  stretch₀ w := rotate64 w 1 ^^^ rotate64 w 8 ^^^ w >>> 7
  stretch₁ w := rotate64 w 19 ^^^ rotate64 w 61 ^^^ w >>> 6
  mix₀ w := rotate64 w 28 ^^^ rotate64 w 34 ^^^ rotate64 w 39
  mix₁ w := rotate64 w 14 ^^^ rotate64 w 18 ^^^ rotate64 w 41
  constants := cubeRootBits
  initial := ⟨0x22312194fc2bf72c, 0x9f555fa3c84c64c2, 0x2393b86b6f53b151, 0x963877195940eabd,
    0x96283ee2a88effe3, 0xbe5e1e2553863992, 0x2b0199fc2c85b8aa, 0x0eb72ddc81c52ca2⟩

/-- SHA-256. -/
def sha256 (message : Bytes) : Vector UInt8 32 := Bytes.fit 32 (narrow.digest message)

/-- SHA-512/256: the first half of a 64-byte digest with a chain of its own. -/
def sha512t256 (message : Bytes) : Vector UInt8 32 := Bytes.fit 32 (wide.digest message)

end Registrar.Digest.Sha2
