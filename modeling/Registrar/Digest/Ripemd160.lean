import Registrar.Bytes
import Registrar.Digest.Sha2

namespace Registrar.Digest.Ripemd160

/-!
# The RIPEMD-160 digest

Two lines of eighty steps run over each block side by side and are then added
crosswise into a chain of five words, least significant byte first throughout.

* `Run`, `leftLine`, `rightLine` — sixteen steps, and the runs of the two lines;
* `digest` — the twenty bytes of the final chain.
-/

/-- The five words of a chain. -/
structure Chain where
  (a b c d e : UInt32)

/-- A word rotated to the left. -/
def rotateLeft (word count : UInt32) : UInt32 := word <<< count ||| word >>> (32 - count)

/-- The five mixing functions, one for each run of sixteen steps. -/
def mix (kind : Nat) (x y z : UInt32) : UInt32 :=
  match kind with
  | 0 => x ^^^ y ^^^ z
  | 1 => (x &&& y) ||| (~~~x &&& z)
  | 2 => (x ||| ~~~y) ^^^ z
  | 3 => (x &&& z) ||| (y &&& ~~~z)
  | _ => x ^^^ (y ||| ~~~z)

/-! ### The two lines -/

/-- One run of sixteen steps: its mixing function, its constant, which words of
    the block it takes and by how much it rotates. -/
structure Run where
  kind : Nat
  constant : UInt32
  order : List Nat
  rotations : List UInt32

/-- The runs of the left line. -/
def leftLine : List Run :=
  [⟨0, 0x00000000, [0, 1, 2, 3, 4, 5, 6, 7, 8, 9, 10, 11, 12, 13, 14, 15],
      [11, 14, 15, 12, 5, 8, 7, 9, 11, 13, 14, 15, 6, 7, 9, 8]⟩,
   ⟨1, 0x5a827999, [7, 4, 13, 1, 10, 6, 15, 3, 12, 0, 9, 5, 2, 14, 11, 8],
      [7, 6, 8, 13, 11, 9, 7, 15, 7, 12, 15, 9, 11, 7, 13, 12]⟩,
   ⟨2, 0x6ed9eba1, [3, 10, 14, 4, 9, 15, 8, 1, 2, 7, 0, 6, 13, 11, 5, 12],
      [11, 13, 6, 7, 14, 9, 13, 15, 14, 8, 13, 6, 5, 12, 7, 5]⟩,
   ⟨3, 0x8f1bbcdc, [1, 9, 11, 10, 0, 8, 12, 4, 13, 3, 7, 15, 14, 5, 6, 2],
      [11, 12, 14, 15, 14, 15, 9, 8, 9, 14, 5, 6, 8, 6, 5, 12]⟩,
   ⟨4, 0xa953fd4e, [4, 0, 5, 9, 7, 12, 2, 10, 14, 1, 3, 8, 11, 6, 15, 13],
      [9, 15, 5, 11, 6, 8, 13, 12, 5, 12, 13, 14, 11, 8, 5, 6]⟩]

/-- The runs of the right line. -/
def rightLine : List Run :=
  [⟨4, 0x50a28be6, [5, 14, 7, 0, 9, 2, 11, 4, 13, 6, 15, 8, 1, 10, 3, 12],
      [8, 9, 9, 11, 13, 15, 15, 5, 7, 7, 8, 11, 14, 14, 12, 6]⟩,
   ⟨3, 0x5c4dd124, [6, 11, 3, 7, 0, 13, 5, 10, 14, 15, 8, 12, 4, 9, 1, 2],
      [9, 13, 15, 7, 12, 8, 9, 11, 7, 7, 12, 7, 6, 15, 13, 11]⟩,
   ⟨2, 0x6d703ef3, [15, 5, 1, 3, 7, 14, 6, 9, 11, 8, 12, 2, 10, 0, 4, 13],
      [9, 7, 15, 11, 8, 6, 6, 14, 12, 13, 5, 14, 13, 13, 7, 5]⟩,
   ⟨1, 0x7a6d76e9, [8, 6, 4, 1, 3, 11, 15, 0, 5, 12, 2, 13, 9, 7, 10, 14],
      [15, 5, 8, 11, 14, 14, 6, 14, 6, 9, 12, 9, 12, 5, 15, 8]⟩,
   ⟨0, 0x00000000, [12, 15, 10, 4, 1, 5, 8, 7, 6, 2, 13, 14, 0, 3, 9, 11],
      [8, 5, 12, 9, 12, 5, 14, 6, 8, 13, 6, 5, 15, 13, 11, 11]⟩]

/-- A run over the words of a block. -/
def Run.apply (run : Run) (words : Array UInt32) (chain : Chain) : Chain :=
  (run.order.zip run.rotations).foldl
    (fun s (index, rotation) =>
      let t := rotateLeft
        (s.a + mix run.kind s.b s.c s.d + words.getD index 0 + run.constant) rotation + s.e
      ⟨s.e, t, s.b, rotateLeft s.c 10, s.d⟩)
    chain

/-! ### The digest -/

/-- The chain after one more block. -/
def absorb (chain : Chain) (block : Bytes) : Chain :=
  let words := ((Sha2.pieces 4 block).map fun word =>
    UInt32.ofNat (Bytes.toNat word.reverse)).toArray
  let left := leftLine.foldl (fun s run => run.apply words s) chain
  let right := rightLine.foldl (fun s run => run.apply words s) chain
  ⟨chain.b + left.c + right.d, chain.c + left.d + right.e, chain.d + left.e + right.a,
    chain.e + left.a + right.b, chain.a + left.b + right.c⟩

/-- The message, a one bit, zeros, and the message's length in bits with the
    least significant byte first, filling whole blocks of 64 bytes. -/
def padded (message : Bytes) : Bytes :=
  message ++ 0x80 :: List.replicate ((64 - (message.length + 9) % 64) % 64) 0
    ++ (Bytes.ofNat 8 (8 * message.length)).reverse

/-- RIPEMD-160. -/
def digest (message : Bytes) : Vector UInt8 20 :=
  let start : Chain := ⟨0x67452301, 0xefcdab89, 0x98badcfe, 0x10325476, 0xc3d2e1f0⟩
  let chain := (Sha2.pieces 64 (padded message)).foldl absorb start
  Bytes.fit 20 ([chain.a, chain.b, chain.c, chain.d, chain.e].flatMap fun word =>
    (Bytes.ofNat 4 word.toNat).reverse)

end Registrar.Digest.Ripemd160
