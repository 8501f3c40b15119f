import Registrar.Wire.Fault

namespace Registrar.Wire

/-!
# Decoders

A decoder reads a value from the bytes under a cursor. Its outcome tells where
the cursor stands afterwards, after a failure too: a failed read of bytes leaves
the cursor where it was, and a failed decoder leaves it where its last
successful read ended.

* `Cursor` — a position in the input and the bytes from there on;
* `Decoder` — from a cursor to an outcome and a cursor;
* `Decoder.bytes`, `Decoder.byte`, `Decoder.block`, `Decoder.natural` — the reads;
* `Decoder.times` — a decoder a number of times over.
-/

/-- A position in the input and the bytes from there on. -/
structure Cursor where
  position : Nat
  rest : Bytes
deriving DecidableEq

/-- The cursor at the start of the input. -/
def Cursor.start (input : Bytes) : Cursor := ⟨0, input⟩

/-- How many bytes are left to read. -/
def Cursor.remaining (cursor : Cursor) : Nat := cursor.rest.length

/-- From a cursor to an outcome and to where the cursor stands then. -/
def Decoder (α : Type) : Type := Cursor → Except DecodeFault α × Cursor

namespace Decoder

variable {α β : Type}

/-- Runs the decoder from a cursor. -/
def run (d : Decoder α) (cursor : Cursor) : Except DecodeFault α × Cursor := d cursor

instance : Monad Decoder where
  pure a := fun cursor => (.ok a, cursor)
  bind d f := fun cursor =>
    match d cursor with
    | (.ok a, next) => f a next
    | (.error fault, next) => (.error fault, next)

@[simp] theorem run_pure (a : α) (cursor : Cursor) :
    (pure a : Decoder α).run cursor = (.ok a, cursor) := rfl

theorem run_bind (d : Decoder α) (f : α → Decoder β) (cursor : Cursor) :
    (d >>= f).run cursor =
      match d.run cursor with
      | (.ok a, next) => (f a).run next
      | (.error fault, next) => (.error fault, next) := rfl

theorem map_id (d : Decoder α) : id <$> d = d := by
  funext cursor
  simp only [Functor.map]
  cases d cursor with
  | mk outcome next => cases outcome <;> rfl

theorem bind_assoc {γ : Type} (d : Decoder α) (f : α → Decoder β) (g : β → Decoder γ) :
    d >>= f >>= g = d >>= fun a => f a >>= g := by
  funext cursor
  simp only [bind]
  cases d cursor with
  | mk outcome next => cases outcome <;> rfl

instance : LawfulMonad Decoder :=
  LawfulMonad.mk' Decoder map_id (fun _ _ => rfl) bind_assoc

/-! ### Reads -/

/-- Fails where the cursor stands. -/
def fail (fault : DecodeFault) : Decoder α := fun cursor => (.error fault, cursor)

/-- The position of the cursor. -/
def position : Decoder Nat := fun cursor => (.ok cursor.position, cursor)

/-- The next byte. -/
def byte : Decoder UInt8 := fun cursor =>
  match cursor.rest with
  | [] => (.error (.outOfBounds cursor.position 1 0), cursor)
  | byte :: rest => (.ok byte, ⟨cursor.position + 1, rest⟩)

/-- The next `n` bytes. -/
def bytes (n : Nat) : Decoder Bytes := fun cursor =>
  let taken := cursor.rest.take n
  if taken.length = n then (.ok taken, ⟨cursor.position + n, cursor.rest.drop n⟩)
  else (.error (.outOfBounds cursor.position n cursor.rest.length), cursor)

/-- The next `n` bytes as a block of that length. -/
def block (n : Nat) : Decoder (Vector UInt8 n) := do
  return Bytes.fit n (← bytes n)

/-- The number that the next `width` bytes write. -/
def natural (width : Nat) : Decoder Nat := do
  return Bytes.toNat (← bytes width)

/-! ### Combinations -/

/-- The value if there is one, and the failure otherwise. -/
def require (fault : DecodeFault) : Option α → Decoder α
  | some a => pure a
  | none => fail fault

/-- The decoder `n` times over. -/
def times : (n : Nat) → Decoder α → Decoder (List α)
  | 0, _ => pure []
  | n + 1, d => do
    let a ← d
    let as ← times n d
    return a :: as

end Decoder

end Registrar.Wire
