import Registrar.Bytes

namespace Registrar.Text

/-!
# UTF-8

Texts travel as UTF-8. A byte string that is no UTF-8 is refused with the place
of the first sequence at fault and with how many of its bytes cannot start or
continue a character.

* `bytes` — the UTF-8 bytes of a text;
* `ofBytes` — the text of a byte string, or the fault that keeps it from being one;
* `ofBytes_bytes`, `bytes_of_ofBytes` — reading accepts exactly what texts are
  written as.
-/

/-- Why a byte string is no text: at `index` stands a sequence whose first
    `invalid` bytes are no character, or one that the end of the input cuts off. -/
structure Utf8Fault where
  index : Nat
  invalid : Option Nat
deriving DecidableEq

/-- What a user is told about the fault. -/
def Utf8Fault.message (fault : Utf8Fault) : String :=
  match fault.invalid with
  | some count => s!"invalid utf-8 sequence of {count} bytes from index {fault.index}"
  | none => s!"incomplete utf-8 byte sequence from index {fault.index}"

/-- The UTF-8 bytes of a text. -/
def bytes (text : String) : Bytes := text.toByteArray.data.toList

/-! ### Where a sequence goes wrong -/

/-- How many bytes follow a lead byte above the ASCII range, and between which
    bounds the first of them lies. -/
def continuation? (lead : UInt8) : Option (Nat × UInt8 × UInt8) :=
  if lead < 0xC2 then none
  else if lead < 0xE0 then some (1, 0x80, 0xBF)
  else if lead = 0xE0 then some (2, 0xA0, 0xBF)
  else if lead = 0xED then some (2, 0x80, 0x9F)
  else if lead < 0xF0 then some (2, 0x80, 0xBF)
  else if lead = 0xF0 then some (3, 0x90, 0xBF)
  else if lead < 0xF4 then some (3, 0x80, 0xBF)
  else if lead = 0xF4 then some (3, 0x80, 0x8F)
  else none

/-- The defect among the next `count` bytes after `seen` good ones: `some none`
    where the input ends, `some (some n)` where the byte after `n` good ones is
    out of bounds. -/
def defect? (low high : UInt8) : (count seen : Nat) → Bytes → Option (Option Nat)
  | 0, _, _ => none
  | _ + 1, _, [] => some none
  | count + 1, seen, byte :: rest =>
    if low ≤ byte && byte ≤ high then defect? 0x80 0xBF count (seen + 1) rest
    else some (some seen)

/-- The first fault in the bytes, which start at `index` of the input. -/
def faultFrom? (index : Nat) : Bytes → Option Utf8Fault
  | [] => none
  | lead :: rest =>
    if lead < 0x80 then faultFrom? (index + 1) rest
    else match continuation? lead with
      | none => some ⟨index, some 1⟩
      | some (count, low, high) =>
        match defect? low high count 1 rest with
        | some invalid => some ⟨index, invalid⟩
        | none => faultFrom? (index + 1 + count) (rest.drop count)
termination_by bytes => bytes.length
decreasing_by all_goals simp only [List.length_cons, List.length_drop]; omega

/-! ### Reading -/

/-- The text that the bytes write in UTF-8. -/
def ofBytes (bytes : Bytes) : Except Utf8Fault String :=
  match String.fromUTF8? ⟨bytes.toArray⟩ with
  | some text => .ok text
  | none => .error ((faultFrom? 0 bytes).getD ⟨0, none⟩)

/-- Whether every byte is in the ASCII range. -/
def isAscii (bytes : Bytes) : Bool := bytes.all (· < 0x80)

@[simp] theorem ofBytes_bytes (text : String) : ofBytes (bytes text) = .ok text := by
  have h : (⟨text.toByteArray.data.toList.toArray⟩ : ByteArray) = text.toByteArray := by simp
  simp [ofBytes, bytes, String.fromUTF8?, h, text.isValidUTF8, String.fromUTF8]

theorem bytes_of_ofBytes {input : Bytes} {text : String} (h : ofBytes input = .ok text) :
    bytes text = input := by
  unfold ofBytes at h
  split at h
  · next found hfound =>
    obtain rfl := Except.ok.inj h
    unfold String.fromUTF8? at hfound
    split at hfound
    · obtain rfl := Option.some.inj hfound
      simp [bytes, String.fromUTF8]
    · simp at hfound
  · simp at h

end Registrar.Text
