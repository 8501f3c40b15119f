import Registrar.Value.Basic

namespace Registrar.Value

/-!
# Values as literals

The text of a value in the contract language: numbers in decimal, an unsigned one
after a `u`, buffers in hexadecimal after `0x`, strings between quotation marks
and everything composed between parentheses.

* `BufferStyle` — whether buffers of printable bytes are shown as strings;
* `literal` — the text of a value.
-/

/-- How buffers are shown. -/
inductive BufferStyle where
  /-- Always in hexadecimal. -/
  | hex
  /-- As a string if there is a byte and all are printable. -/
  | tryAscii
deriving DecidableEq

/-! ### Strings -/

/-- Whether the byte is a printable ASCII character. -/
def isPrintable (byte : UInt8) : Bool := 0x20 ≤ byte && byte ≤ 0x7E

/-- A byte within quotation marks. -/
def escapeByte (byte : UInt8) : List Char :=
  if byte = 9 then ['\\', 't']
  else if byte = 13 then ['\\', 'r']
  else if byte = 10 then ['\\', 'n']
  else if byte = 34 || byte = 39 || byte = 92 then ['\\', Char.ofNat byte.toNat]
  else if isPrintable byte then [Char.ofNat byte.toNat]
  else '\\' :: 'x' :: Hex.digits byte

/-- Bytes between quotation marks. -/
def quotedBytes (bytes : Bytes) : List Char := '"' :: bytes.flatMap escapeByte ++ ['"']

/-- A character within the quotation marks of a UTF-8 string. -/
def escapeChar (c : Char) : List Char :=
  if c.toNat < 0x80 then escapeByte (UInt8.ofNat c.toNat)
  else '\\' :: 'u' :: '\x7b' :: Nat.toDigits 16 c.toNat ++ ['\x7d']

/-- Whether a buffer is shown as a string. -/
def shownAsText (style : BufferStyle) (bytes : Bytes) : Bool :=
  style == .tryAscii && !bytes.isEmpty && bytes.all isPrintable

/-! ### Values -/

mutual

/-- The characters of the literal of a value. -/
def literalChars (style : BufferStyle) : Value → List Char
  | int number => (toString number.toInt).toList
  | uint number => 'u' :: (toString number.toNat).toList
  | bool flag => (if flag then "true" else "false").toList
  | buffer bytes =>
    if shownAsText style bytes then quotedBytes bytes
    else '0' :: 'x' :: bytes.flatMap Hex.digits
  | principal p => p.toText.toList
  | none => "none".toList
  | some value => "(some ".toList ++ literalChars style value ++ [')']
  | response committed data =>
    (if committed then "(ok " else "(err ").toList ++ literalChars style data ++ [')']
  | list items => "(list".toList ++ itemsChars style items ++ [')']
  | tuple ⟨keys, _, value⟩ =>
    "(tuple".toList
      ++ (List.finRange keys.length).flatMap (fun i =>
        " (".toList ++ keys[i].text.toList ++ [' '] ++ literalChars style (value i) ++ [')'])
      ++ [')']
  | ascii text => quotedBytes (Text.bytes text)
  | utf8 text => 'u' :: '"' :: text.toList.flatMap escapeChar ++ ['"']
termination_by structural v => v

/-- The characters of the items of a list, each after a blank. -/
def itemsChars (style : BufferStyle) : List Value → List Char
  | [] => []
  | item :: items => ' ' :: literalChars style item ++ itemsChars style items
termination_by structural items => items

end

/-- The literal of a value. -/
def literal (value : Value) (style : BufferStyle) : String :=
  String.ofList (literalChars style value)

/-- The literal of a value with buffers in hexadecimal. -/
def toText (value : Value) : String := value.literal .hex

end Registrar.Value
