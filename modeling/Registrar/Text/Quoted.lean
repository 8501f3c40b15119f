import Registrar.Text.Printed

namespace Registrar.Text

/-!
# Quoted text

Messages show a text that a user gave between quotation marks, with everything
that a reader could not see or that would end the quotation escaped.

* `quoted` — a text between double quotation marks;
* `quotedChar` — one character between single quotation marks.
-/

/-- The number of a character in lower-case hex between braces. -/
def numbered (c : Char) : List Char :=
  "\\u\x7b".toList ++ Nat.toDigits 16 c.toNat ++ ['\x7d']

/-- One character inside a quotation closed by `mark`. -/
def quotedBy (mark c : Char) : List Char :=
  if c = '\x00' then ['\\', '0']
  else if c = '\t' then ['\\', 't']
  else if c = '\r' then ['\\', 'r']
  else if c = '\n' then ['\\', 'n']
  else if c = '\\' || c = mark then ['\\', c]
  else if isPrinted c then [c]
  else numbered c

/-- A text between double quotation marks. -/
def quoted (text : String) : String :=
  String.ofList ('"' :: text.toList.flatMap (quotedBy '"') ++ ['"'])

/-- One character between single quotation marks. -/
def quotedChar (c : Char) : String :=
  String.ofList ('\'' :: quotedBy '\'' c ++ ['\''])

end Registrar.Text
