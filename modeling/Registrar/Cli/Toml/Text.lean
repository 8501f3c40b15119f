import Registrar.Json.Reader

namespace Registrar.Cli.Toml

/-!
# Keys and strings of TOML documents

* `skipBlanks`, `finishLine?`, `skipLines` — what stands between the parts of a
  document;
* `readString` — a string with any of the four marks;
* `readKey` — a key of one or several parts.

Every read takes at least one character, so the length of the text bounds the
number of consecutive reads.
-/

/-! ### Blanks, comments and line ends -/

/-- Whether the character may stand between two parts of a line. -/
def isBlank (c : Char) : Bool := c == ' ' || c == '\t'

/-- The text without blanks in front. -/
def skipBlanks (text : List Char) : List Char := text.dropWhile isBlank

/-- Whether the character may stand in a comment or a string. -/
def isPlain (c : Char) : Bool := c == '\t' || (0x20 ≤ c.toNat && c.toNat ≠ 0x7F)

/-- The text without a comment in front. -/
def skipComment : List Char → List Char
  | '#' :: rest => rest.dropWhile isPlain
  | text => text

/-- The text behind a line end, or the empty text. -/
def lineEnd? : List Char → Option (List Char)
  | [] => some []
  | '\n' :: rest => some rest
  | '\r' :: '\n' :: rest => some rest
  | _ => none

/-- What stands behind the blanks, the comment and the line end in front. -/
def finishLine? (text : List Char) : Option (List Char) :=
  lineEnd? (skipComment (skipBlanks text))

/-- The text without blank lines, comments and blanks in front, with at most `fuel`
    lines. -/
def skipLines : (fuel : Nat) → List Char → List Char
  | 0, text => text
  | fuel + 1, text =>
    match skipComment (skipBlanks text) with
    | '\n' :: rest => skipLines fuel rest
    | '\r' :: '\n' :: rest => skipLines fuel rest
    | rest => rest

/-! ### Strings -/

/-- The number that hexadecimal digits write. -/
def hexValue? (digits : List Char) : Option Nat :=
  digits.foldlM (fun n c => (Json.hexDigit? c).map fun digit => n * 16 + digit) 0

/-- The character with a number, if it has one. -/
def charOf? (code : Nat) : Option Char :=
  if code.isValidChar then some (Char.ofNat code) else none

/-- The character that an escape stands for, and what stands behind the escape. -/
def readEscape : List Char → Option (Char × List Char)
  | 'u' :: rest => do
    let code ← hexValue? (rest.take 4)
    if (rest.take 4).length = 4 then return (← charOf? code, rest.drop 4) else none
  | 'U' :: rest => do
    let code ← hexValue? (rest.take 8)
    if (rest.take 8).length = 8 then return (← charOf? code, rest.drop 8) else none
  | c :: rest => (Json.escaped? c).bind fun value => if c = '/' then none else some (value, rest)
  | [] => none

/-- The text without the blanks and line ends in front. -/
def skipLineEnds : List Char → List Char
  | [] => []
  | '\n' :: rest => skipLineEnds rest
  | '\r' :: '\n' :: rest => skipLineEnds rest
  | c :: rest => if isBlank c then skipLineEnds rest else c :: rest

/-- The text behind a backslash that ends a line, without the blanks and line ends
    that follow. -/
def skipContinuation? (text : List Char) : Option (List Char) :=
  (lineEnd? (skipBlanks text)).map skipLineEnds

/-- The quotation marks that a string over several lines may end with before its
    closing mark: as many as make up one longer run, but two at most. -/
def lastQuotes (mark text : List Char) : List Char :=
  (text.takeWhile fun c => mark.head? == some c).take 2

/-- The characters of a string up to its closing mark; `lines` tells whether it may
    hold line ends, and `escapes` whether a backslash is special. -/
def readChars (escapes lines : Bool) (mark : List Char) :
    (fuel : Nat) → List Char → Option (List Char × List Char)
  | 0, _ => none
  | fuel + 1, text =>
    if mark.isPrefixOf text then
      let rest := text.drop mark.length
      let last := if lines then lastQuotes mark rest else []
      some (last, rest.drop last.length)
    else match text with
      | [] => none
      | '\r' :: '\n' :: rest =>
        if lines then readChars escapes lines mark fuel ('\n' :: rest) else none
      | c :: rest =>
        if c = '\\' && escapes then
          match if lines then skipContinuation? rest else none with
          | some rest => readChars escapes lines mark fuel rest
          | none => do
            let (value, rest) ← readEscape rest
            let (text, rest) ← readChars escapes lines mark fuel rest
            return (value :: text, rest)
        else if isPlain c || (lines && c == '\n') then do
          let (text, rest) ← readChars escapes lines mark fuel rest
          return (c :: text, rest)
        else none

/-- The text without the line end that may follow an opening mark. -/
def skipFirstLineEnd : List Char → List Char
  | '\n' :: rest => rest
  | '\r' :: '\n' :: rest => rest
  | text => text

/-- A string with any of the four marks. -/
def readString (text : List Char) : Option (String × List Char) := do
  let fuel := text.length + 1
  let (chars, rest) ← match text with
    | '"' :: '"' :: '"' :: rest => readChars true true "\"\"\"".toList fuel (skipFirstLineEnd rest)
    | '\'' :: '\'' :: '\'' :: rest => readChars false true "'''".toList fuel (skipFirstLineEnd rest)
    | '"' :: rest => readChars true false ['"'] fuel rest
    | '\'' :: rest => readChars false false ['\''] fuel rest
    | _ => none
  return (String.ofList chars, rest)

/-! ### Keys -/

/-- Whether the character may stand in a key without quotation marks. -/
def isBare (c : Char) : Bool := c.isAlphanum || c == '_' || c == '-'

/-- One part of a key. -/
def readKeyPart (text : List Char) : Option (String × List Char) :=
  match text with
  | '"' :: '"' :: '"' :: _ => none
  | '\'' :: '\'' :: '\'' :: _ => none
  | '"' :: _ => readString text
  | '\'' :: _ => readString text
  | _ =>
    let bare := text.takeWhile isBare
    if bare.isEmpty then none else some (String.ofList bare, text.dropWhile isBare)

/-- The parts of a key, with dots between them. -/
def readKeyParts : (fuel : Nat) → List Char → Option (List String × List Char)
  | 0, _ => none
  | fuel + 1, text => do
    let (part, rest) ← readKeyPart (skipBlanks text)
    match skipBlanks rest with
    | '.' :: rest =>
      let (parts, rest) ← readKeyParts fuel rest
      return (part :: parts, rest)
    | rest => return ([part], rest)

/-- How many parts a key may have, and how many values may be around another. -/
def deepest : Nat := 79

/-- A key of one or several parts. -/
def readKey (text : List Char) : Option (List String × List Char) := do
  let (parts, rest) ← readKeyParts text.length text
  if parts.length ≤ deepest then return (parts, rest) else none

end Registrar.Cli.Toml
