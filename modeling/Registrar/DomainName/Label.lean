import Registrar.DomainName.Mapping
import Registrar.DomainName.Punycode
import Registrar.Text.Composition
import Registrar.Text.Direction
import Registrar.Text.Joining

namespace Registrar.DomainName

/-!
# Labels of domain names

The labels of a domain name stand between its dots. A label with characters above ASCII
is also written in ASCII, behind the mark `xn--`.

* `readLabel?` — the characters of a label, its written form in ASCII read back;
* `asciiLabel` — its form in ASCII;
* `joinersFit`, `directionFits` — whether the joiners and the directions of writing in
  a label agree with its other characters.
-/

open Text (Direction Joining direction joining)

/-- Whether a text holds ASCII characters only. -/
def isAscii (text : List Char) : Bool := text.all (·.toNat < 0x80)

/-! ### Joiners -/

/-- Whether the first of some characters that is not passed over joins as wanted. -/
def joinNext (wanted : Joining) : List Char → Bool
  | [] => false
  | c :: rest =>
    match joining c with
    | .passed => joinNext wanted rest
    | .both => true
    | found => found = wanted

/-- Whether a joiner may stand behind some characters, the nearest one first, and in
    front of others: behind a mark that silences a vowel, or, where it parts letters,
    between letters that would be joined. -/
def joinerFits (joiner : Char) (before rest : List Char) : Bool :=
  match before with
  | [] => false
  | previous :: _ =>
    Text.combiningClass previous = 9 ||
      joiner.toNat = 0x200C && joinNext .after before && joinNext .before rest

/-- Whether all joiners in a text fit, which stands behind some characters, the nearest
    one first. -/
def joinersFit (before : List Char) : List Char → Bool
  | [] => true
  | c :: rest => (!isJoiner c || joinerFits c before rest) && joinersFit (c :: before) rest

/-! ### Directions -/

/-- Whether a text holds something that is written from right to left. -/
def hasRightToLeft (text : List Char) : Bool :=
  text.any fun c => direction c = .right || direction c = .arabic

/-- Whether a label keeps to one direction. It begins with a letter of its direction,
    ends with one or with a digit, marks apart, and holds no letter of the other one, nor
    both kinds of digits. -/
def directionFits (label : List Char) : Bool :=
  match label.map direction with
  | [] => true
  | first :: rest =>
    let body := rest.reverse.dropWhile (· = .mark)
    match first, body with
    | .left, [] | .right, [] => true
    | .left, last :: middle =>
      (last = .left || last = .european) &&
        middle.all fun d => d ≠ .right && d ≠ .arabic
    | .right, last :: middle =>
      (last = .right || last = .european || last = .arabic) && middle.all (· ≠ .left) &&
        !(body.contains .european && body.contains .arabic)
    | _, _ => false

/-! ### Labels -/

/-- What labels in ASCII that stand for others begin with. -/
def encodedMark : List Char := "xn--".toList

/-- The longest label that is written in ASCII, and the longest one that is read back. -/
def lengthLimits : Nat × Nat := (1000, 2000)

/-- Whether nothing in a text would be replaced, dropped or refused. -/
def isMapped (text : List Char) : Bool := text.all fun c => mapped? c = some [c]

/-- The label that a text behind the mark of encoded labels stands for. -/
def decodeLabel? (written : List Char) : Option (List Char) := do
  if !isAscii written || lengthLimits.2 < written.length then none
  if written.isEmpty || written.getLast? = some '-' then none
  let label ← Punycode.decode? written
  if isMapped label && Text.isComposed label then return label else none

/-- Whether the characters of a label fit each other. -/
def isValidLabel (label : List Char) : Bool :=
  isAscii label ||
    !label.head?.any Text.isMark && joinersFit [] label && label.length ≤ lengthLimits.1

/-- The characters of a label. -/
def readLabel? (written : List Char) : Option (List Char) := do
  let label ←
    if encodedMark.isPrefixOf written then decodeLabel? (written.drop encodedMark.length)
    else some written
  if isValidLabel label then return label else none

/-- The form of a label in ASCII. -/
def asciiLabel (label : List Char) : List Char :=
  if isAscii label then label else encodedMark ++ Punycode.encode label

end Registrar.DomainName
