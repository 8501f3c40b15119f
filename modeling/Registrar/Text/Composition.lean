import Registrar.Text.CombiningClass

namespace Registrar.Text

/-!
# Composed characters

A character with a mark can often be written as one character or as two. The composed
form of a text has as few characters as possible; texts that a reader cannot tell apart
have one composed form. Capital letters and characters that stand for others are left
out: they are replaced before a text is composed.

* `composites` — the characters that are made of two;
* `decomposed`, `composed` — a text taken apart, and put together again;
* `isComposed` — whether a text is its own composed form.
-/

/-! ### Pairs -/

/-- The second parts of characters, the first parts that they are put on, and the
    characters made of both, in one order. -/
def composites : List (Nat × String × String) :=
  [(0x300, "aeinouwyâêôüăēōơưαεηιουωϊϋеиἀἁ", "àèìǹòùẁỳầềồǜằḕṑờừὰὲὴὶὸὺὼῒῢѐѝἂἃ"),
   (0x300, "ἐἑἠἡἰἱὀὁὐὑὠὡ", "ἒἓἢἣἲἳὂὃὒὓὢὣ"),
   (0x301, "acegiklmnoprsuwyzâåæçêïôõøüăēō", "áćéǵíḱĺḿńóṕŕśúẃýźấǻǽḉếḯốṍǿǘắḗṓ"),
   (0x301, "ũơưαεηιουωϊϋгкἀἁἐἑἠἡἰἱὀὁὐὑὠὡ", "ṹớứάέήίόύώΐΰѓќἄἅἔἕἤἥἴἵὄὅὔὕὤὥ"),
   (0x302, "aceghijosuwyzạẹọ", "âĉêĝĥîĵôŝûŵŷẑậệộ"), (0x303, "aeinouvyâêôăơư", "ãẽĩñõũṽỹẫễỗẵỡữ"),
   (0x304, "aegiouyäæõöüǫȧȯαιυиуḷṛ", "āēḡīōūȳǟǣȭȫǖǭǡȱᾱῑῡӣӯḹṝ"),
   (0x306, "aegiouȩαιυаежиуạ", "ăĕğĭŏŭḝᾰῐῠӑӗӂйўặ"),
   (0x307, "abcdefghmnoprstwxyzśšṣ", "ȧḃċḋėḟġḣṁṅȯṗṙṡṫẇẋẏżṥṧṩ"),
   (0x308, "aehiotuwxyõūιυаежзиоучыэіәө", "äëḧïöẗüẅẍÿṏṻϊϋӓёӝӟӥӧӱӵӹӭїӛӫ"),
   (0x309, "aeiouyâêôăơư", "ảẻỉỏủỷẩểổẳởử"), (0x30A, "auwy", "åůẘẙ"), (0x30B, "ouу", "őűӳ"),
   (0x30C, "acdeghijklnorstuzüʒ", "ǎčďěǧȟǐǰǩľňǒřšťǔžǚǯ"), (0x30F, "aeioruѵ", "ȁȅȉȍȑȕѷ"),
   (0x311, "aeioru", "ȃȇȋȏȓȗ"), (0x313, "αεηιορυω", "ἀἐἠἰὀῤὐὠ"), (0x314, "αεηιορυω", "ἁἑἡἱὁῥὑὡ"),
   (0x31B, "ou", "ơư"), (0x323, "abdehiklmnorstuvwyzơư", "ạḅḍẹḥịḳḷṃṇọṛṣṭụṿẉỵẓợự"),
   (0x324, "u", "ṳ"), (0x325, "a", "ḁ"), (0x326, "st", "șț"), (0x327, "cdeghklnrst", "çḑȩģḩķļņŗşţ"),
   (0x328, "aeiou", "ąęįǫų"), (0x32D, "delntu", "ḓḙḽṋṱṷ"), (0x32E, "h", "ḫ"), (0x330, "eiu", "ḛḭṵ"),
   (0x331, "bdhklnrtz", "ḇḏẖḵḻṉṟṯẕ"),
   (0x338, "<=>←→↔⇐⇒⇔∃∈∋∣∥∼≃≅≈≍≡≤≥≲≳≶≷≺≻≼≽", "≮≠≯↚↛↮⇍⇏⇎∄∉∌∤∦≁≄≇≉≭≢≰≱≴≵≸≹⊀⊁⋠⋡"),
   (0x338, "⊂⊃⊆⊇⊑⊒⊢⊨⊩⊫⊲⊳⊴⊵", "⊄⊅⊈⊉⋢⋣⊬⊭⊮⊯⋪⋫⋬⋭"), (0x342, "αηιυωϊϋἀἁἠἡἰἱὐὑὠὡ", "ᾶῆῖῦῶῗῧἆἇἦἧἶἷὖὗὦὧ"),
   (0x653, "\u0627", "\u0622"),
   (0x654, "\u0627\u0648\u064a\u06c1\u06d2\u06d5", "\u0623\u0624\u0626\u06c2\u06d3\u06c0"),
   (0x655, "\u0627", "\u0625"), (0x93C, "नरळ", "ऩऱऴ"), (0x9BE, "\u09c7", "\u09cb"),
   (0x9D7, "\u09c7", "\u09cc"), (0xB3E, "\u0b47", "\u0b4b"), (0xB56, "\u0b47", "\u0b48"),
   (0xB57, "\u0b47", "\u0b4c"), (0xBBE, "\u0bc6\u0bc7", "\u0bca\u0bcb"),
   (0xBD7, "ஒ\u0bc6", "ஔ\u0bcc"), (0xC56, "\u0c46", "\u0c48"), (0xCC2, "\u0cc6", "\u0cca"),
   (0xCD5, "\u0cbf\u0cc6\u0cca", "\u0cc0\u0cc7\u0ccb"), (0xCD6, "\u0cc6", "\u0cc8"),
   (0xD3E, "\u0d46\u0d47", "\u0d4a\u0d4b"), (0xD57, "\u0d46", "\u0d4c"),
   (0xDCA, "\u0dd9\u0ddc", "\u0dda\u0ddd"), (0xDCF, "\u0dd9", "\u0ddc"),
   (0xDDF, "\u0dd9", "\u0dde"), (0x102E, "ဥ", "ဦ"),
   (0x1B35, "ᬅᬇᬉᬋᬍᬑ\u1b3a\u1b3c\u1b3e\u1b3f\u1b42", "ᬆᬈᬊᬌᬎᬒ\u1b3b\u1b3d\u1b40\u1b41\u1b43"),
   (0x3099, "うかきくけこさしすせそたちつてとはひふへほ\u309dウカキクケコサシ", "ゔがぎぐげござじずぜぞだぢづでどばびぶべぼ\u309eヴガギグゲゴザジ"),
   (0x3099, "スセソタチツテトハヒフヘホワヰヱヲ\u30fd", "ズゼゾダヂヅデドバビブベボヷヸヹヺ\u30fe"),
   (0x309A, "はひふへほハヒフヘホ", "ぱぴぷぺぽパピプペポ")]

/-- The first part, the second part and the number of the characters beyond the first
    plane that are made of two. -/
def farComposites : List (Nat × Nat × Nat) :=
  [(0x105D2, 0x307, 0x105C9), (0x105DA, 0x307, 0x105E4), (0x11099, 0x110BA, 0x1109A),
   (0x1109B, 0x110BA, 0x1109C), (0x110A5, 0x110BA, 0x110AB), (0x11131, 0x11127, 0x1112E),
   (0x11132, 0x11127, 0x1112F), (0x11347, 0x1133E, 0x1134B), (0x11347, 0x11357, 0x1134C),
   (0x11382, 0x113C9, 0x11383), (0x11384, 0x113BB, 0x11385), (0x1138B, 0x113C2, 0x1138E),
   (0x11390, 0x113C9, 0x11391), (0x113C2, 0x113C2, 0x113C5), (0x113C2, 0x113B8, 0x113C7),
   (0x113C2, 0x113C9, 0x113C8), (0x114B9, 0x114BA, 0x114BB), (0x114B9, 0x114B0, 0x114BC),
   (0x114B9, 0x114BD, 0x114BE), (0x115B8, 0x115AF, 0x115BA), (0x115B9, 0x115AF, 0x115BB),
   (0x11935, 0x11930, 0x11938), (0x1611E, 0x1611E, 0x16121), (0x1611E, 0x16129, 0x16122),
   (0x1611E, 0x1611F, 0x16123), (0x16129, 0x1611F, 0x16124), (0x1611E, 0x16120, 0x16125),
   (0x16121, 0x1611F, 0x16126), (0x16122, 0x1611F, 0x16127), (0x16121, 0x16120, 0x16128),
   (0x16D67, 0x16D67, 0x16D68), (0x16D63, 0x16D67, 0x16D69), (0x16D69, 0x16D67, 0x16D6A)]

/-- The place of a character in a text. -/
def place? (c : Char) (text : String) : Option Nat := text.toList.findIdx? (· == c)

/-- The two parts of a character. -/
def parts? (c : Char) : Option (Char × Char) :=
  if c.toNat < 0x10000 then
    composites.findSome? fun (second, firsts, wholes) => do
      let first ← firsts.toList[← place? c wholes]?
      return (first, Char.ofNat second)
  else
    farComposites.findSome? fun (first, second, whole) =>
      if whole = c.toNat then some (Char.ofNat first, Char.ofNat second) else none

/-- The character that is made of two. -/
def whole? (first second : Char) : Option Char :=
  if first.toNat < 0x10000 then
    composites.findSome? fun (number, firsts, wholes) =>
      if number = second.toNat then do wholes.toList[← place? first firsts]? else none
  else
    farComposites.findSome? fun (one, other, whole) =>
      if one = first.toNat && other = second.toNat then some (Char.ofNat whole) else none

/-! ### Korean syllables

A syllable is made of a leading consonant and a vowel, or of such a syllable and a
trailing consonant, and its number follows from theirs. -/

/-- Whether the first number is one of `count` from a start. -/
def isWithin (start count n : Nat) : Bool := start ≤ n && n < start + count

/-- The parts of a syllable. -/
def syllableParts (c : Char) : List Char :=
  let place := c.toNat - 0xAC00
  let leading := Char.ofNat (0x1100 + place / 588)
  let vowel := Char.ofNat (0x1161 + place % 588 / 28)
  if place % 28 = 0 then [leading, vowel]
  else [leading, vowel, Char.ofNat (0x11A7 + place % 28)]

/-- The syllable that is made of two parts. -/
def syllable? (first second : Char) : Option Char :=
  let (m, n) := (first.toNat, second.toNat)
  if isWithin 0x1100 19 m && isWithin 0x1161 21 n then
    some (Char.ofNat (0xAC00 + ((m - 0x1100) * 21 + (n - 0x1161)) * 28))
  else if isWithin 0xAC00 11172 m && (m - 0xAC00) % 28 = 0 && isWithin 0x11A8 27 n then
    some (Char.ofNat (m + (n - 0x11A7)))
  else none

/-! ### Texts -/

/-- The parts of a character, each of them taken apart up to `depth` times. -/
def partsWithin : (depth : Nat) → Char → List Char
  | 0, c => [c]
  | depth + 1, c =>
    match parts? c with
    | some (first, second) => partsWithin depth first ++ [second]
    | none => [c]

/-- A character taken apart; no character is put together more than twice. -/
def decomposedChar (c : Char) : List Char :=
  if c.toNat < 0x80 then [c]
  else if isWithin 0xAC00 11172 c.toNat then syllableParts c
  else partsWithin 2 c

/-- A text taken apart, its marks in the order of their classes. -/
def decomposed (text : List Char) : List Char := inMarkOrder (text.flatMap decomposedChar)

/-- A text put together behind a character and the marks that stay apart from it, the
    last one first. A mark is taken in unless one of its class or of a higher class
    stands between. -/
def composeBehind (first : Char) (marks : List Char) : List Char → List Char
  | [] => first :: marks.reverse
  | c :: rest =>
    -- a mark is held back by one before it whose class is not lower
    let isFree := match marks with
      | [] => true
      | mark :: _ => combiningClass mark < combiningClass c
    match if isFree then (syllable? first c <|> whole? first c) else none with
    | some whole => composeBehind whole marks rest
    | none =>
      if combiningClass c = 0 then first :: marks.reverse ++ composeBehind c [] rest
      else composeBehind first (c :: marks) rest

/-- The composed form of a text. -/
def composed (text : List Char) : List Char :=
  if text.all (·.toNat < 0x300) then text
  else match decomposed text with
    | [] => []
    | c :: rest => composeBehind c [] rest

/-- Whether a text is its own composed form. -/
def isComposed (text : List Char) : Bool := composed text == text

end Registrar.Text
