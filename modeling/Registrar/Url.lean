import Registrar.Url.Host
import Registrar.Url.Path

namespace Registrar

/-!
# Addresses of node interfaces

* `Url` — an address in its normal form: scheme and host in small letters, no port that
  the scheme implies, no segments of dots in the path, and everything escaped that would
  not be read as itself;
* `Url.parse` — the normal form of an address given as text;
* `Url.text` — the address as it is written;
* `Url.hasPath` — whether other addresses can stand below it.
-/

/-- Where the host of an address is, and as whom it is asked. -/
structure Authority where
  /-- The user, and the password behind a colon. -/
  user : List Char := []
  host : Url.Host
  port : Option UInt16 := none
deriving DecidableEq

/-- The address of an interface, in its normal form. -/
structure Url where
  scheme : String
  authority : Option Authority
  path : List Char
  query : Option (List Char) := none
  fragment : Option (List Char) := none
deriving DecidableEq

/-- The authority as it is written. -/
def Authority.text (authority : Authority) : List Char :=
  (if authority.user.isEmpty then [] else authority.user ++ ['@']) ++ authority.host.text ++
    match authority.port with
    | some port => ':' :: Nat.toDigits 10 port.toNat
    | none => []

namespace Url

/-- The address as it is written. A path that begins with two slashes is kept apart from
    an authority. -/
def text (url : Url) : String :=
  let place := match url.authority with
    | some authority => ['/', '/'] ++ authority.text
    | none => if ['/', '/'].isPrefixOf url.path then ['/', '.'] else []
  let query := url.query.elim [] ('?' :: ·)
  let fragment := url.fragment.elim [] ('#' :: ·)
  url.scheme ++ ":" ++ String.ofList (place ++ url.path ++ query ++ fragment)

/-- Whether the address has a path that another one can stand below. -/
def hasPath (url : Url) : Bool := url.authority.isSome || url.path.head? = some '/'

/-! ### Schemes -/

/-- What the scheme of an address tells about it. -/
inductive Kind where
  /-- It is an address of the web, at a host with an implied port. -/
  | web (port : UInt16)
  /-- It is a file. -/
  | file
  | other
deriving DecidableEq

/-- The schemes that are not like all others. -/
def kinds : List (String × Kind) :=
  [("http", .web 80), ("https", .web 443), ("ws", .web 80), ("wss", .web 443), ("ftp", .web 21),
   ("file", .file)]

/-- What a scheme tells. -/
def Kind.ofScheme (scheme : String) : Kind := (kinds.lookup scheme).getD .other

/-- Whether a backslash counts as a slash, and a host is a domain name. -/
def Kind.isSpecial (kind : Kind) : Bool := kind ≠ .other

/-- Whether a character begins a new part of an address. -/
def Kind.isBreak (kind : Kind) (c : Char) : Bool :=
  c = '/' || c = '?' || c = '#' || kind.isSpecial && c = '\\'

/-- Whether the character counts as a slash. -/
def isSlash (c : Char) : Bool := c = '/' || c = '\\'

/-! ### Authorities -/

/-- What stands before and after the last of some characters, if it is there. -/
def splitLast? (mark : Char) (text : List Char) : Option (List Char × List Char) :=
  (Text.splitFirst? [mark] text.reverse).map fun (after, before) => (before.reverse, after.reverse)

/-- The user and the password as they are written. -/
def readUser (written : List Char) : List Char :=
  let (name, password) := (Text.splitFirst? [':'] written).getD (written, [])
  encode .user name ++ if password.isEmpty then [] else ':' :: encode .user password

/-- What stands before and after the first colon that is not between brackets. -/
def splitPort? (bracketed : Bool) : List Char → Option (List Char × List Char)
  | [] => none
  | c :: rest =>
    if c = ':' && !bracketed then some ([], rest)
    else (splitPort? (c = '[' || (bracketed && c ≠ ']')) rest).map fun (host, port) =>
      (c :: host, port)

/-- The port that digits write, unless there are none or the scheme implies it. -/
def readPort (kind : Kind) (digits : List Char) : Except UrlFault (Option UInt16) := do
  if digits.isEmpty then return none
  match Text.readDigits UInt16.size 0 digits with
  | .error _ => throw .badPort
  | .ok number =>
    let port := UInt16.ofNat number
    return if kind = .web port then none else some port

/-- The host and the port in front of a text, and what stands behind them. -/
def readPlace (kind : Kind) (written rest : List Char) :
    Except UrlFault (Host × Option UInt16 × List Char) := do
  let readHost := if kind.isSpecial then Host.ofName else Host.ofPlain
  let (host, port) := match splitPort? false written with
    | some (host, port) => (host, some port)
    | none => (written, none)
  if kind.isSpecial && host.isEmpty then throw .emptyHost
  let host ← readHost host
  match port with
  | none => return (host, none, rest)
  | some port =>
    if host = .empty then throw .emptyHost
    let digits := port.takeWhile Char.isDigit
    let behind := port.dropWhile Char.isDigit
    let port ← readPort kind digits
    if behind.isEmpty || behind.head? = some '\\' then return (host, port, behind ++ rest)
    throw .badPort

/-- The authority in front of a text, and what stands behind it. -/
def readAuthority (kind : Kind) (text : List Char) : Except UrlFault (Authority × List Char) := do
  let written := text.takeWhile fun c => !kind.isBreak c
  let rest := text.dropWhile fun c => !kind.isBreak c
  let (user, place) ← match splitLast? '@' written with
    | none => pure ([], written)
    | some (user, place) =>
      if user.isEmpty && place.isEmpty && !rest.isEmpty then throw .emptyHost
      pure (readUser user, place)
  let (host, port, rest) ← readPlace kind place rest
  if host = .empty && !user.isEmpty then throw .emptyHost
  return (⟨user, host, port⟩, rest)

/-! ### What stands behind -/

/-- The path of an address, before its query and its fragment. -/
def beforeQuery (text : List Char) : List Char := text.takeWhile fun c => c ≠ '?' && c ≠ '#'

/-- An address with the query and the fragment in a text behind its path. -/
def withQuery (kind : Kind) (url : Url) (text : List Char) : Url :=
  let text := text.dropWhile fun c => c ≠ '?' && c ≠ '#'
  let (front, fragment) := match Text.splitFirst? ['#'] text with
    | some (front, fragment) => (front, some (encode .fragment fragment))
    | none => (text, none)
  let query := match front with
    | [] => none
    | _ :: query => some (encode (.query kind.isSpecial) query)
  { url with query, fragment }

/-- The text without a slash in front. -/
def withoutSlash : List Char → List Char
  | [] => []
  | c :: rest => if isSlash c then rest else c :: rest

/-- An address of the web, without its scheme. -/
def readWeb (scheme : String) (kind : Kind) (text : List Char) : Except UrlFault Url := do
  let (authority, rest) ← readAuthority kind (text.dropWhile isSlash)
  let path := pathText (readSegments false true (beforeQuery (withoutSlash rest)))
  return withQuery kind { scheme, authority := some authority, path } rest

/-- The path of an address with any other scheme, behind an authority. -/
def pathBehind (rest : List Char) : List Char :=
  match beforeQuery rest with
  | [] => []
  | '/' :: path => pathText (readSegments false false path)
  | path => pathText (readSegments false false path)

/-- An address with any other scheme, without its scheme. -/
def readOther (scheme : String) (text : List Char) : Except UrlFault Url := do
  match text with
  | '/' :: '/' :: text =>
    let (authority, rest) ← readAuthority .other text
    return withQuery .other { scheme, authority := some authority, path := pathBehind rest } rest
  | '/' :: rest =>
    let path := pathText (readSegments false false (beforeQuery rest))
    return withQuery .other { scheme, authority := none, path } rest
  | rest =>
    let path := encode .plainPath (beforeQuery rest)
    return withQuery .other { scheme, authority := none, path } rest

/-! ### Files -/

/-- An address of a file at a host, with the text of its path. A path that begins with the
    letter of a drive is at no host. -/
def fileAt (host : Host) (rest : List Char) : Url :=
  let segments := readSegments true false (beforeQuery rest)
  let host := if segments.head?.any isDrive then .empty else host
  let path := pathText (withoutEmptyFront segments)
  withQuery .file { scheme := "file", authority := some { host }, path } rest

/-- An address of a file, without its scheme. -/
def readFile (text : List Char) : Except UrlFault Url := do
  match text with
  | [] => return fileAt .empty []
  | [c] => return fileAt .empty (withoutSlash [c])
  | c :: d :: rest =>
    if !isSlash c then return fileAt .empty (c :: d :: rest)
    if !isSlash d then return fileAt .empty (d :: rest)
    let written := rest.takeWhile fun c => !Kind.file.isBreak c
    if written.isEmpty || isDrive written then return fileAt .empty rest
    let behind := rest.dropWhile fun c => !Kind.file.isBreak c
    let host ← Host.ofName written
    if host = .name "localhost".toList then return fileAt .empty behind
    return fileAt host (withoutSlash behind)

/-! ### Addresses -/

/-- Whether a character is dropped wherever it stands. -/
def isLineMark (c : Char) : Bool := c = '\t' || c = '\n' || c = '\r'

/-- The text without controls and blanks around it, and without the ends of lines in
    it. -/
def cleaned (text : List Char) : List Char :=
  let isBlank (c : Char) : Bool := c.toNat ≤ 0x20
  let trimmed := ((text.dropWhile isBlank).reverse.dropWhile isBlank).reverse
  trimmed.filter fun c => !isLineMark c

/-- Whether a text is a scheme. -/
def isScheme : List Char → Bool
  | [] => false
  | first :: others =>
    first.isAlpha && others.all fun c => c.isAlphanum || c = '+' || c = '-' || c = '.'

/-- The normal form of an address. -/
def parse (text : String) : Except UrlFault Url := do
  match Text.splitFirst? [':'] (cleaned text.toList) with
  | none => throw .noScheme
  | some (scheme, rest) =>
    if !isScheme scheme then throw .noScheme
    let scheme := String.ofList (scheme.map Char.toLower)
    match Kind.ofScheme scheme with
    | .web port => readWeb scheme (.web port) rest
    | .file => readFile rest
    | .other => readOther scheme rest

end Url

end Registrar
