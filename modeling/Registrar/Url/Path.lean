import Registrar.Text.Split
import Registrar.Url.Percent

namespace Registrar.Url

/-!
# Paths

A path is a list of segments. A segment of one dot stands for nothing, and one of two
dots takes away the segment before it.

* `readSegments` — the segments of a path, without such dots;
* `pathText` — the path that segments make up;
* `isDrive`, `withDrive` — the letter of a drive, which a path of a file may begin with.
-/

/-! ### Segments of dots -/

/-- How many dots a segment is made of, if it is made of dots alone; a dot may be
    escaped. -/
def dotCount? : List Char → Option Nat
  | [] => some 0
  | '.' :: rest => (dotCount? rest).map (· + 1)
  | '%' :: '2' :: c :: rest =>
    if c = 'e' || c = 'E' then (dotCount? rest).map (· + 1) else none
  | _ => none

/-! ### Letters of drives -/

/-- Whether a segment is the letter of a drive and a colon or a bar. -/
def isDrive : List Char → Bool
  | [letter, mark] => letter.isAlpha && (mark = ':' || mark = '|')
  | _ => false

/-- The segment with a colon behind the letter, if it is one of a drive. -/
def withDrive (segment : List Char) : List Char :=
  if isDrive segment then segment.take 1 ++ [':'] else segment

/-- Whether a segment, or what stands in it before a backslash, is the letter of a
    drive. -/
def beginsWithDrive (segment : List Char) : Bool :=
  isDrive (segment.takeWhile (· ≠ '\\'))

/-! ### Paths -/

/-- Segments without the last one, which stays if it is the letter of a drive. -/
def shortened (segments : List (List Char)) : List (List Char) :=
  if segments.getLast?.any beginsWithDrive then segments else segments.dropLast

/-- The segments behind others that are read already. A path that ends in a segment of
    dots ends in an empty one; `isFile` tells whether the first segment may be the letter
    of a drive. -/
def readBehind (isFile : Bool) (front : List (List Char)) : List (List Char) → List (List Char)
  | [] => front
  | segment :: rest =>
    let end? := if rest.isEmpty then [[]] else []
    match dotCount? segment with
    | some 2 => readBehind isFile (shortened front ++ end?) rest
    | some 1 => readBehind isFile (front ++ end?) rest
    | _ =>
      let segment := if isFile && front.isEmpty then withDrive segment else segment
      readBehind isFile (front ++ [segment]) rest

/-- The segments of a path, whose first slash is left out. -/
def readSegments (isFile isWeb : Bool) (written : List Char) : List (List Char) :=
  let written := if isFile || isWeb then written.map fun c => if c = '\\' then '/' else c
    else written
  readBehind isFile [] ((Text.splitAll '/' written).map (encode .path))

/-- The path that segments make up. -/
def pathText (segments : List (List Char)) : List Char := segments.flatMap ('/' :: ·)

/-- The segments of the path of a file, without empty ones in front. -/
def withoutEmptyFront (segments : List (List Char)) : List (List Char) :=
  match segments.dropWhile List.isEmpty with
  | [] => [[]]
  | segments => segments

end Registrar.Url
