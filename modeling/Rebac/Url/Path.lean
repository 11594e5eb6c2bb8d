import Rebac.Text.Affix
import Rebac.Text.Percent
import Rebac.Url.Scheme

/-! # Paths

A path is a list of segments, each after a slash. Segments of one or two dots are resolved. The
letter of a drive is never left. At the start of a path of the file system it is written with a
colon, and what stands behind it there is a segment of its own. -/

namespace Rebac.Url

/-- The characters of a path that stand in percent form. -/
def escapesInPath (c : Char) : Bool := c ∈ [' ', '"', '#', '<', '>', '?', '\x60', '\x7b', '\x7d']

/-- Whether a segment means the directory it stands in. -/
def isSingleDot (segment : List Char) : Bool :=
  Text.asciiLower (String.ofList segment) ∈ [".", "%2e"]

/-- Whether a segment means the directory above. -/
def isDoubleDot (segment : List Char) : Bool :=
  Text.asciiLower (String.ofList segment) ∈ ["..", ".%2e", "%2e.", "%2e%2e"]

/-- Whether a segment is the letter of a drive. -/
def isDrive : List Char → Bool
  | [c, mark] => c.isAlpha && (mark = ':' || mark = '|')
  | _ => false

/-- The segments that the text of one stands for behind `above`, the segments so far, last first. -/
def placed (kind : SchemeKind) (above : List (List Char)) (segment : List Char) :
    List (List Char) :=
  match kind, above, segment with
  | .file, [], [c, mark] =>
    [if isDrive [c, mark] then [c, ':'] else Text.percentEncode escapesInPath [c, mark]]
  | .file, [], c :: ':' :: rest =>
    if c.isAlpha then [Text.percentEncode escapesInPath rest, [c, ':']]
    else [Text.percentEncode escapesInPath segment]
  | _, _, _ => [Text.percentEncode escapesInPath segment]

/-- The segments of the directory above. -/
def parent : List (List Char) → List (List Char)
  | [] => []
  | segment :: above => if isDrive segment then segment :: above else above

/-- The segments after one more. -/
def follow (kind : SchemeKind) (above : List (List Char)) (segment : List Char) :
    List (List Char) :=
  if isDoubleDot segment then parent above
  else if isSingleDot segment then above
  else placed kind above segment ++ above

/-- Resolves segments behind `above`, the segments so far, last first. Where dots stand last, the
path ends with a slash. -/
def resolveSegments (kind : SchemeKind) (above : List (List Char)) :
    List (List Char) → List (List Char)
  | [] => above.reverse
  | segment :: rest =>
    let above := follow kind above segment
    if rest.isEmpty && (isDoubleDot segment || isSingleDot segment) then ([] :: above).reverse
    else resolveSegments kind above rest

/-- Whether a path of the file system begins, once resolved, with a segment that is a drive. -/
def entersDrive (above : List (List Char)) : List (List Char) → Bool
  | [] => false
  | segment :: rest =>
    (above.isEmpty && isDrive segment) || entersDrive (follow .file above segment) rest

/-- The segments of a path, whose first slash may be left out. -/
def segments (kind : SchemeKind) (cs : List Char) : List (List Char) :=
  match cs with
  | [] => [[]]
  | c :: rest => (if kind.isSlash c then rest else c :: rest).splitOnP kind.isSlash

/-- Segments, each after a slash. -/
def slashed (segments : List (List Char)) : String :=
  String.join (segments.map fun segment => "/" ++ String.ofList segment)

/-- A path in its normal form. -/
def pathText (kind : SchemeKind) (cs : List Char) : String :=
  slashed (resolveSegments kind [] (segments kind cs))

/-- A path of the file system in its normal form, which begins with one slash. -/
def filePathText (segments : List (List Char)) : String :=
  match (resolveSegments .file [] segments).dropWhile List.isEmpty with
  | [] => "/"
  | segments => slashed segments

end Rebac.Url
