import EntityService.Text.Percent
import EntityService.Url.EncodeSet

/-! Paths that are lists of segments. A segment of one dot stands for the segment before it and one
of two dots takes that segment away, but never the root and never a drive letter. -/
namespace EntityService.Url

open Text

/-- A dot may be percent-encoded. -/
def dots : List Char → Option Nat
  | [] => some 0
  | '.' :: cs => (dots cs).map (· + 1)
  | '%' :: '2' :: 'e' :: cs | '%' :: '2' :: 'E' :: cs => (dots cs).map (· + 1)
  | _ => none

def isDriveLetter : List Char → Bool
  | [letter, mark] => letter.isAlpha && (mark == ':' || mark == '|')
  | _ => false

/-- The segments without the last one, which comes first here. -/
def shorten : List (List Char) → List (List Char)
  | [] => []
  | last :: before => if isDriveLetter last then last :: before else before

/-- Goes on after segments that are kept with the last one in front. The first one is written as
`first` says. After dots at the end an empty segment remains. -/
def resolveDots (first : List Char → List Char) (kept : List (List Char)) :
    List (List Char) → List (List Char)
  | [] => kept.reverse
  | segment :: rest =>
    let ending := if rest.isEmpty then [[]] else []
    match dots segment with
    | some 1 => resolveDots first (ending ++ kept) rest
    | some 2 => resolveDots first (ending ++ shorten kept) rest
    | _ => resolveDots first ((if kept.isEmpty then first segment else segment) :: kept) rest

def joinSegments (segments : List (List Char)) : List Char :=
  segments.flatMap ('/' :: ·)

def isSlash (special : Bool) (c : Char) : Bool := c == '/' || (special && c == '\\')

/-- The segments between slashes. -/
def segments (special : Bool) (cs : List Char) : List (List Char) :=
  (cs.map fun c => if isSlash special c then '/' else c).splitOn '/'

/-- The slash that begins a path belongs to no segment. -/
def withoutSlash (special : Bool) : List Char → List Char
  | [] => []
  | c :: cs => if isSlash special c then cs else c :: cs

def encodedSegments (special : Bool) (cs : List Char) : List (List Char) :=
  (segments special cs).map (Percent.encode EncodeSet.path)

/-- The normal form of a path that is a list of segments. -/
def segmentPath (special : Bool) (cs : List Char) : List Char :=
  joinSegments (resolveDots id [] (encodedSegments special (withoutSlash special cs)))

/-- A drive letter is followed by a colon. -/
def normalDrive (segment : List Char) : List Char :=
  if isDriveLetter segment then segment.take 1 ++ [':'] else segment

/-- The segments of the path of a file, of which the first may be a drive letter. -/
def fileSegments (cs : List Char) : List (List Char) :=
  resolveDots normalDrive [] (encodedSegments true cs)

def beginsWithDrive (segments : List (List Char)) : Bool := segments.head?.any isDriveLetter

/-- The path of a file begins with its first segment that is not empty. -/
def filePath (segments : List (List Char)) : List Char :=
  let segments := segments.dropWhile (·.isEmpty)
  joinSegments (if segments.isEmpty then [[]] else segments)

end EntityService.Url
