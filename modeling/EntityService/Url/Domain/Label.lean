import EntityService.Text.Mark
import EntityService.Text.NormalForm
import EntityService.Url.Domain.Character
import EntityService.Url.Domain.Joiner
import EntityService.Url.Punycode

/-! The labels of a domain. One that is written in ASCII, because it has other characters, begins
with a mark of its own. -/
namespace EntityService.Url.Domain

open Text

def asciiMark : List Char := ['x', 'n', '-', '-']

/-- Characters that end a host or the parts around it. -/
def delimiters : List Char :=
  [' ', '#', '/', ':', '<', '>', '?', '@', '[', '\\', ']', '^', '|']

def isForbidden (c : Char) : Bool :=
  c < ' ' || c == '\x7f' || c == '%' || delimiters.contains c

/-- The longest label of other characters than ASCII. -/
def longest : Nat := 1000

/-- The longest text that is read as such a label. -/
def longestWritten : Nat := 2000

/-- A label does not begin with a mark. -/
def isLabel (label : List Char) : Bool :=
  !label.any isForbidden && !label.head?.any (inRanges markRanges ·.toNat) &&
    joinersFit [] label && (label.all isAscii || label.length ≤ longest)

/-- Each character stands for itself, and nothing is left to compose. -/
def isPlain (label : List Char) : Bool := meanings? label == some label && normalForm label == label

/-- A label is written in ASCII only if it has other characters. -/
def decoded? (written : List Char) : Option (List Char) := do
  let label ← if written.length ≤ longestWritten then Punycode.decode? written else none
  if isPlain label && !label.all isAscii then return label else none

/-- The label that is meant. -/
def label? (text : List Char) : Option (List Char) := do
  let label ← match asciiMark.isPrefixOf? text with
    | some written => decoded? written
    | none => some text
  if isLabel label then return label else none

def asciiLabel (label : List Char) : List Char :=
  if label.all isAscii then label else asciiMark ++ Punycode.encode label

end EntityService.Url.Domain
