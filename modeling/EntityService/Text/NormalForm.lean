import EntityService.Text.CombiningClass
import EntityService.Text.Composite

/-! The composed normal form of a text. Characters are taken apart, marks are put in the order of
their classes, and then every character takes up the marks and letters that it can be composed
with. Characters that Unicode takes apart for good are left as they are. -/
namespace EntityService.Text

/-- What a character consists of. The syllables of Hangul need not be taken apart here. -/
def decomposition (c : Char) : List Char :=
  ((composites.lookup c.toNat).map (·.map Char.ofNat)).getD [c]

/-- A leading consonant of Hangul takes up a vowel, and the two take up a trailing consonant. -/
def syllable? (a b : Nat) : Option Nat :=
  if 0x1100 ≤ a ∧ a < 0x1113 ∧ 0x1161 ≤ b ∧ b < 0x1176 then
    some (0xAC00 + ((a - 0x1100) * 21 + (b - 0x1161)) * 28)
  else if 0xAC00 ≤ a ∧ a < 0xD7A4 ∧ (a - 0xAC00) % 28 = 0 ∧ 0x11A7 < b ∧ b < 0x11C3 then
    some (a + (b - 0x11A7))
  else none

/-- The character composed of two. -/
def composed? (a b : Char) : Option Char :=
  let parts := (decomposition a ++ [b]).map Char.toNat
  ((syllable? a.toNat b.toNat).or ((composites.find? (·.2 == parts)).map (·.1))).map Char.ofNat

/-- Puts a character in front of a text, but a mark behind the marks of lower classes. -/
def insertMark (c : Char) : List Char → List Char
  | [] => [c]
  | d :: ds =>
    if 0 < combiningClass d ∧ combiningClass d < combiningClass c then d :: insertMark c ds
    else c :: d :: ds

def orderMarks (cs : List Char) : List Char := cs.foldr insertMark []

/-- A mark cannot reach the character it belongs to behind one that touches it. -/
def isBlocked (kept : List Char) (c : Char) : Bool :=
  kept.head?.any fun k => combiningClass c ≤ combiningClass k

/-- Goes on after a character and the marks that it has not taken up, the last one in front. -/
def composeFrom (base : Char) (kept : List Char) : List Char → List Char
  | [] => base :: kept.reverse
  | c :: cs =>
    match if isBlocked kept c then none else composed? base c with
    | some base => composeFrom base kept cs
    | none =>
      if combiningClass c = 0 then base :: (kept.reverse ++ composeFrom c [] cs)
      else composeFrom base (c :: kept) cs

def normalForm (cs : List Char) : List Char :=
  match orderMarks (cs.flatMap decomposition) with
  | [] => []
  | c :: cs => composeFrom c [] cs

end EntityService.Text
