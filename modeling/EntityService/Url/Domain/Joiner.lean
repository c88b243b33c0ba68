import EntityService.Text.CombiningClass
import EntityService.Text.Joining

/-! Characters without a width that join their neighbours or keep them apart. They are allowed where
they change what is seen: after a sign that takes the vowel from a consonant, and, to keep apart,
between letters that would join. -/
namespace EntityService.Url.Domain

open Text

def nonJoiner : Char := Char.ofNat 0x200C

def joiner : Char := Char.ofNat 0x200D

def endsInVirama (before : List Char) : Bool :=
  before.head?.any fun c => combiningClass c == viramaClass

/-- Letters before and behind would join. The text before is read backwards. -/
def wouldJoin (before behind : List Char) : Bool :=
  (before.dropWhile isTransparent).head?.any joinsNext &&
    (behind.dropWhile isTransparent).head?.any joinsPrevious

def joinersFit (before : List Char) : List Char → Bool
  | [] => true
  | c :: cs =>
    let fits :=
      if c == joiner then endsInVirama before
      else c != nonJoiner || endsInVirama before || wouldJoin before cs
    fits && joinersFit (c :: before) cs

end EntityService.Url.Domain
