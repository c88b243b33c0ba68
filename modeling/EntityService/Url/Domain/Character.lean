import EntityService.Text.CharacterClass
import EntityService.Url.Domain.Disallowed
import EntityService.Url.Domain.Letter
import EntityService.Url.Domain.Ligature

/-! What the characters of a domain stand for. Capitals stand for small letters, and characters that
differ from others in form only stand for those. -/
namespace EntityService.Url.Domain

open Text

/-- Nothing comes of a character that a domain may not have. -/
def meaning? (c : Char) : Option (List Char) :=
  if isAscii c then some [c.toLower]
  else if inRanges ignoredRanges c.toNat then some []
  else match ligature? c.toNat, letter? c.toNat with
    | some codes, _ => some (codes.map Char.ofNat)
    | none, some code => some [Char.ofNat code]
    | none, none => if inRanges disallowedRanges c.toNat then none else some [c]

def meanings? (cs : List Char) : Option (List Char) := (cs.mapM meaning?).map List.flatten

end EntityService.Url.Domain
