import EntityService.Url.Domain.Bidi
import EntityService.Url.Domain.Label

/-! The name of a domain in ASCII. -/
namespace EntityService.Url.Domain

open Text

/-- The labels of a name stand between dots, and any of them may be empty. -/
def labels? (cs : List Char) : Option (List (List Char)) := do
  let labels ← ((normalForm (← meanings? cs)).splitOn '.').mapM label?
  if keepDirections labels then return labels else none

def asciiName? (cs : List Char) : Option (List Char) :=
  (labels? cs).map fun labels => ['.'].intercalate (labels.map asciiLabel)

end EntityService.Url.Domain
