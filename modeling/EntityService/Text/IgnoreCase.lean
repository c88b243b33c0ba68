/-! Letter case is ignored for ASCII letters only; every other character stands for itself. -/
namespace EntityService.Text

def lower (s : String) : String := String.ofList (s.toList.map Char.toLower)

/-- Equal up to the case of ASCII letters. -/
def sameIgnoringCase (s t : String) : Bool := lower s == lower t

end EntityService.Text
