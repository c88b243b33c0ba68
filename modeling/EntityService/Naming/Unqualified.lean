/-! A qualified name is a namespace, a dot and a simple name; the simple name follows the last
dot. -/
namespace EntityService.Naming

def qualify (space name : String) : String := space ++ "." ++ name

def isQualified (name : String) : Bool := name.toList.contains '.'

/-- The characters after the last dot, or all of them. -/
def afterLastDot (cs : List Char) : List Char := (cs.reverse.takeWhile (· != '.')).reverse

def unqualified (name : String) : String := String.ofList (afterLastDot name.toList)

end EntityService.Naming
