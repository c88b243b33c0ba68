import EntityService.Text.CharacterClass

/-! Lower camel case. Words are set apart by characters that are neither letters nor numbers, by
numbers, and by a capital after a small letter; all but the first begin with a capital. Only ASCII
letters change their case. -/
namespace EntityService.Naming

open Text

/-- What has been read: whether a new word begins here, the last letter inside a word, and whether
anything has been written. -/
structure CamelState where
  newWord : Bool := false
  last : Char := ' '
  written : Bool := false

def camelFrom : CamelState → List Char → List Char
  | _, [] => []
  | s, c :: cs =>
    if !isAlphanumeric c then camelFrom { s with newWord := s.newWord || s.written } cs
    else if isNumeric c then c :: camelFrom { s with newWord := true, written := true } cs
    else if s.newWord || (isLowercase s.last && isUppercase c) then
      c.toUpper :: camelFrom { s with newWord := false, written := true } cs
    else c.toLower :: camelFrom { s with last := c, written := true } cs

/-- A text without letters and numbers stays as it is. -/
def lowerCamel (word : String) : String :=
  match camelFrom {} word.toList with
  | [] => word
  | cs => String.ofList cs

end EntityService.Naming
