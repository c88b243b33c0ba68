import EntityService.Naming.Unqualified
import EntityService.Text.Blank
import EntityService.Text.CharacterClass

/-! References to types, as declarations write them: the name of a type, or the same name inside
`Collection(` and `)`. -/
namespace EntityService.Schema

open Text

structure Reference where
  name : String
  collection : Bool
deriving DecidableEq, Repr

/-- A part of a type name: letters, numbers and underscores, at least one of them. -/
def isNamePart (part : List Char) : Bool :=
  !part.isEmpty && part.all fun c => isAlphanumeric c || c == '_'

/-- Name parts with single dots between them. -/
def isTypeName (cs : List Char) : Bool := (cs.splitOn '.').all isNamePart

namespace Reference

def ofName? (cs : List Char) (collection : Bool) : Option Reference :=
  if isTypeName cs then some ⟨String.ofList cs, collection⟩ else none

/-- Blanks are ignored at the two ends of the text and nowhere else. -/
def parse? (text : String) : Option Reference :=
  let cs := trim text.toList
  match "Collection(".toList.isPrefixOf? cs with
  | some inner => ([')'].isSuffixOf? inner).bind (ofName? · true)
  | none => ofName? cs false

/-- The written form. -/
def text (r : Reference) : String :=
  if r.collection then "Collection(" ++ r.name ++ ")" else r.name

/-- The name that is meant inside a namespace: a name with a dot is complete already. -/
def qualifiedIn (space : String) (r : Reference) : String :=
  if Naming.isQualified r.name then r.name else Naming.qualify space r.name

end Reference
end EntityService.Schema
