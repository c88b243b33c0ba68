import EntityService.Naming.Unqualified

/-! An element of a resource path by itself. It may be an identifier, an identifier with arguments
in parentheses behind it, or any other text. -/
namespace EntityService.Path

def isNameStart (c : Char) : Bool := c.isAlpha || c == '_'

def isNameRest (c : Char) : Bool := c.isAlphanum || c == '_'

def isSimpleName : List Char → Bool
  | [] => false
  | c :: cs => isNameStart c && cs.all isNameRest

/-- Simple names with single dots between them. -/
def isIdentifier (cs : List Char) : Bool := (cs.splitOn '.').all isSimpleName

/-- The identifier and the arguments of a call. The identifier ends at the first parenthesis, so
the arguments may hold more of them; they lie on one line. -/
def call? (cs : List Char) : Option (List Char × List Char) := do
  let name := cs.takeWhile (· != '(')
  let inner ← ['('].isPrefixOf? (cs.dropWhile (· != '('))
  let arguments ← [')'].isSuffixOf? inner
  if isIdentifier name && !arguments.contains '\n' then return (name, arguments) else none

structure Element where
  raw : String
  name : String
  arguments : Option String
deriving DecidableEq, Repr

namespace Element

/-- Without arguments the whole text is the name. -/
def ofText (raw : String) : Element :=
  match call? raw.toList with
  | some (name, arguments) => ⟨raw, String.ofList name, some (String.ofList arguments)⟩
  | none => ⟨raw, raw, none⟩

/-- The dollar sign begins the elements that belong to the protocol and not to the service. -/
def isSystem (e : Element) : Bool := ['$'].isPrefixOf e.raw.toList

/-- No identifier and no call, so in a collection it can only be a key. -/
def isKeyText (e : Element) : Bool := e.arguments.isNone && !isIdentifier e.raw.toList

/-- A single name, which is a key where nothing goes by it. -/
def isUndotted (e : Element) : Bool := e.arguments.isNone && !Naming.isQualified e.name

end Element
end EntityService.Path
