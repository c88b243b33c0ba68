import EntityService.Http.Token
import EntityService.Text.IgnoreCase

/-! The headers of a request, in the order in which they were captured. A name may occur more than
once, and its letter case does not matter. -/
namespace EntityService.Http

structure Header where
  name : String
  value : String
deriving DecidableEq, Repr

/-- A name that a header can be sent with: a token of less than sixty-four kibibytes. -/
def isHeaderName (name : String) : Bool := isToken name.toList && name.length < 0x10000

structure Headers where
  entries : List Header := []
deriving DecidableEq, Repr

namespace Headers

def ofPairs (pairs : List (String × String)) : Headers := ⟨pairs.map fun p => ⟨p.1, p.2⟩⟩

def add (hs : Headers) (name value : String) : Headers := ⟨hs.entries ++ [⟨name, value⟩]⟩

/-- The first value under a name. -/
def get? (hs : Headers) (name : String) : Option String :=
  (hs.entries.find? fun h => Text.sameIgnoringCase h.name name).map (·.value)

def size (hs : Headers) : Nat := hs.entries.length

def isEmpty (hs : Headers) : Bool := hs.entries.isEmpty

end Headers

/-- Headers that a client sets by itself. -/
def clientHeaders : List String := ["Host", "Content-Length", "Content-Type", "Authorization"]

/-- Letter case apart, the name is one of the names. -/
def isAmong (names : List String) (name : String) : Bool :=
  names.any (Text.sameIgnoringCase · name)

end EntityService.Http
