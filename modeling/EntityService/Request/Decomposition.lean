import EntityService.Query.Pairs
import EntityService.Request.Error
import EntityService.Url.Origin

/-! The parts of a URL that a service looks at: the elements of the path below the service root and
the pairs of the query. -/
namespace EntityService.Request

open Text

structure Decomposition where
  path : List String
  query : List Query.Pair
deriving DecidableEq, Repr

/-- The elements between slashes as they are meant. Empty ones do not count. -/
def elements (path : List Char) : List String :=
  ((path.splitOn '/').filter (!·.isEmpty)).map Percent.decoded

/-- A path without the slashes at its end. -/
def withoutEndSlashes (path : List Char) : List Char :=
  (path.reverse.dropWhile (· == '/')).reverse

/-- What is left of a path below a root. The root ends where an element ends. -/
def below? (root path : List Char) : Option (List Char) := do
  let rest ← (withoutEndSlashes root).isPrefixOf? path
  if rest.isEmpty || ['/'].isPrefixOf rest then return rest else none

/-- The path of a URL below the service root, or all of it. -/
def pathBelow (url : Url) : Option Url → Except RequestError (List Char)
  | none => .ok url.path.toList
  | some root =>
    match below? root.path.toList url.path.toList with
    | some rest =>
      if url.sameOrigin root then .ok rest else .error (.serviceRootMismatch url root)
    | none => .error (.serviceRootMismatch url root)

def decompose (url : Url) (root : Option Url) : Except RequestError Decomposition :=
  (pathBelow url root).map fun path => ⟨elements path, Query.readPairs (url.query.getD "")⟩

end EntityService.Request
