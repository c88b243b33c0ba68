import EntityService.Naming.Camel
import EntityService.Path.ClassName
import EntityService.Path.Resolution
import EntityService.Query.Dialect
import EntityService.Request.Body
import EntityService.Request.Captured
import EntityService.Request.Decomposition

/-! What a request means to a service: the segments of its path, its options and its body. -/
namespace EntityService.Request

open Http Naming

structure Settings where
  serviceRoot : Option Url := none
  reserved : List String := clientHeaders
deriving DecidableEq, Repr

namespace Settings

/-- Takes the place of another service root. -/
def withServiceRoot (s : Settings) (text : String) : Except RequestError Settings :=
  match Url.parse text with
  | .ok url => .ok { s with serviceRoot := some url }
  | .error e => .error (.url e)

/-- Keeps a header out of all models. A name that is reserved already is not added again. -/
def withReserved (s : Settings) (name : String) : Except RequestError Settings :=
  if isHeaderName name then
    .ok (if isAmong s.reserved name then s else { s with reserved := s.reserved ++ [name] })
  else .error (.query .invalidHeaderName)

end Settings

def Captured.ofUrlText (method : Method) (text : String) : Except RequestError Captured :=
  match Url.parse text with
  | .ok url => .ok { method, url }
  | .error e => .error (.url e)

/-- The body under the media type that the headers give. -/
def Captured.readBody (r : Captured) : Except RequestError (Option Body) :=
  match r.body with
  | some raw => Body.read raw (r.headers.get? "Content-Type")
  | none => .ok none

structure Model where
  method : Method
  segments : List Path.Segment
  options : Query.Options
  body : Option Body

namespace Model

/-- The path is looked at before the query, and the query before the headers and the body. -/
def build (g : Schema.Graph) (s : Settings) (r : Captured) : Except RequestError Model := do
  let parts ← decompose r.url s.serviceRoot
  let segments ← (Path.resolve g r.method parts.path).mapError .path
  let options ← (Query.Options.ofPairs parts.query r.headers s.reserved).mapError .query
  let body ← r.readBody
  return { method := r.method, segments, options, body }

/-- The segment that the request is about. -/
def last? (m : Model) : Option Path.Segment := m.segments.getLast?

def className (m : Model) (g : Schema.Graph) (identifiers : List String) :
    Except Path.PathError String :=
  match m.last? with
  | some s => Path.className g s identifiers
  | none => .error .empty

/-- The path ends in a key, casts behind it apart. -/
def isKeyed (m : Model) : Bool :=
  (m.segments.reverse.takeWhile (·.kind.keepsName)).any (·.kind == .key)

/-- A name for the response: that of the resource, in the singular after a key. -/
def responseVariable (m : Model) : String :=
  match m.last? with
  | some s =>
    let name := unqualified s.name
    lowerCamel (if m.isKeyed then singular name else name)
  | none => ""

def querySection (m : Model) (d : Query.Dialect) : String := d.querySection m.options

end Model
end EntityService.Request
