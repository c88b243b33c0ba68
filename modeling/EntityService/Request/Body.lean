import EntityService.Http.MediaType
import EntityService.Json.Parse
import EntityService.Request.Error
import EntityService.Text.Blank

/-! The body of a request: a document or some other text. -/
namespace EntityService.Request

inductive Body where
  | json (document : Json)
  | text (s : String)

namespace Body

/-- Without a media type that can be understood, a body is taken for a document. -/
def isDocument (contentType : Option String) : Bool :=
  ((contentType.bind Http.MediaType.parse?).map (·.isJson)).getD true

/-- A blank body is none. -/
def read (raw : String) (contentType : Option String) : Except RequestError (Option Body) :=
  if Text.allBlank raw.toList then .ok none
  else if isDocument contentType then
    match Json.parse? raw with
    | some document => .ok (some (.json document))
    | none => .error .malformedBody
  else .ok (some (.text raw))

end Body
end EntityService.Request
