import EntityService.Path.Error
import EntityService.Query.Error
import EntityService.Url.Basic
import EntityService.Url.Error

/-! Why a request cannot be understood. -/
namespace EntityService.Request

inductive RequestError where
  | url (e : UrlError)
  | serviceRootMismatch (asked root : Url)
  | path (e : Path.PathError)
  | query (e : Query.QueryError)
  | malformedBody
deriving DecidableEq, Repr

def RequestError.message : RequestError → String
  | .url e => e.message
  | .serviceRootMismatch asked root =>
    "URL '" ++ asked.text ++ "' is not below the service root '" ++ root.text ++ "'"
  | .path e => e.message
  | .query e => e.message
  | .malformedBody => "Malformed JSON request body"

end EntityService.Request
