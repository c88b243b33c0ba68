import EntityService.Query.Kind

/-! Why a query has no options. -/
namespace EntityService.Query

inductive QueryError where
  | malformedOption (kind : Kind) (value : String)
  | invalidHeaderName
deriving DecidableEq, Repr

def QueryError.message : QueryError → String
  | .malformedOption kind value => "Malformed query option " ++ kind.key ++ ": '" ++ value ++ "'"
  | .invalidHeaderName => "invalid HTTP header name"

end EntityService.Query
