/-! The method of a request. Any token is a method, and letter case matters. -/
namespace EntityService.Http

structure Method where
  token : String
deriving DecidableEq, Repr

end EntityService.Http
