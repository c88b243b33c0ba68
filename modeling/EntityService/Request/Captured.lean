import EntityService.Http.Header
import EntityService.Http.Method
import EntityService.Url.Basic

/-! A request as it was captured. -/
namespace EntityService.Request

structure Captured where
  method : Http.Method
  url : Url
  headers : Http.Headers := {}
  body : Option String := none

end EntityService.Request
