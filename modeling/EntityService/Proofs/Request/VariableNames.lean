import EntityService.Proofs.Path.Names
import EntityService.Proofs.Path.Spelling
import EntityService.Proofs.Request.Models

/-! The names that a request gives rise to. Each segment goes by the name of the resource that its
place is about, and so does the variable for the response, in the singular if it holds a single
member of that resource. -/
namespace EntityService.Request

open Schema EntityService.Path Naming

variable {d : Definitions} {g : Graph} {m : Model} {segments : List Segment}
  {resource s : Segment} {i j : Nat}

end EntityService.Request
