import EntityService.Json.Token

/-! Reading a document from its tokens with a stack of the arrays and objects that are open. -/
namespace EntityService.Json

/-- An open array with its elements, or an open object with its members and the name of the next
one. The last comes first. -/
inductive Frame where
  | array (elements : List Json)
  | object (members : List (String × Json)) (name : String)

/-- What comes next: a value, the first element of an array or its end, the first name of an object
or its end, another name, the colon after a name, or what may follow a complete value. -/
inductive State where
  | value (stack : List Frame)
  | firstElement (stack : List Frame)
  | firstName (stack : List Frame)
  | name (members : List (String × Json)) (stack : List Frame)
  | colon (members : List (String × Json)) (name : String) (stack : List Frame)
  | complete (v : Json) (stack : List Frame)

/-- The greatest number of arrays and objects inside one another. -/
def maxDepth : Nat := 127

/-- The first token of a value. -/
def start? (stack : List Frame) : Token → Option State
  | .scalar v => some (.complete v stack)
  | .string s => some (.complete (.string s) stack)
  | .openArray => if stack.length < maxDepth then some (.firstElement stack) else none
  | .openObject => if stack.length < maxDepth then some (.firstName stack) else none
  | _ => none

/-- The token after a value inside an open array or object. -/
def continue? (v : Json) (stack : List Frame) : Frame → Token → Option State
  | .array elements, .comma => some (.value (.array (v :: elements) :: stack))
  | .array elements, .closeArray => some (.complete (.array (v :: elements).reverse) stack)
  | .object members name, .comma => some (.name ((name, v) :: members) stack)
  | .object members name, .closeObject =>
    some (.complete (ofMembers ((name, v) :: members).reverse) stack)
  | _, _ => none

def State.step : State → Token → Option State
  | .value stack, token => start? stack token
  | .firstElement stack, .closeArray => some (.complete (.array []) stack)
  | .firstElement stack, token => start? (.array [] :: stack) token
  | .firstName stack, .closeObject => some (.complete (.object []) stack)
  | .firstName stack, .string s => some (.colon [] s stack)
  | .name members stack, .string s => some (.colon members s stack)
  | .colon members s stack, .colon => some (.value (.object members s :: stack))
  | .complete v (frame :: stack), token => continue? v stack frame token
  | _, _ => none

def parse? (text : String) : Option Json := do
  match ← (← Token.scan .nothing text.toList).foldlM State.step (.value []) with
  | .complete v [] => return v
  | _ => none

end EntityService.Json
