import EntityService.Schema.Graph

/-! Why a path does not lead anywhere. Positions count the elements as they were given. -/
namespace EntityService.Path

open Schema

inductive PathError where
  | empty
  | unresolved (identifier : String) (position : Nat)
  | unsupported (identifier : String) (position : Nat)
  | verbMismatch (operation : String) (kind : OperationKind) (method : Http.Method)
      (position : Nat)
deriving DecidableEq, Repr

def PathError.message : PathError → String
  | .empty => "The request does not address any resource below the service root"
  | .unresolved identifier position =>
    "Cannot resolve '" ++ identifier ++ "' at position " ++ position.repr
  | .unsupported identifier position =>
    "Unsupported segment '" ++ identifier ++ "' at position " ++ position.repr
  | .verbMismatch operation kind method position =>
    "The " ++ kind.text ++ " '" ++ operation ++ "' at position " ++ position.repr ++
      " cannot be invoked with " ++ method.token

end EntityService.Path
