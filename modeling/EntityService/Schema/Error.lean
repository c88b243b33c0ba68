/-! Why definitions make no graph, and the place of a reference that the reason speaks of. -/
namespace EntityService.Schema

/-- Where a reference to a type stands. Owners are qualified names, an operation with its kind in
front. -/
inductive Site where
  | base (owner : String)
  | property (name owner : String)
  | navigation (name owner : String)
  | root (name : String)
  | binding (operation : String)
  | parameter (name operation : String)
  | returns (operation : String)
deriving DecidableEq, Repr

def Site.text : Site → String
  | .base owner => "base type of " ++ owner
  | .property name owner => "property '" ++ name ++ "' of " ++ owner
  | .navigation name owner => "navigation property '" ++ name ++ "' of " ++ owner
  | .root name => "entity set or singleton '" ++ name ++ "'"
  | .binding operation => "binding of " ++ operation
  | .parameter name operation => "parameter '" ++ name ++ "' of " ++ operation
  | .returns operation => "return type of " ++ operation

inductive SchemaError where
  | unknownType (reference : String) (site : Site)
  | duplicateType (name : String)
  | duplicateRoot (name : String)
  | inheritanceCycle (name : String)
  | invalidTypeReference (reference : String)
deriving DecidableEq, Repr

def SchemaError.message : SchemaError → String
  | .unknownType reference site =>
    "Unknown type '" ++ reference ++ "' referenced by " ++ site.text
  | .duplicateType name => "Duplicate type '" ++ name ++ "'"
  | .duplicateRoot name => "Duplicate entity set or singleton '" ++ name ++ "'"
  | .inheritanceCycle name => "Inheritance cycle through '" ++ name ++ "'"
  | .invalidTypeReference reference => "Invalid type reference '" ++ reference ++ "'"

end EntityService.Schema
