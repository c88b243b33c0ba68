import EntityService.Http.Method
import EntityService.Naming.Unqualified
import EntityService.Schema.Members

/-! The graph of a service: a table of types, the entity sets and singletons at the service root,
and the operations bound to types. Types refer to one another by their place in the table, so
cyclic navigation needs no special care. -/
namespace EntityService.Schema

inductive TypeKind where
  | primitive
  | complex
  | entity
  | enum
deriving DecidableEq, Repr

/-- Complex and entity types have members. -/
def TypeKind.isStructured : TypeKind → Bool
  | .complex | .entity => true
  | .primitive | .enum => false

structure SchemaType where
  space : String
  name : String
  kind : TypeKind
  base : Option Nat := none
  properties : Members := {}
  navigation : Members := {}
deriving DecidableEq, Repr

def SchemaType.qualifiedName (t : SchemaType) : String := Naming.qualify t.space t.name

inductive RootKind where
  | entitySet
  | singleton
deriving DecidableEq, Repr

structure Root where
  name : String
  kind : RootKind
  type : Nat
deriving DecidableEq, Repr

/-- An entity set holds a collection and a singleton does not, whatever was declared. -/
def Root.typeRef (r : Root) : TypeRef := ⟨r.type, r.kind == .entitySet⟩

inductive OperationKind where
  | action
  | function
deriving DecidableEq, Repr

namespace OperationKind

def text : OperationKind → String
  | .action => "action"
  | .function => "function"

/-- Functions are invoked by methods that read and actions by methods that write. -/
def methods : OperationKind → List String
  | .action => ["POST", "PUT", "PATCH", "DELETE"]
  | .function => ["GET", "HEAD"]

def accepts (kind : OperationKind) (method : Http.Method) : Bool :=
  kind.methods.contains method.token

end OperationKind

structure Operation where
  space : String
  name : String
  kind : OperationKind
  binding : TypeRef
  parameters : Members := {}
  returns : Option TypeRef := none
deriving DecidableEq, Repr

namespace Operation

def qualifiedName (o : Operation) : String := Naming.qualify o.space o.name

/-- An operation goes by its simple name and by its qualified name. -/
def isNamed (o : Operation) (identifier : String) : Bool :=
  identifier == o.name || identifier == o.qualifiedName

end Operation

structure Graph where
  types : List SchemaType
  roots : List Root := []
  operations : List Operation := []
deriving DecidableEq, Repr

namespace Graph

def typeNames (g : Graph) : List String := g.types.map (·.qualifiedName)

def typeByName? (g : Graph) (name : String) : Option Nat := g.typeNames.idxOf? name

def root? (g : Graph) (name : String) : Option Root := g.roots.find? (·.name == name)

/-- The qualified name of a type of the table. -/
def typeName (g : Graph) (index : Nat) : String := (g.typeNames[index]?).getD ""

/-- Its name without the namespace. -/
def simpleTypeName (g : Graph) (index : Nat) : String :=
  ((g.types[index]?).map (·.name)).getD ""

end Graph
end EntityService.Schema
