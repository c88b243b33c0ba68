import EntityService.Schema.Graph

/-! What a schema is built from. Declarations stand in a sequence in which a namespace holds for
all that follows it; definitions are the same content with the namespace written into each. -/
namespace EntityService.Schema

inductive TypeClause where
  | base (reference : String)
  | property (name reference : String)
  | navigation (name reference : String)
deriving DecidableEq, Repr

inductive OperationClause where
  | parameter (name reference : String)
  | returns (reference : String)
deriving DecidableEq, Repr

inductive Declaration where
  | inNamespace (space : String)
  | entityType (name : String) (clauses : List TypeClause)
  | complexType (name : String) (clauses : List TypeClause)
  | enumType (name : String)
  | entitySet (name reference : String)
  | singleton (name reference : String)
  | action (name binding : String) (clauses : List OperationClause)
  | function (name binding : String) (clauses : List OperationClause)
deriving DecidableEq, Repr

structure TypeDefinition where
  space : String
  name : String
  kind : TypeKind
  clauses : List TypeClause := []
deriving DecidableEq, Repr

namespace TypeDefinition

def qualifiedName (d : TypeDefinition) : String := Naming.qualify d.space d.name

/-- The last base that is given. -/
def base (d : TypeDefinition) : Option String :=
  (d.clauses.filterMap fun | .base r => some r | _ => none).getLast?

def properties (d : TypeDefinition) : List (String × String) :=
  d.clauses.filterMap fun | .property n r => some (n, r) | _ => none

def navigation (d : TypeDefinition) : List (String × String) :=
  d.clauses.filterMap fun | .navigation n r => some (n, r) | _ => none

end TypeDefinition

structure RootDefinition where
  space : String
  name : String
  kind : RootKind
  reference : String
deriving DecidableEq, Repr

structure OperationDefinition where
  space : String
  name : String
  kind : OperationKind
  binding : String
  clauses : List OperationClause := []
deriving DecidableEq, Repr

namespace OperationDefinition

def qualifiedName (d : OperationDefinition) : String := Naming.qualify d.space d.name

def parameters (d : OperationDefinition) : List (String × String) :=
  d.clauses.filterMap fun | .parameter n r => some (n, r) | _ => none

/-- The last return type that is given. -/
def returns (d : OperationDefinition) : Option String :=
  (d.clauses.filterMap fun | .returns r => some r | _ => none).getLast?

end OperationDefinition

structure Definitions where
  types : List TypeDefinition := []
  roots : List RootDefinition := []
  operations : List OperationDefinition := []
deriving DecidableEq, Repr

namespace Definitions

def addType (d : Definitions) (t : TypeDefinition) : Definitions := { d with types := t :: d.types }

def addRoot (d : Definitions) (r : RootDefinition) : Definitions := { d with roots := r :: d.roots }

def addOperation (d : Definitions) (o : OperationDefinition) : Definitions :=
  { d with operations := o :: d.operations }

/-- The definitions that declarations make when they stand in a namespace. -/
def ofDeclarationsIn (space : String) : List Declaration → Definitions
  | [] => {}
  | .inNamespace inner :: ds => ofDeclarationsIn inner ds
  | .entityType name clauses :: ds =>
    (ofDeclarationsIn space ds).addType ⟨space, name, .entity, clauses⟩
  | .complexType name clauses :: ds =>
    (ofDeclarationsIn space ds).addType ⟨space, name, .complex, clauses⟩
  | .enumType name :: ds => (ofDeclarationsIn space ds).addType ⟨space, name, .enum, []⟩
  | .entitySet name reference :: ds =>
    (ofDeclarationsIn space ds).addRoot ⟨space, name, .entitySet, reference⟩
  | .singleton name reference :: ds =>
    (ofDeclarationsIn space ds).addRoot ⟨space, name, .singleton, reference⟩
  | .action name binding clauses :: ds =>
    (ofDeclarationsIn space ds).addOperation ⟨space, name, .action, binding, clauses⟩
  | .function name binding clauses :: ds =>
    (ofDeclarationsIn space ds).addOperation ⟨space, name, .function, binding, clauses⟩

/-- Before the first namespace is declared, names belong to the namespace called default. -/
def ofDeclarations (declarations : List Declaration) : Definitions :=
  ofDeclarationsIn "default" declarations

end Definitions
end EntityService.Schema
