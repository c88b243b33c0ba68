import EntityService.Schema.Graph
import EntityService.Schema.OperationIndex

/-! What base types give to the types that derive from them: members, operations, and the right to
stand for their base. Base links are climbed in as many steps as the table has types at most. -/
namespace EntityService.Schema.Graph

def base? (g : Graph) (index : Nat) : Option Nat := (g.types[index]?).bind (·.base)

/-- The type and its base types up to a number of steps, closest first. -/
def climb (g : Graph) : Nat → Nat → List Nat
  | 0, index => [index]
  | steps + 1, index =>
    match g.base? index with
    | none => [index]
    | some base => index :: g.climb steps base

/-- The type itself followed by its base types, closest first. -/
def baseChain (g : Graph) (index : Nat) : List Nat := g.climb g.types.length index

/-- The base links end within a number of steps. -/
def endsWithin (g : Graph) : Nat → Nat → Bool
  | 0, index => (g.base? index).isNone
  | steps + 1, index =>
    match g.base? index with
    | none => true
    | some base => g.endsWithin steps base

def sameOrDerived (g : Graph) (candidate base : Nat) : Bool := (g.baseChain candidate).contains base

/-- All types that derive from another one, in the order of the table. -/
def derivedTypes (g : Graph) (base : Nat) : List Nat :=
  (List.range g.types.length).filter fun t => t != base && g.sameOrDerived t base

def ownNavigation? (g : Graph) (name : String) (index : Nat) : Option TypeRef :=
  (g.types[index]?).bind (·.navigation.find? name)

def ownProperty? (g : Graph) (name : String) (index : Nat) : Option TypeRef :=
  (g.types[index]?).bind (·.properties.find? name)

/-- A navigation property of the type or of its closest base type that has it. -/
def navigation? (g : Graph) (index : Nat) (name : String) : Option TypeRef :=
  (g.baseChain index).findSome? (g.ownNavigation? name)

/-- A structural property of the type or of its closest base type that has it. -/
def property? (g : Graph) (index : Nat) (name : String) : Option TypeRef :=
  (g.baseChain index).findSome? (g.ownProperty? name)

/-- Navigation properties come before structural ones. -/
def member? (g : Graph) (index : Nat) (name : String) : Option TypeRef :=
  (g.navigation? index name).or (g.property? index name)

/-- A member of the type and its base types or, failing that, of the first derived type that sees
one. -/
def memberOrDerived? (g : Graph) (index : Nat) (name : String) : Option TypeRef :=
  (g.member? index name).or ((g.derivedTypes index).findSome? (g.member? · name))

/-- The operations that the index has under a simple name, each with its place in the list of all
operations. -/
def operationsNamed (g : Graph) (name : String) : List (Operation × Nat) :=
  ((OperationIndex.ofOperations g.operations).places name).filterMap fun place =>
    (g.operations[place]?).map (·, place)

/-- The operation is called by this name, and its binding takes a value of this type. -/
def offers (g : Graph) (identifier : String) (binding : TypeRef) (o : Operation) : Bool :=
  o.isNamed identifier && o.binding.collection == binding.collection &&
    g.sameOrDerived binding.index o.binding.index

/-- The operations called by a simple or qualified name that can be bound to a type, in order of
definition and whatever their kind. -/
def boundOperations (g : Graph) (identifier : String) (binding : TypeRef) :
    List (Operation × Nat) :=
  (g.operationsNamed (Naming.unqualified identifier)).filter (g.offers identifier binding ·.1)

end EntityService.Schema.Graph
