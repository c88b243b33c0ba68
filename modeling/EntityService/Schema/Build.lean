import EntityService.Schema.Declaration
import EntityService.Schema.Error
import EntityService.Schema.Hierarchy
import EntityService.Schema.Reference

/-! A graph is built from definitions when every name is defined once, every reference means a type
and no type is its own base. The table begins with the primitive types, and since all names are
collected first, a reference may point to a type that is defined after it. -/
namespace EntityService.Schema

def primitiveNames : List String :=
  ["Binary", "Boolean", "Byte", "Date", "DateTimeOffset", "Decimal", "Double", "Duration", "Guid",
   "Int16", "Int32", "Int64", "SByte", "Single", "Stream", "String", "TimeOfDay"]

/-- The types that every schema has. -/
def primitiveTypes : List SchemaType :=
  primitiveNames.map fun name => { space := "Edm", name, kind := .primitive }

/-- The first of the names that was seen before. -/
def firstRepeated? (seen : List String) : List String → Option String
  | [] => none
  | name :: names =>
    if seen.contains name then some name else firstRepeated? (name :: seen) names

/-- The type that a reference means among the types with the given qualified names. -/
def resolve (names : List String) (space : String) (site : Site) (reference : String) :
    Except SchemaError TypeRef :=
  match Reference.parse? reference with
  | none => .error (.invalidTypeReference reference)
  | some r =>
    match names.idxOf? (r.qualifiedIn space) with
    | none => .error (.unknownType reference site)
    | some index => .ok ⟨index, r.collection⟩

def resolveMembers (names : List String) (space : String) (site : String → Site)
    (declared : List (String × String)) : Except SchemaError Members := do
  let resolved ← declared.mapM fun entry => do
    return (entry.1, ← resolve names space (site entry.1) entry.2)
  return Members.ofDeclared resolved

/-- Whether the reference to a base is a collection does not matter. -/
def TypeDefinition.resolve (names : List String) (d : TypeDefinition) :
    Except SchemaError SchemaType := do
  let owner := d.qualifiedName
  let base ← d.base.mapM (Schema.resolve names d.space (.base owner))
  let properties ← resolveMembers names d.space (.property · owner) d.properties
  let navigation ← resolveMembers names d.space (.navigation · owner) d.navigation
  return ⟨d.space, d.name, d.kind, base.map (·.index), properties, navigation⟩

/-- The roots in order, after others with the given names. -/
def resolveRoots (names : List String) :
    List String → List RootDefinition → Except SchemaError (List Root)
  | _, [] => .ok []
  | seen, d :: ds => do
    let type ← resolve names d.space (.root d.name) d.reference
    if seen.contains d.name then .error (.duplicateRoot d.name)
    else
      let rest ← resolveRoots names (d.name :: seen) ds
      return ⟨d.name, d.kind, type.index⟩ :: rest

def OperationDefinition.resolve (names : List String) (d : OperationDefinition) :
    Except SchemaError Operation := do
  let owner := d.kind.text ++ " " ++ d.qualifiedName
  let binding ← Schema.resolve names d.space (.binding owner) d.binding
  let parameters ← resolveMembers names d.space (.parameter · owner) d.parameters
  let returns ← d.returns.mapM (Schema.resolve names d.space (.returns owner))
  return ⟨d.space, d.name, d.kind, binding, parameters, returns⟩

/-- The first type of the table whose base links never end. -/
def Graph.firstEndless? (g : Graph) : Option Nat :=
  (List.range g.types.length).find? fun t => !g.endsWithin g.types.length t

def Graph.checkBases (g : Graph) : Except SchemaError Unit :=
  match g.firstEndless? with
  | some t => .error (.inheritanceCycle (g.typeName t))
  | none => .ok ()

namespace Definitions

/-- The qualified names of all types, the primitive ones first. -/
def typeNames (d : Definitions) : List String :=
  primitiveTypes.map (·.qualifiedName) ++ d.types.map (·.qualifiedName)

def checkNames (d : Definitions) : Except SchemaError Unit :=
  match firstRepeated? [] d.typeNames with
  | some name => .error (.duplicateType name)
  | none => .ok ()

/-- The table of types. -/
def resolveTypes (d : Definitions) : Except SchemaError (List SchemaType) := do
  let types ← d.types.mapM (·.resolve d.typeNames)
  return primitiveTypes ++ types

/-- Names are checked first, then types, base links, roots and operations. -/
def build (d : Definitions) : Except SchemaError Graph := do
  d.checkNames
  let types ← d.resolveTypes
  Graph.checkBases { types }
  let roots ← resolveRoots d.typeNames [] d.roots
  let operations ← d.operations.mapM (·.resolve d.typeNames)
  return { types, roots, operations }

end Definitions
end EntityService.Schema
