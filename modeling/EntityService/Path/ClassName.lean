import EntityService.Naming.Singular
import EntityService.Path.Error
import EntityService.Path.Segment
import EntityService.Schema.Hierarchy

/-! The class of an object that a request speaks of. The object is found by identifiers: the first
is looked up at a segment, each other one among the members of the type before it. -/
namespace EntityService.Path

open Schema Naming

/-- The names by which the resource of a segment with this type is called. -/
def resourceNames (g : Graph) (s : Segment) (type : TypeRef) : List String :=
  [s.identifier, unqualified s.name, singular (unqualified s.name), g.simpleTypeName type.index]

def parameter? (g : Graph) (s : Segment) (identifier : String) : Option TypeRef :=
  (s.operation? g).bind (·.parameters.find? identifier)

/-- The resource of a segment or one of its members. -/
def resource? (g : Graph) (s : Segment) (identifier : String) : Option TypeRef :=
  s.result.bind fun type =>
    if (resourceNames g s type).contains identifier then some type
    else g.memberOrDerived? type.index identifier

/-- Parameters of an operation come first and the roots of the service last. -/
def first? (g : Graph) (s : Segment) (identifier : String) : Option TypeRef :=
  (parameter? g s identifier).or
    ((resource? g s identifier).or ((g.root? identifier).map (·.typeRef)))

/-- Goes on from a type along identifiers that are counted from a position. -/
def classNameFrom (g : Graph) : TypeRef → Nat → List String → Except PathError String
  | type, _, [] => .ok (g.typeName type.index)
  | type, position, identifier :: rest =>
    match g.memberOrDerived? type.index identifier with
    | some member => classNameFrom g member (position + 1) rest
    | none => .error (.unresolved identifier position)

/-- Without identifiers the object is the resource of the segment. -/
def className (g : Graph) (s : Segment) : List String → Except PathError String
  | [] =>
    match s.typeName? g with
    | some name => .ok name
    | none => .error (.unresolved s.identifier s.position)
  | identifier :: rest =>
    match first? g s identifier with
    | some type => classNameFrom g type 1 rest
    | none => .error (.unresolved identifier 0)

end EntityService.Path
