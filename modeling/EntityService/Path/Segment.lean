import EntityService.Schema.Graph

/-! The segments of a resolved path. Each is reached by an edge of the graph from the type before
it; its name is the one under which the resource was last called. -/
namespace EntityService.Path

open Schema

inductive SegmentKind where
  | entitySetRoot
  | singleton
  | key
  | navigationProperty
  | structuralProperty
  | cast
  | action
  | function
deriving DecidableEq, Repr

namespace SegmentKind

def ofRoot : RootKind → SegmentKind
  | .entitySet => .entitySetRoot
  | .singleton => .singleton

def ofOperation : OperationKind → SegmentKind
  | .action => .action
  | .function => .function

/-- A key and a cast do not give the resource another name. -/
def keepsName : SegmentKind → Bool
  | .key | .cast => true
  | _ => false

end SegmentKind

inductive Target where
  | type (index : Nat)
  | operation (index : Nat)
deriving DecidableEq, Repr

/-- A step from one type to another. Without a result the path cannot go on. -/
structure Edge where
  identifier : String
  kind : SegmentKind
  target : Target
  result : Option TypeRef
  arguments : Option String := none
deriving DecidableEq, Repr

namespace Edge

def toType (identifier : String) (kind : SegmentKind) (type : TypeRef) : Edge :=
  { identifier, kind, target := .type type.index, result := some type }

/-- Picks one member of a collection. -/
def toKey (key : String) (type : TypeRef) : Edge := toType key .key (.single type.index)

def toOperation (identifier : String) (arguments : Option String) (o : Operation) (index : Nat) :
    Edge :=
  { identifier, kind := .ofOperation o.kind, target := .operation index, result := o.returns,
    arguments }

def isCollection (e : Edge) : Bool := e.result.any (·.collection)

def operation? (e : Edge) (g : Graph) : Option Operation :=
  match e.target with
  | .operation index => g.operations[index]?
  | .type _ => none

def typeName? (e : Edge) (g : Graph) : Option String := e.result.map fun r => g.typeName r.index

end Edge

structure Segment extends Edge where
  name : String
  position : Nat
deriving DecidableEq, Repr

/-- The name of a segment after one with a given name. -/
def Edge.nameAfter (e : Edge) (previous : Option String) : String :=
  if e.kind.keepsName then previous.getD e.identifier else e.identifier

/-- The segments along edges, counted from a position and after a segment with a name. -/
def label (position : Nat) (previous : Option String) : List Edge → List Segment
  | [] => []
  | e :: es =>
    { e with name := e.nameAfter previous, position } ::
      label (position + 1) (some (e.nameAfter previous)) es

@[simp] theorem length_label (position : Nat) (previous : Option String) (es : List Edge) :
    (label position previous es).length = es.length := by
  induction es generalizing position previous with
  | nil => rfl
  | cons e es ih => simp [label, ih]

end EntityService.Path
