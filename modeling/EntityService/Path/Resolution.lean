import EntityService.Path.Element
import EntityService.Path.Error
import EntityService.Path.Segment
import EntityService.Schema.Hierarchy
import EntityService.Text.Blank

/-! Resolution of a path. Every element is looked up where the elements before it have led: at the
service root, at a type, or nowhere after an operation that returns nothing. -/
namespace EntityService.Path

open Schema

inductive Context where
  | root
  | typed (type : TypeRef)
  | void
deriving DecidableEq, Repr

def Context.ofResult : Option TypeRef → Context
  | some type => .typed type
  | none => .void

/-- Where the last of some edges leads. -/
def Context.after (c : Context) (edges : List Edge) : Context :=
  match edges.getLast? with
  | some e => .ofResult e.result
  | none => c

/-- Why an element leads nowhere. -/
inductive Refusal where
  | unresolved
  | unsupported
  | verbMismatch (operation : String) (kind : OperationKind)
deriving DecidableEq, Repr

/-- An edge to a type and, if a key stands in parentheses behind its name, one to a member of that
type. Only collections have keys, and blanks are none. -/
def withKey (identifier : String) (kind : SegmentKind) (type : TypeRef) :
    Option String → Except Refusal (List Edge)
  | none => .ok [.toType identifier kind type]
  | some key =>
    if type.collection && !Text.allBlank key.toList then
      .ok [.toType identifier kind type, .toKey key type]
    else .error .unresolved

/-- The type that a qualified name casts another one to. -/
def cast? (g : Graph) (type : TypeRef) (name : String) : Option TypeRef :=
  if Naming.isQualified name then
    ((g.typeByName? name).filter (g.sameOrDerived · type.index)).map (⟨·, type.collection⟩)
  else none

/-- What a name means at a type: a navigation property, a structural property or a cast, tried in
this order. -/
def member? (g : Graph) (type : TypeRef) (name : String) : Option (SegmentKind × TypeRef) :=
  ((g.navigation? type.index name).map (.navigationProperty, ·)).or
    (((g.property? type.index name).map (.structuralProperty, ·)).or
      ((cast? g type name).map (.cast, ·)))

/-- The first of the operations that accepts the method. If none does, the first of all is to
blame. -/
def invoke (method : Http.Method) (e : Element) (first : Operation × Nat)
    (others : List (Operation × Nat)) : Except Refusal (List Edge) :=
  match (first :: others).find? (·.1.kind.accepts method) with
  | some (o, index) => .ok [.toOperation e.name e.arguments o index]
  | none => .error (.verbMismatch first.1.name first.1.kind)

def advanceFromRoot (g : Graph) (e : Element) : Except Refusal (List Edge) :=
  match g.root? e.name with
  | some root => withKey e.name (.ofRoot root.kind) root.typeRef e.arguments
  | none => .error .unresolved

/-- In a collection, a text that can only be a key is one at once, and a name that nothing else
goes by is one in the end. -/
def advanceFromType (g : Graph) (method : Http.Method) (type : TypeRef) (e : Element) :
    Except Refusal (List Edge) :=
  if type.collection && e.isKeyText then .ok [.toKey e.raw type]
  else match member? g type e.name with
    | some (kind, target) => withKey e.name kind target e.arguments
    | none =>
      match g.boundOperations e.name type with
      | first :: others => invoke method e first others
      | [] =>
        if type.collection && e.isUndotted then .ok [.toKey e.raw type]
        else .error .unresolved

/-- The edges that an element stands for. -/
def advance (g : Graph) (method : Http.Method) (c : Context) (e : Element) :
    Except Refusal (List Edge) :=
  if e.isSystem then .error .unsupported
  else match c with
    | .root => advanceFromRoot g e
    | .typed type => advanceFromType g method type e
    | .void => .error .unresolved

/-- The refusal of an element as an error of the path that it stands in. -/
def Refusal.toError (raw : String) (position : Nat) (method : Http.Method) : Refusal → PathError
  | .unresolved => .unresolved raw position
  | .unsupported => .unsupported raw position
  | .verbMismatch operation kind => .verbMismatch operation kind method position

/-- The edges of a path, one group for each element. -/
def walk (g : Graph) (method : Http.Method) :
    Context → Nat → List String → Except PathError (List (List Edge))
  | _, _, [] => .ok []
  | c, position, raw :: path =>
    match advance g method c (.ofText raw) with
    | .error refusal => .error (refusal.toError raw position method)
    | .ok edges =>
      match walk g method (c.after edges) (position + 1) path with
      | .error e => .error e
      | .ok groups => .ok (edges :: groups)

def resolve (g : Graph) (method : Http.Method) (path : List String) :
    Except PathError (List Segment) :=
  if path.isEmpty then .error .empty
  else (walk g method .root 0 path).map fun groups => label 0 none groups.flatten

end EntityService.Path
