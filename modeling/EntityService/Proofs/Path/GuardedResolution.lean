import EntityService.Proofs.Path.ClassSearch
import EntityService.Proofs.Schema.GuardedLookups

/-! Paths and class names with look-ups that may fail. Every type that a path comes to is looked up,
as is every operation that might be called. In a graph that was built none of these look-ups fails,
since a path stays inside the tables from its first element on. -/
namespace EntityService.Path

open Schema

namespace Guarded

open Graph.Guarded

def withKey (g : Graph) (identifier : String) (kind : SegmentKind) (target : TypeRef)
    (arguments : Option String) : Except Fault (Except Refusal (List Edge)) := do
  let _ ← type g target.index
  return Path.withKey identifier kind target arguments

def pick (g : Graph) (key : String) (current : TypeRef) :
    Except Fault (Except Refusal (List Edge)) := do
  let _ ← type g current.index
  return .ok [.toKey key current]

def cast? (g : Graph) (current : TypeRef) (name : String) : Except Fault (Option TypeRef) :=
  if Naming.isQualified name then
    match g.typeByName? name with
    | none => return none
    | some candidate => do
      let derived ← sameOrDerived g candidate current.index
      return if derived then some ⟨candidate, current.collection⟩ else none
  else return none

def member? (g : Graph) (current : TypeRef) (name : String) :
    Except Fault (Option (SegmentKind × TypeRef)) := do
  match ← navigation? g current.index name with
  | some target => return some (.navigationProperty, target)
  | none =>
    match ← property? g current.index name with
    | some target => return some (.structuralProperty, target)
    | none => return (← cast? g current name).map (.cast, ·)

def advanceFromRoot (g : Graph) (e : Element) : Except Fault (Except Refusal (List Edge)) :=
  match g.root? e.name with
  | some root => withKey g e.name (.ofRoot root.kind) root.typeRef e.arguments
  | none => return .error .unresolved

/-- An operation that was found bears its place, so it is not looked up again. -/
def advanceFromType (g : Graph) (method : Http.Method) (current : TypeRef) (e : Element) :
    Except Fault (Except Refusal (List Edge)) :=
  if current.collection && e.isKeyText then pick g e.raw current
  else do
    match ← member? g current e.name with
    | some (kind, target) => withKey g e.name kind target e.arguments
    | none =>
      match ← boundOperations g e.name current with
      | first :: others => return invoke method e first others
      | [] =>
        if current.collection && e.isUndotted then pick g e.raw current
        else return .error .unresolved

def advance (g : Graph) (method : Http.Method) (c : Context) (e : Element) :
    Except Fault (Except Refusal (List Edge)) :=
  if e.isSystem then return .error .unsupported
  else match c with
    | .root => advanceFromRoot g e
    | .typed current => advanceFromType g method current e
    | .void => return .error .unresolved

def walk (g : Graph) (method : Http.Method) :
    Context → Nat → List String → Except Fault (Except PathError (List (List Edge)))
  | _, _, [] => return .ok []
  | c, position, raw :: path => do
    match ← advance g method c (.ofText raw) with
    | .error refusal => return .error (refusal.toError raw position method)
    | .ok edges =>
      let rest ← walk g method (c.after edges) (position + 1) path
      return rest.map (edges :: ·)

def resolve (g : Graph) (method : Http.Method) (path : List String) :
    Except Fault (Except PathError (List Segment)) :=
  if path.isEmpty then return .error .empty
  else do
    let walked ← walk g method .root 0 path
    return walked.map fun groups => label 0 none groups.flatten

def typeName? (g : Graph) (e : Edge) : Except Fault (Option String) :=
  e.result.mapM fun result => typeName g result.index

def parameter? (g : Graph) (s : Segment) (identifier : String) :
    Except Fault (Option TypeRef) :=
  match s.target with
  | .operation index => return (← operation g index).parameters.find? identifier
  | .type _ => return none

def resource? (g : Graph) (s : Segment) (identifier : String) : Except Fault (Option TypeRef) :=
  match s.result with
  | none => return none
  | some own => do
    let simple := (← type g own.index).name
    let named := Naming.unqualified s.name
    if [s.identifier, named, Naming.singular named, simple].contains identifier then
      return some own
    else memberOrDerived? g own.index identifier

def first? (g : Graph) (s : Segment) (identifier : String) : Except Fault (Option TypeRef) := do
  match ← parameter? g s identifier with
  | some found => return some found
  | none =>
    match ← resource? g s identifier with
    | some found => return some found
    | none => return (g.root? identifier).map (·.typeRef)

def classNameFrom (g : Graph) :
    TypeRef → Nat → List String → Except Fault (Except PathError String)
  | current, _, [] => return .ok (← typeName g current.index)
  | current, position, identifier :: rest => do
    match ← memberOrDerived? g current.index identifier with
    | some member => classNameFrom g member (position + 1) rest
    | none => return .error (.unresolved identifier position)

def className (g : Graph) (s : Segment) : List String → Except Fault (Except PathError String)
  | [] => do
    match ← typeName? g s.toEdge with
    | some name => return .ok name
    | none => return .error (.unresolved s.identifier s.position)
  | identifier :: rest => do
    match ← first? g s identifier with
    | some found => classNameFrom g found 1 rest
    | none => return .error (.unresolved identifier 0)

end Guarded

/-- What a path has led to is a type of the table, unless it has led to none. -/
def Context.Inside (g : Graph) (c : Context) : Prop := ∀ type, c = .typed type → g.Knows type

/-- The type or the operation that the edge leads to and the type that it results in stand in the
tables. -/
structure Edge.Inside (g : Graph) (e : Edge) : Prop where
  type : ∀ index, e.target = .type index → index < g.types.length
  operation : ∀ index, e.target = .operation index → index < g.operations.length
  result : ∀ type, e.result = some type → g.Knows type

variable {d : Definitions} {g : Graph} {method : Http.Method} {c : Context} {e : Edge}
  {es : List Edge} {s : Segment} {type target : TypeRef} {name identifier : String}

theorem Edge.inside_toType {kind : SegmentKind} (known : g.Knows target) :
    (Edge.toType name kind target).Inside g where
  type _ same := by
    cases same
    exact known
  operation _ same := nomatch same
  result _ same := by
    cases same
    exact known

theorem Context.inside_root : Context.root.Inside g := fun _ typed => nomatch typed

theorem Context.Inside.after (inside : c.Inside g) (each : ∀ e ∈ es, e.Inside g) :
    (c.after es).Inside g := by
  intro type same
  rw [Context.after] at same
  cases last : es.getLast? with
  | none =>
    rw [last] at same
    exact inside type same
  | some e =>
    have edge := each e (List.mem_of_getLast? last)
    rw [last] at same
    cases leads : e.result with
    | none => simp [leads, Context.ofResult] at same
    | some other =>
      simp only [leads, Context.ofResult, Context.typed.injEq] at same
      exact same ▸ edge.result other leads

theorem Follows.inside (follows : Follows g method type e)
    (known : ∀ result, e.result = some result → g.Knows result) : e.Inside g := by
  cases follows with
  | key | member => exact Edge.inside_toType (known _ rfl)
  | operation _ _ listed =>
    refine ⟨nofun, ?_, known⟩
    rintro index ⟨⟩
    exact (List.getElem?_eq_some_iff.mp listed).1

theorem Starts.inside (starts : Starts g e)
    (known : ∀ result, e.result = some result → g.Knows result) : e.Inside g := by
  cases starts
  exact Edge.inside_toType (known _ rfl)

theorem Route.inside_of_known (route : Route g method c es)
    (known : ∀ e ∈ es, ∀ result, e.result = some result → g.Knows result) :
    ∀ e ∈ es, e.Inside g := by
  induction route with
  | nil =>
    intro e member
    contradiction
  | start starts _ ih =>
    obtain ⟨first, rest⟩ := List.forall_mem_cons.mp known
    exact List.forall_mem_cons.mpr ⟨starts.inside first, ih rest⟩
  | next follows _ ih =>
    obtain ⟨first, rest⟩ := List.forall_mem_cons.mp known
    exact List.forall_mem_cons.mpr ⟨follows.inside first, ih rest⟩

namespace Guarded

open Graph.Guarded (type_of_some operation_of_some)

theorem withKey_of_known (known : g.Knows target) (identifier : String) (kind : SegmentKind)
    (arguments : Option String) : Guarded.withKey g identifier kind target arguments =
      .ok (Path.withKey identifier kind target arguments) := by
  rw [Guarded.withKey, type_of_some (List.getElem?_eq_getElem known)]
  rfl

theorem pick_of_known (known : g.Knows type) (key : String) :
    pick g key type = .ok (.ok [.toKey key type]) := by
  rw [pick, type_of_some (List.getElem?_eq_getElem known)]
  rfl

theorem parameter?_eq (inside : s.toEdge.Inside g) (identifier : String) :
    Guarded.parameter? g s identifier = .ok (Path.parameter? g s identifier) := by
  rw [Guarded.parameter?, Path.parameter?, Edge.operation?]
  cases leads : s.target with
  | type index => rfl
  | operation index =>
    have here := List.getElem?_eq_getElem (inside.operation index leads)
    simp only [operation_of_some here, here]
    rfl

end Guarded

section Built

variable (built : Built d g)
include built

theorem Route.inside (route : Route g method c es) (inside : c.Inside g) :
    ∀ e ∈ es, e.Inside g :=
  route.inside_of_known (route.known built inside)

namespace Guarded

theorem cast?_eq (type : TypeRef) (name : String) :
    Guarded.cast? g type name = .ok (Path.cast? g type name) := by
  rw [Guarded.cast?, Path.cast?]
  cases Naming.isQualified name with
  | false => rfl
  | true =>
    cases found : g.typeByName? name with
    | none => rfl
    | some candidate =>
      have inside := built.closed.names name candidate found
      simp only [if_true, built.answers.sameOrDerived candidate inside, Option.filter_some]
      cases g.sameOrDerived candidate type.index <;> rfl

theorem member?_eq (known : g.Knows type) (name : String) :
    Guarded.member? g type name = .ok (Path.member? g type name) := by
  rw [Guarded.member?, Path.member?, built.answers.navigation _ known]
  cases g.navigation? type.index name with
  | some target => rfl
  | none =>
    simp only [bind, Except.bind, built.answers.property _ known, cast?_eq built]
    cases g.property? type.index name <;> rfl

theorem known_of_member? {kind : SegmentKind}
    (found : Path.member? g type name = some (kind, target)) : g.Knows target := by
  rcases Option.or_eq_some_iff.mp found with navigation | ⟨_, later⟩
  · obtain ⟨_, seen, ⟨⟩⟩ := Option.map_eq_some_iff.mp navigation
    exact built.known_of_navigation seen
  rcases Option.or_eq_some_iff.mp later with property | ⟨_, cast⟩
  · obtain ⟨_, seen, ⟨⟩⟩ := Option.map_eq_some_iff.mp property
    exact built.known_of_property seen
  · obtain ⟨_, cast, ⟨⟩⟩ := Option.map_eq_some_iff.mp cast
    obtain ⟨index, named, _, rfl⟩ := (cast?_eq_some_iff built.typeNames_nodup).mp cast
    exact Graph.bounded_of_name named

theorem advanceFromRoot_eq (e : Element) :
    Guarded.advanceFromRoot g e = .ok (Path.advanceFromRoot g e) := by
  rw [Guarded.advanceFromRoot, Path.advanceFromRoot]
  cases found : g.root? e.name with
  | none => rfl
  | some root => exact withKey_of_known (built.known_of_root found) ..

theorem advanceFromType_eq (known : g.Knows type) (method : Http.Method) (e : Element) :
    Guarded.advanceFromType g method type e = .ok (Path.advanceFromType g method type e) := by
  rw [Guarded.advanceFromType, Path.advanceFromType]
  split
  · exact pick_of_known known e.raw
  rw [member?_eq built known]
  cases found : Path.member? g type e.name with
  | some member => exact withKey_of_known (known_of_member? built found) ..
  | none =>
    simp only [bind, Except.bind, built.answers.boundOperations _ _ known]
    cases g.boundOperations e.name type with
    | cons first others => rfl
    | nil =>
      cases type.collection && e.isUndotted with
      | true => exact pick_of_known known e.raw
      | false => rfl

theorem advance_eq (inside : c.Inside g) (method : Http.Method) (e : Element) :
    Guarded.advance g method c e = .ok (Path.advance g method c e) := by
  unfold Guarded.advance Path.advance
  split
  · rfl
  cases c with
  | root => exact advanceFromRoot_eq built e
  | typed type => exact advanceFromType_eq built (inside type rfl) method e
  | void => rfl

/-- The induction is on the path. Each element leads to a type of the table again. -/
theorem walk_eq (inside : c.Inside g) (method : Http.Method) (position : Nat)
    (path : List String) :
    Guarded.walk g method c position path = .ok (Path.walk g method c position path) := by
  induction path generalizing c position with
  | nil => rfl
  | cons raw path ih =>
    rw [Guarded.walk, advance_eq built inside]
    cases advanced : Path.advance g method c (.ofText raw) with
    | error refusal =>
      rw [walk_cons_of_error advanced]
      rfl
    | ok edges =>
      have route := ((advance_eq_ok_iff built.typeNames_nodup).mp advanced).route
      have later := inside.after (route.inside built inside)
      rw [walk_cons_of_ok advanced]
      simp only [bind, Except.bind, ih later]
      rfl

theorem resolve_eq (method : Http.Method) (path : List String) :
    Guarded.resolve g method path = .ok (Path.resolve g method path) := by
  rw [Guarded.resolve, Path.resolve]
  split
  · rfl
  · rw [walk_eq built Context.inside_root]
    rfl

theorem typeName?_eq (inside : e.Inside g) : Guarded.typeName? g e = .ok (e.typeName? g) := by
  rw [Guarded.typeName?, Edge.typeName?]
  cases results : e.result with
  | none => rfl
  | some result =>
    have named := built.answers.typeName _ (inside.result result results)
    simp only [Option.mapM_some, named]
    rfl

theorem resource?_eq (inside : s.toEdge.Inside g) (identifier : String) :
    Guarded.resource? g s identifier = .ok (Path.resource? g s identifier) := by
  rw [Guarded.resource?, Path.resource?]
  cases results : s.result with
  | none => rfl
  | some own =>
    have known := inside.result own results
    have here := List.getElem?_eq_getElem known
    simp only [Graph.Guarded.type_of_some here, bind, Except.bind, Option.bind_some, resourceNames,
      Graph.simpleTypeName, here, Option.map_some, Option.getD_some]
    split
    · rfl
    · exact built.answers.memberOrDerived _ known identifier

theorem first?_eq (inside : s.toEdge.Inside g) (identifier : String) :
    Guarded.first? g s identifier = .ok (Path.first? g s identifier) := by
  rw [Guarded.first?, Path.first?, parameter?_eq inside]
  cases Path.parameter? g s identifier with
  | some found => rfl
  | none =>
    simp only [bind, Except.bind, resource?_eq built inside]
    cases Path.resource? g s identifier <;> rfl

theorem classNameFrom_eq (known : g.Knows type) (position : Nat) (identifiers : List String) :
    Guarded.classNameFrom g type position identifiers =
      .ok (Path.classNameFrom g type position identifiers) := by
  induction identifiers generalizing type position with
  | nil =>
    rw [Guarded.classNameFrom, built.answers.typeName _ known]
    rfl
  | cons identifier identifiers ih =>
    rw [Guarded.classNameFrom, Path.classNameFrom, built.answers.memberOrDerived _ known]
    cases found : g.memberOrDerived? type.index identifier with
    | none => rfl
    | some member => exact ih (built.known_of_memberOrDerived found) (position + 1)

theorem className_eq (inside : s.toEdge.Inside g) (identifiers : List String) :
    Guarded.className g s identifiers = .ok (Path.className g s identifiers) := by
  cases identifiers with
  | nil =>
    rw [Guarded.className, Path.className, typeName?_eq built inside]
    cases s.typeName? g <;> rfl
  | cons identifier rest =>
    rw [Guarded.className, Path.className, first?_eq built inside]
    cases found : Path.first? g s identifier with
    | none => rfl
    | some type => exact classNameFrom_eq built (first_known built inside.result found) 1 rest

end Guarded

theorem resolve_inside {path : List String} {segments : List Segment}
    (resolved : resolve g method path = .ok segments) : ∀ s ∈ segments, s.toEdge.Inside g := by
  intro s member
  have route := resolve_route built.typeNames_nodup resolved
  exact route.inside built Context.inside_root s.toEdge (List.mem_map_of_mem member)

end Built

/-- In a graph that is built, whatever refers to a type or an operation refers to one of its tables.
So the queries, the resolution of every path and the search for every class name look up nothing
that there is not, and the segments of a path refer to types and operations of the tables again. -/
theorem lookups_succeed (built : d.build = .ok g) : g.Closed ∧ g.Answers ∧
    (∀ method path, Guarded.resolve g method path = .ok (resolve g method path)) ∧
    ∀ method path segments, resolve g method path = .ok segments → ∀ s ∈ segments,
      s.toEdge.Inside g ∧ Guarded.typeName? g s.toEdge = .ok (s.typeName? g) ∧
      ∀ identifiers, Guarded.className g s identifiers = .ok (className g s identifiers) := by
  have built := Definitions.build_eq_ok_iff.mp built
  refine ⟨built.closed, built.answers, Guarded.resolve_eq built, ?_⟩
  intro method path segments resolved s member
  have inside := resolve_inside built resolved s member
  exact ⟨inside, Guarded.typeName?_eq built inside, Guarded.className_eq built inside⟩

/-- A guest of the directory is locked. Every look-up along the path succeeds, as does every look-up
in the search for the class of a manager. -/
theorem lookups_succeed_lock : ∃ segments,
    directory.build = .ok directoryGraph ∧ directoryGraph.Closed ∧
    Guarded.resolve directoryGraph ⟨"POST"⟩ ["members('1')", "directory.guest", "lock"] =
      .ok (.ok segments) ∧
    segments.map (·.target) = [.type 17, .type 17, .type 18, .operation 0] ∧
    directoryGraph.types.length = 19 ∧ directoryGraph.operations.length = 2 ∧
    ∀ s ∈ segments, s.toEdge.Inside directoryGraph ∧
      Guarded.className directoryGraph s ["members", "manager"] =
        .ok (className directoryGraph s ["members", "manager"]) := by
  obtain ⟨closed, _, resolution, searches⟩ := lookups_succeed directory_built
  have resolved : resolve directoryGraph ⟨"POST"⟩ ["members('1')", "directory.guest", "lock"] =
      .ok (label 0 none [.toType "members" .entitySetRoot ⟨17, true⟩, .toKey "'1'" ⟨17, true⟩,
        .toType "directory.guest" .cast ⟨18, false⟩,
        ⟨"lock", .action, .operation 0, none, none⟩]) := by
    decide
  refine ⟨_, directory_built, closed, (resolution ..).trans (congrArg _ resolved), rfl, by decide,
    by decide, fun s member => ?_⟩
  obtain ⟨inside, _, classes⟩ := searches _ _ _ resolved s member
  exact ⟨inside, classes _⟩

end EntityService.Path
