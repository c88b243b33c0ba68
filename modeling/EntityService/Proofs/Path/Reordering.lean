import EntityService.Proofs.Path.Walks
import EntityService.Proofs.Schema.Reordering

/-! Paths in graphs that differ only in the places of their types. Every element leads to the same
edges with their types moved, or it is refused for the same reason, so a path has the same error or
segments that the names of types make equal. -/
namespace EntityService.Path

open Schema Outcome

section Relocate

variable (σ : Nat → Nat)

def Target.relocate : Target → Target
  | .type index => .type (σ index)
  | .operation index => .operation index

def Edge.relocate (e : Edge) : Edge :=
  { e with target := e.target.relocate σ, result := e.result.map (·.relocate σ) }

def Segment.relocate (s : Segment) : Segment := { s with toEdge := s.toEdge.relocate σ }

def Context.relocate : Context → Context
  | .root => .root
  | .typed type => .typed (type.relocate σ)
  | .void => .void

end Relocate

/-- A target by name: types by their qualified names, operations by their places, which stay. -/
inductive NamedTarget where
  | type (name : String)
  | operation (index : Nat)
deriving DecidableEq, Repr

/-- All that a segment tells, with the names of types for their places. -/
structure NamedSegment where
  identifier : String
  name : String
  kind : SegmentKind
  position : Nat
  arguments : Option String
  target : NamedTarget
  result : Option Reference
deriving DecidableEq, Repr

def Target.inNames (g : Graph) : Target → NamedTarget
  | .type index => .type (g.typeName index)
  | .operation index => .operation index

def Segment.inNames (g : Graph) (s : Segment) : NamedSegment where
  identifier := s.identifier
  name := s.name
  kind := s.kind
  position := s.position
  arguments := s.arguments
  target := s.target.inNames g
  result := s.result.map fun r => ⟨g.typeName r.index, r.collection⟩

variable {σ : Nat → Nat} {g h : Graph} {method : Http.Method}

theorem Context.relocate_ofResult (result : Option TypeRef) :
    (ofResult result).relocate σ = ofResult (result.map (·.relocate σ)) := by
  cases result <;> rfl

theorem Context.relocate_after (c : Context) (edges : List Edge) :
    (c.after edges).relocate σ = (c.relocate σ).after (edges.map (·.relocate σ)) := by
  rw [after, after, List.getLast?_map]
  cases edges.getLast? with
  | none => rfl
  | some e => exact relocate_ofResult e.result

theorem withKey_relocate (identifier : String) (kind : SegmentKind) (type : TypeRef)
    (arguments : Option String) : withKey identifier kind (type.relocate σ) arguments =
      (withKey identifier kind type arguments).map (List.map (·.relocate σ)) := by
  cases arguments with
  | none => rfl
  | some key =>
    rw [withKey, withKey, TypeRef.relocate_collection]
    split <;> rfl

theorem invoke_relocate (e : Element) (first : Operation × Nat) (others : List (Operation × Nat)) :
    invoke method e (Operation.relocateEntry σ first) (others.map (Operation.relocateEntry σ)) =
      (invoke method e first others).map (List.map (·.relocate σ)) := by
  have accepted : ((first :: others).map (Operation.relocateEntry σ)).find?
      (·.1.kind.accepts method) = ((first :: others).find? (·.1.kind.accepts method)).map
        (Operation.relocateEntry σ) := by
    rw [List.find?_map]
    rfl
  unfold invoke
  rw [← List.map_cons, accepted]
  cases (first :: others).find? (·.1.kind.accepts method) <;> rfl

theorem label_relocate (position : Nat) (previous : Option String) (edges : List Edge) :
    label position previous (edges.map (·.relocate σ)) =
      (label position previous edges).map (·.relocate σ) := by
  induction edges generalizing position previous with
  | nil => rfl
  | cons e edges ih =>
    rw [List.map_cons, label, label, List.map_cons, ih]
    rfl

section Relocated

variable (relocated : Relocated σ g h)
include relocated

theorem cast?_relocate (type : TypeRef) (name : String) :
    cast? h (type.relocate σ) name = (cast? g type name).map (·.relocate σ) := by
  rw [cast?, cast?, relocated.names]
  split
  · cases g.typeByName? name with
    | none => rfl
    | some index =>
      simp only [Option.map_some, Option.filter_some, TypeRef.relocate_index,
        relocated.sameOrDerived]
      cases g.sameOrDerived index type.index <;> rfl
  · rfl

theorem member?_relocate (type : TypeRef) (name : String) :
    member? h (type.relocate σ) name =
      (member? g type name).map fun m => (m.1, m.2.relocate σ) := by
  rw [member?, member?, TypeRef.relocate_index, relocated.navigation?, relocated.property?,
    cast?_relocate relocated]
  cases g.navigation? type.index name with
  | some target => rfl
  | none =>
  cases g.property? type.index name with
  | some target => rfl
  | none => cases cast? g type name <;> rfl

theorem advanceFromRoot_relocate (e : Element) :
    advanceFromRoot h e = (advanceFromRoot g e).map (List.map (·.relocate σ)) := by
  rw [advanceFromRoot, advanceFromRoot, relocated.roots]
  cases g.root? e.name with
  | none => rfl
  | some root => exact withKey_relocate e.name (.ofRoot root.kind) root.typeRef e.arguments

theorem advanceFromType_relocate (type : TypeRef) (e : Element) :
    advanceFromType h method (type.relocate σ) e =
      (advanceFromType g method type e).map (List.map (·.relocate σ)) := by
  rw [advanceFromType, advanceFromType, TypeRef.relocate_collection, member?_relocate relocated,
    relocated.boundOperations]
  split
  · rfl
  cases member? g type e.name with
  | some m => exact withKey_relocate e.name m.1 m.2 e.arguments
  | none =>
  cases g.boundOperations e.name type with
  | cons first others => exact invoke_relocate e first others
  | nil => cases type.collection && e.isUndotted <;> rfl

/-- An element leads to the same edges with their types moved, or is refused for the same reason. -/
theorem advance_relocate (c : Context) (e : Element) : advance h method (c.relocate σ) e =
    (advance g method c e).map (List.map (·.relocate σ)) := by
  unfold advance
  split
  · rfl
  cases c with
  | root => exact advanceFromRoot_relocate relocated e
  | typed type => exact advanceFromType_relocate relocated type e
  | void => rfl

theorem walk_relocate (c : Context) (position : Nat) (path : List String) :
    walk h method (c.relocate σ) position path =
      (walk g method c position path).map (List.map (List.map (·.relocate σ))) := by
  induction path generalizing c position with
  | nil => rfl
  | cons raw path ih =>
    have step : advance h method (c.relocate σ) (.ofText raw) =
        (advance g method c (.ofText raw)).map (List.map (·.relocate σ)) :=
      advance_relocate relocated c (.ofText raw)
    cases advanced : advance g method c (.ofText raw) with
    | error refusal =>
      rw [advanced] at step
      rw [walk_cons_of_error advanced, walk_cons_of_error step]
      rfl
    | ok edges =>
      rw [advanced] at step
      rw [walk_cons_of_ok advanced, walk_cons_of_ok step, ← Context.relocate_after, ih]
      cases walk g method (c.after edges) (position + 1) path <;> rfl

theorem resolve_relocate (path : List String) :
    resolve h method path = (resolve g method path).map (List.map (·.relocate σ)) := by
  rw [resolve, resolve]
  split
  · rfl
  have walked : walk h method .root 0 path =
      (walk g method .root 0 path).map (List.map (List.map (·.relocate σ))) :=
    walk_relocate relocated .root 0 path
  rw [walked]
  cases walk g method .root 0 path with
  | error e => rfl
  | ok groups =>
    change Except.ok (label 0 none (groups.map (List.map (·.relocate σ))).flatten) = _
    rw [← List.map_flatten, label_relocate]
    rfl

/-- Names do not move. -/
theorem inNames_relocate (s : Segment) : (s.relocate σ).inNames h = s.inNames g := by
  obtain ⟨⟨identifier, kind, target, result, arguments⟩, name, position⟩ := s
  simp only [Segment.inNames, Segment.relocate, Edge.relocate, Option.map_map, Function.comp_def,
    TypeRef.relocate_index, TypeRef.relocate_collection, relocated.typeName]
  cases target with
  | type index => simp only [Target.relocate, Target.inNames, relocated.typeName]
  | operation index => rfl

end Relocated

/-- The order in which types and roots are defined decides nothing. Definitions that differ in it
make graphs together or not at all, and every path has the same outcome in both graphs. -/
theorem resolve_order_independent {d other : Definitions} (reordered : d.Reordered other) :
    ((∃ g, d.build = .ok g) ↔ ∃ h, other.build = .ok h) ∧
      ∀ g h, d.build = .ok g → other.build = .ok h → ∀ method path,
        (resolve g method path).map (List.map (·.inNames g)) =
          (resolve h method path).map (List.map (·.inNames h)) := by
  refine ⟨⟨fun ⟨g, built⟩ => reordered.exists_build built,
    fun ⟨h, built⟩ => reordered.symm.exists_build built⟩, ?_⟩
  intro g h first second method path
  have relocated := reordered.relocated (Definitions.build_eq_ok_iff.mp first)
    (Definitions.build_eq_ok_iff.mp second)
  rw [resolve_relocate relocated]
  cases resolve g method path with
  | error e => rfl
  | ok segments =>
    refine congrArg Except.ok ?_
    rw [List.map_map]
    exact List.map_congr_left fun s _ => (inNames_relocate relocated s).symm

/-- The directory with a second entity set, for its guests. -/
def frontDesk : Definitions := directory.addRoot ⟨"directory", "guests", .entitySet, "guest"⟩

def frontDeskReversed : Definitions :=
  { frontDesk with types := frontDesk.types.reverse, roots := frontDesk.roots.reverse }

/-- The manager of a guest, by way of a cast, in graphs that number members and guests the other way
round. -/
theorem resolve_order_independent_frontDesk : ∃ g h,
    frontDesk.Reordered frontDeskReversed ∧
    frontDesk.build = .ok g ∧ frontDeskReversed.build = .ok h ∧
    g.typeByName? "directory.guest" = some 18 ∧ h.typeByName? "directory.guest" = some 17 ∧
    ((∃ g, frontDesk.build = .ok g) ↔ ∃ h, frontDeskReversed.build = .ok h) ∧
    (resolve g ⟨"GET"⟩ ["members('1')", "directory.guest", "manager"]).isOk = true ∧
    (resolve g ⟨"GET"⟩ ["members('1')", "directory.guest", "manager"]).map
        (List.map (·.inNames g)) =
      (resolve h ⟨"GET"⟩ ["members('1')", "directory.guest", "manager"]).map
        (List.map (·.inNames h)) := by
  have reordered : frontDesk.Reordered frontDeskReversed :=
    ⟨(List.reverse_perm _).symm, (List.reverse_perm _).symm, rfl⟩
  have first : frontDesk.build = .ok (frontDesk.build.toOption.getD { types := [] }) := by decide
  have second : frontDeskReversed.build =
      .ok (frontDeskReversed.build.toOption.getD { types := [] }) := by
    decide
  exact ⟨_, _, reordered, first, second, by decide, by decide,
    (resolve_order_independent reordered).1, by decide,
    (resolve_order_independent reordered).2 _ _ first second _ _⟩

end EntityService.Path
