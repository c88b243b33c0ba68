import EntityService.Proofs.Schema.Places
import EntityService.Proofs.Schema.Subtyping

/-! Look-ups that fail where nothing stands. They ask the same as the queries of a graph, but a
place outside of a table is an error, and so is a chain of bases that does not end. In a graph that
was built they agree with the queries, so no query depends on what it answers for a place that there
is not. -/
namespace EntityService.Schema

open Outcome

/-- Why a look-up has no answer. -/
inductive Fault where
  | noType (index : Nat)
  | noOperation (index : Nat)
  | endless (index : Nat)
deriving DecidableEq, Repr

namespace Graph

namespace Guarded

def type (g : Graph) (index : Nat) : Except Fault SchemaType :=
  match g.types[index]? with
  | some t => .ok t
  | none => .error (.noType index)

def operation (g : Graph) (index : Nat) : Except Fault Operation :=
  match g.operations[index]? with
  | some o => .ok o
  | none => .error (.noOperation index)

def climb (g : Graph) : Nat → Nat → Except Fault (List Nat)
  | 0, index => .error (.endless index)
  | steps + 1, index => do
    let t ← type g index
    match t.base with
    | none => return [index]
    | some base => return index :: (← climb g steps base)

def baseChain (g : Graph) (index : Nat) : Except Fault (List Nat) :=
  climb g (g.types.length + 1) index

def sameOrDerived (g : Graph) (candidate base : Nat) : Except Fault Bool := do
  return (← baseChain g candidate).contains base

def derivedTypes (g : Graph) (base : Nat) : Except Fault (List Nat) :=
  (List.range g.types.length).filterM fun t =>
    if t != base then sameOrDerived g t base else return false

/-- A member of the type or of its closest base type that has it. -/
def inherited (members : SchemaType → Members) (g : Graph) (index : Nat) (name : String) :
    Except Fault (Option TypeRef) := do
  (← baseChain g index).findSomeM? fun t => return (members (← type g t)).find? name

def navigation? (g : Graph) (index : Nat) (name : String) : Except Fault (Option TypeRef) :=
  inherited (·.navigation) g index name

def property? (g : Graph) (index : Nat) (name : String) : Except Fault (Option TypeRef) :=
  inherited (·.properties) g index name

def member? (g : Graph) (index : Nat) (name : String) : Except Fault (Option TypeRef) := do
  match ← navigation? g index name with
  | some member => return some member
  | none => property? g index name

def memberOrDerived? (g : Graph) (index : Nat) (name : String) : Except Fault (Option TypeRef) := do
  match ← member? g index name with
  | some member => return some member
  | none => (← derivedTypes g index).findSomeM? (member? g · name)

def offers (g : Graph) (identifier : String) (binding : TypeRef) (o : Operation) :
    Except Fault Bool :=
  if o.isNamed identifier && o.binding.collection == binding.collection then
    sameOrDerived g binding.index o.binding.index
  else return false

def boundOperations (g : Graph) (identifier : String) (binding : TypeRef) :
    Except Fault (List (Operation × Nat)) := do
  let places := (OperationIndex.ofOperations g.operations).places (Naming.unqualified identifier)
  let named ← places.mapM fun place => return (← operation g place, place)
  named.filterM fun o => offers g identifier binding o.1

def typeName (g : Graph) (index : Nat) : Except Fault String :=
  return (← type g index).qualifiedName

end Guarded

/-- Whatever the tables refer to stands in them. -/
structure Closed (g : Graph) : Prop where
  base : ∀ t ∈ g.types, ∀ base, t.base = some base → base < g.types.length
  properties : ∀ t ∈ g.types, ∀ entry ∈ t.properties.entries, entry.2.index < g.types.length
  navigation : ∀ t ∈ g.types, ∀ entry ∈ t.navigation.entries, entry.2.index < g.types.length
  roots : ∀ r ∈ g.roots, r.type < g.types.length
  binding : ∀ o ∈ g.operations, o.binding.index < g.types.length
  parameters : ∀ o ∈ g.operations, ∀ entry ∈ o.parameters.entries, entry.2.index < g.types.length
  returns : ∀ o ∈ g.operations, ∀ type, o.returns = some type → type.index < g.types.length
  names : ∀ name index, g.typeByName? name = some index → index < g.types.length
  places : ∀ name, ∀ place ∈ (OperationIndex.ofOperations g.operations).places name,
    place < g.operations.length

/-- The queries at types of the table look up nothing outside of the tables. -/
structure Answers (g : Graph) : Prop where
  typeName : ∀ index < g.types.length, Guarded.typeName g index = .ok (g.typeName index)
  baseChain : ∀ index < g.types.length, Guarded.baseChain g index = .ok (g.baseChain index)
  sameOrDerived : ∀ candidate < g.types.length, ∀ base,
    Guarded.sameOrDerived g candidate base = .ok (g.sameOrDerived candidate base)
  derivedTypes : ∀ base, Guarded.derivedTypes g base = .ok (g.derivedTypes base)
  navigation : ∀ index < g.types.length, ∀ name,
    Guarded.navigation? g index name = .ok (g.navigation? index name)
  property : ∀ index < g.types.length, ∀ name,
    Guarded.property? g index name = .ok (g.property? index name)
  member : ∀ index < g.types.length, ∀ name,
    Guarded.member? g index name = .ok (g.member? index name)
  memberOrDerived : ∀ index < g.types.length, ∀ name,
    Guarded.memberOrDerived? g index name = .ok (g.memberOrDerived? index name)
  boundOperations : ∀ identifier binding, g.Knows binding →
    Guarded.boundOperations g identifier binding = .ok (g.boundOperations identifier binding)

variable {g : Graph} {index candidate base steps : Nat} {name : String}

theorem Guarded.type_of_some {t : SchemaType} (here : g.types[index]? = some t) :
    Guarded.type g index = .ok t := by
  rw [Guarded.type, here]

theorem Guarded.operation_of_some {o : Operation} (here : g.operations[index]? = some o) :
    Guarded.operation g index = .ok o := by
  rw [Guarded.operation, here]

section Closed

variable (closed : g.Closed)
include closed

theorem Closed.reached (bound : index < g.types.length)
    (path : Relation.ReflTransGen g.Link index base) : base < g.types.length := by
  induction path with
  | refl => exact bound
  | tail _ link _ =>
    obtain ⟨t, here, based⟩ := Option.bind_eq_some_iff.mp link
    exact closed.base t (List.mem_of_getElem? here) _ based

/-- One look-up more than there are links to climb, for the type without a base. -/
theorem Closed.climb (bound : index < g.types.length) (ends : g.endsWithin steps index = true) :
    Guarded.climb g (steps + 1) index = .ok (g.climb steps index) := by
  induction steps generalizing index with
  | zero =>
    have here := List.getElem?_eq_getElem bound
    have root : g.types[index].base = none := by
      simpa [endsWithin, base?, here] using ends
    simp only [Guarded.climb, Guarded.type_of_some here, root, bind, Except.bind]
    rfl
  | succ steps ih =>
    have here := List.getElem?_eq_getElem bound
    rw [Guarded.climb, Guarded.type_of_some here]
    cases link : g.types[index].base with
    | none =>
      have root : g.base? index = none := by simp only [base?, here, Option.bind_some, link]
      simp only [Graph.climb, root, bind, Except.bind, link]
      rfl
    | some base =>
      have based : g.base? index = some base := by simp only [base?, here, Option.bind_some, link]
      have inside := closed.base _ (List.getElem_mem bound) base link
      rw [endsWithin, based] at ends
      simp only [Graph.climb, based, bind, Except.bind, link, ih inside ends]
      rfl

variable (ends : ∀ index, g.endsWithin g.types.length index = true)
include ends

theorem Closed.baseChain (bound : index < g.types.length) :
    Guarded.baseChain g index = .ok (g.baseChain index) :=
  closed.climb bound (ends index)

/-- In tables that are not closed, the look-ups find out what the queries do not. -/
example :
    let dangling : Graph := { types := [⟨"fleet", "truck", .entity, some 7, {}, {}⟩] }
    let endless : Graph := { types := [⟨"fleet", "truck", .entity, some 0, {}, {}⟩] }
    Guarded.baseChain dangling 0 = .error (.noType 7) ∧ dangling.baseChain 0 = [0, 7] ∧
      Guarded.baseChain endless 0 = .error (.endless 0) ∧ endless.baseChain 0 = [0, 0] := by
  decide

theorem Closed.sameOrDerived (bound : candidate < g.types.length) (base : Nat) :
    Guarded.sameOrDerived g candidate base = .ok (g.sameOrDerived candidate base) := by
  rw [Guarded.sameOrDerived, closed.baseChain ends bound]
  rfl

theorem Closed.derivedTypes (base : Nat) :
    Guarded.derivedTypes g base = .ok (g.derivedTypes base) := by
  refine filterM_eq_ok fun t member => ?_
  cases other : t != base with
  | false => rfl
  | true => exact closed.sameOrDerived ends (List.mem_range.mp member) base

theorem Closed.inherited (members : SchemaType → Members) (bound : index < g.types.length)
    (name : String) : Guarded.inherited members g index name =
      .ok ((g.baseChain index).findSome? fun place =>
        (g.types[place]?).bind fun t => (members t).find? name) := by
  rw [Guarded.inherited, closed.baseChain ends bound]
  refine findSomeM?_eq_ok fun place member => ?_
  have here := List.getElem?_eq_getElem (closed.reached bound (climb_reached member))
  rw [Guarded.type_of_some here, here]
  rfl

theorem Closed.member (bound : index < g.types.length) (name : String) :
    Guarded.member? g index name = .ok (g.member? index name) := by
  have navigation : Guarded.navigation? g index name = .ok (g.navigation? index name) :=
    closed.inherited ends _ bound name
  rw [Guarded.member?, navigation, Graph.member?]
  cases g.navigation? index name with
  | some member => rfl
  | none => exact closed.inherited ends _ bound name

theorem Closed.memberOrDerived (bound : index < g.types.length) (name : String) :
    Guarded.memberOrDerived? g index name = .ok (g.memberOrDerived? index name) := by
  rw [Guarded.memberOrDerived?, closed.member ends bound, Graph.memberOrDerived?]
  cases g.member? index name with
  | some member => rfl
  | none =>
    rw [closed.derivedTypes ends]
    exact findSomeM?_eq_ok fun t derived =>
      closed.member ends (mem_derivedTypes_iff.mp derived).1 name

theorem Closed.offers {binding : TypeRef} (known : g.Knows binding) (identifier : String)
    (o : Operation) :
    Guarded.offers g identifier binding o = .ok (g.offers identifier binding o) := by
  rw [Guarded.offers, Graph.offers]
  cases o.isNamed identifier && o.binding.collection == binding.collection with
  | false => rfl
  | true => exact closed.sameOrDerived ends known o.binding.index

/-- The operations under a name are looked up whether they are bound to the type or not. -/
theorem Closed.boundOperations {binding : TypeRef} (known : g.Knows binding)
    (identifier : String) : Guarded.boundOperations g identifier binding =
      .ok (g.boundOperations identifier binding) := by
  have named : (((OperationIndex.ofOperations g.operations).places
      (Naming.unqualified identifier)).mapM fun place =>
        return (← Guarded.operation g place, place)) =
      .ok (g.operationsNamed (Naming.unqualified identifier)) := by
    refine mapM_eq_filterMap fun place listed => ?_
    have here := List.getElem?_eq_getElem (closed.places _ place listed)
    exact ⟨_, by rw [Guarded.operation_of_some here]; rfl, by rw [here]; rfl⟩
  rw [Guarded.boundOperations]
  simp only [named]
  exact filterM_eq_ok fun o _ => closed.offers ends known identifier o.1

theorem Closed.answers : g.Answers where
  typeName index bound := by
    have here := List.getElem?_eq_getElem bound
    rw [Guarded.typeName, Guarded.type_of_some here, typeName, typeNames, List.getElem?_map, here]
    rfl
  baseChain _ := closed.baseChain ends
  sameOrDerived _ := closed.sameOrDerived ends
  derivedTypes := closed.derivedTypes ends
  navigation _ := closed.inherited ends _
  property _ := closed.inherited ends _
  member _ := closed.member ends
  memberOrDerived _ := closed.memberOrDerived ends
  boundOperations identifier _ known := closed.boundOperations ends known identifier

end Closed
end Graph

namespace Built

variable {d : Definitions} {g : Graph} (built : Built d g)
include built

theorem known_of_entry {t : SchemaType} (member : t ∈ g.types) {entry : String × TypeRef}
    (listed : entry ∈ t.properties.entries ∨ entry ∈ t.navigation.entries) : g.Knows entry.2 := by
  obtain ⟨defined, table, each⟩ := built.holds.types
  rw [table] at member
  rcases List.mem_append.mp member with primitive | defines
  · obtain ⟨_, _, rfl⟩ := List.mem_map.mp primitive
    rcases listed with listed | listed
    · cases listed
    · cases listed
  · obtain ⟨definition, _, holds⟩ := exists_part_of_mem each defines
    rcases listed with listed | listed
    · exact holds.properties.known (holds.properties.entries entry listed)
    · exact holds.navigation.known (holds.navigation.entries entry listed)

theorem closed : g.Closed where
  base t member base based := by
    obtain ⟨index, here⟩ := List.mem_iff_getElem?.mp member
    exact built.base_bounded (Option.bind_eq_some_iff.mpr ⟨t, here, based⟩)
  properties _ member _ listed := built.known_of_entry member (.inl listed)
  navigation _ member _ listed := built.known_of_entry member (.inr listed)
  roots r member := by
    obtain ⟨definition, _, holds⟩ := exists_part_of_mem built.holdsRoots member
    obtain ⟨collection, denotes⟩ := holds.type
    exact denotes.known
  binding _ member := (built.known_of_operation member).1
  parameters o member entry listed := by
    obtain ⟨definition, _, holds⟩ := exists_part_of_mem built.holds.operations member
    exact holds.parameters.known (holds.parameters.entries entry listed)
  returns _ member := (built.known_of_operation member).2.2
  names _ _ found := by
    obtain ⟨t, here, _⟩ := built.holds.found _ _ found
    exact (List.getElem?_eq_some_iff.mp here).1
  places _ _ listed := by
    rw [OperationIndex.places_ofOperations] at listed
    obtain ⟨⟨o, _⟩, kept, rfl⟩ := List.mem_map.mp listed
    have here := List.mem_zipIdx_iff_getElem?.mp (List.mem_of_mem_filter kept)
    exact (List.getElem?_eq_some_iff.mp here).1

theorem answers : g.Answers :=
  built.closed.answers fun _ => Graph.ends_of_acyclic fun other _ => built.acyclic other

end Built
end EntityService.Schema
