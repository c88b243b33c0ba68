import EntityService.Proofs.Path.Reachability
import EntityService.Proofs.Path.Spelling
import EntityService.Proofs.Schema.BoundOperations

/-! What the method of a request decides about its path: which operations may be called, and
nothing else. Methods that accept the same kinds of operations are told apart only by their errors,
and a path that calls no operation resolves in the same way under all of them. -/
namespace EntityService.Path

open Schema Outcome

/-- The same error of a request with another method. -/
def PathError.askedBy (method : Http.Method) : PathError → PathError
  | .empty => .empty
  | .unresolved identifier position => .unresolved identifier position
  | .unsupported identifier position => .unsupported identifier position
  | .verbMismatch operation kind _ position => .verbMismatch operation kind method position

/-- An operation of the graph goes by a name, can be bound to a type and accepts a method. -/
structure Callable (g : Graph) (method : Http.Method) (name : String) (type : TypeRef)
    (index : Nat) (o : Operation) : Prop where
  listed : g.operations[index]? = some o
  offered : g.offers name type o = true
  accepted : o.kind.accepts method = true

/-- No operation before a place could be called. -/
def Earliest (g : Graph) (method : Http.Method) (name : String) (type : TypeRef) (index : Nat) :
    Prop :=
  ∀ earlier < index, ∀ other, ¬ Callable g method name type earlier other

/-- The edge calls an operation without a dot in its simple name. Whatever could be called and
stands before it has such a dot, so it is the earliest one if none of those has. -/
structure Calls (g : Graph) (method : Http.Method) (type : TypeRef) (e : Edge) (index : Nat)
    (o : Operation) : Prop where
  kind : e.kind = .ofOperation o.kind
  target : e.target = .operation index
  callable : Callable g method e.identifier type index o
  simple : Naming.isQualified o.name = false
  passed : ∀ earlier < index, ∀ other, Callable g method e.identifier type earlier other →
    Naming.isQualified other.name = true
  earliest_iff : Earliest g method e.identifier type index ↔
    ∀ earlier < index, ∀ other, Callable g method e.identifier type earlier other →
      Naming.isQualified other.name = false

/-- An operation is called on the type that the segment before it leads to. -/
structure Dispatched (g : Graph) (method : Http.Method) (segments : List Segment) : Prop where
  first : ∀ first ∈ segments.head?, first.kind.isOperation = false
  next : ∀ i previous s, segments[i]? = some previous → segments[i + 1]? = some s →
    s.kind.isOperation = true →
      ∃ type index o, previous.result = some type ∧ Calls g method type s.toEdge index o

/-- All operations that segments call are of one kind, the only one that the method accepts. -/
structure OfAcceptedKind (method : Http.Method) (segments : List Segment) : Prop where
  accepted : ∀ s ∈ segments, s.kind.isOperation = true → ∀ kind : OperationKind,
    s.kind = .ofOperation kind ↔ kind.accepts method = true
  same : ∀ s ∈ segments, ∀ t ∈ segments, s.kind.isOperation = true → t.kind.isOperation = true →
    s.kind = t.kind
  neither : (∀ kind : OperationKind, kind.accepts method = false) →
    ∀ s ∈ segments, s.kind.isOperation = false

variable {d : Definitions} {g : Graph} {method other : Http.Method} {c : Context}
  {type : TypeRef} {element : Element} {e : Edge} {edges : List Edge} {groups : List (List Edge)}
  {position index : Nat} {path : List String} {segments : List Segment} {o : Operation}

theorem toError_askedBy (refusal : Refusal) (raw : String) (position : Nat)
    (method other : Http.Method) :
    refusal.toError raw position other = (refusal.toError raw position method).askedBy other := by
  cases refusal <;> rfl

section SameKinds

variable (same : ∀ kind : OperationKind, kind.accepts other = kind.accepts method)
include same

theorem advanceFromType_same (type : TypeRef) (element : Element) :
    advanceFromType g other type element = advanceFromType g method type element := by
  simp only [advanceFromType, invoke, same]

theorem advance_same (c : Context) (element : Element) :
    advance g other c element = advance g method c element := by
  cases c with
  | root | void => rfl
  | typed type => rw [advance, advance, advanceFromType_same same]

theorem walk_same (c : Context) (position : Nat) (path : List String) :
    walk g other c position path = (walk g method c position path).mapError (·.askedBy other) := by
  apply walk_mapError 0
  · exact advance_same same
  · intro refusal raw position
    exact toError_askedBy refusal raw position method other

theorem resolve_same (path : List String) :
    resolve g other path = (resolve g method path).mapError (·.askedBy other) := by
  by_cases nonempty : path ≠ []
  · rw [resolve_of_nonempty nonempty, resolve_of_nonempty nonempty, walk_same same]
    cases walk g method .root 0 path <;> rfl
  · rw [not_not.mp nonempty]
    rfl

end SameKinds

section NoOperation

/-- The method is asked for only where an operation is called. -/
theorem Advances.under (advances : Advances g method c element edges)
    (free : ∀ e ∈ edges, e.kind.isOperation = false) (other : Http.Method) :
    Advances g other c element edges := by
  cases advances with
  | root service found keyed => exact .root service found keyed
  | keyText service taken => exact .keyText service taken
  | member service untaken member keyed => exact .member service untaken member keyed
  | @operation _ _ o =>
    have called := SegmentKind.isOperation_ofOperation o.kind
    exact absurd (free _ (List.mem_singleton.mpr rfl)) (ne_false_of_eq_true called)
  | keyName service untaken memberless bound collection undotted =>
    exact .keyName service untaken memberless bound collection undotted

theorem walk_under (names : g.typeNames.Nodup)
    (walked : walk g method c position path = .ok groups)
    (free : ∀ e ∈ groups.flatten, e.kind.isOperation = false) (other : Http.Method) :
    walk g other c position path = .ok groups := by
  induction path generalizing c position groups with
  | nil => exact walked
  | cons raw path ih =>
    obtain ⟨edges, rest, advanced, later, rfl⟩ := walk_cons_eq_ok_iff.mp walked
    rw [List.flatten_cons] at free
    have advances := (advance_eq_ok_iff names).mp advanced
    have here := advances.under (fun e member => free e (List.mem_append_left _ member)) other
    have there := ih later fun e member => free e (List.mem_append_right _ member)
    exact walk_cons_eq_ok_iff.mpr ⟨edges, rest, here.advance names, there, rfl⟩

theorem resolve_under (names : g.typeNames.Nodup)
    (resolved : resolve g method path = .ok segments)
    (free : ∀ s ∈ segments, s.kind.isOperation = false) (other : Http.Method) :
    resolve g other path = .ok segments := by
  obtain ⟨nonempty, groups, walked, rfl⟩ := resolve_eq_ok_iff.mp resolved
  refine resolve_eq_ok_iff.mpr ⟨nonempty, groups, walk_under names walked ?_ other, rfl⟩
  intro e member
  rw [← map_toEdge_label 0 none groups.flatten] at member
  obtain ⟨s, among, rfl⟩ := List.mem_map.mp member
  exact free s among

end NoOperation

theorem Starts.not_operation (starts : Starts g e) : e.kind.isOperation = false := by
  cases starts with
  | @entry _ entry =>
    show (SegmentKind.ofRoot entry.kind).isOperation = false
    cases entry.kind <;> rfl

theorem earliest_iff_simple {name : String}
    (passed : ∀ earlier < index, ∀ other, Callable g method name type earlier other →
      Naming.isQualified other.name = true) :
    Earliest g method name type index ↔
      ∀ earlier < index, ∀ other, Callable g method name type earlier other →
        Naming.isQualified other.name = false := by
  constructor
  · intro earliest earlier early other callable
    exact absurd callable (earliest earlier early other)
  · intro simple earlier early other callable
    have dotted := passed earlier early other callable
    exact absurd (simple earlier early other callable) (ne_false_of_eq_true dotted)

theorem Follows.calls (follows : Follows g method type e) (called : e.kind.isOperation = true) :
    ∃ index o, Calls g method type e index o := by
  cases follows with
  | key => contradiction
  | member member => cases member <;> contradiction
  | @operation name o index _ memberless found listed =>
    obtain ⟨_, ⟨simple, offered, accepted⟩, first⟩ :=
      (Graph.find?_boundOperations_eq_some_iff (p := fun o => o.kind.accepts method)).mp found
    have passed : ∀ earlier < index, ∀ other, Callable g method name type earlier other →
        Naming.isQualified other.name = true := by
      intro earlier early other callable
      exact first earlier early other callable.listed callable.offered callable.accepted
    exact ⟨index, o, rfl, rfl, ⟨listed, offered, accepted⟩, simple, passed,
      earliest_iff_simple passed⟩

theorem Route.dispatched (route : Route g method .root edges) :
    Dispatched g method (label 0 none edges) where
  first := by
    intro first head
    cases edges with
    | nil => contradiction
    | cons e edges =>
      cases head
      exact route.start_of_root.not_operation
  next := by
    intro i previous s before here called
    obtain ⟨_, rfl⟩ := List.getElem?_eq_some_iff.mp before
    obtain ⟨bound, rfl⟩ := List.getElem?_eq_some_iff.mp here
    have inside : i + 1 < edges.length := by simpa using bound
    obtain ⟨type, result, follows⟩ := route.follows inside
    rw [← getElem_label_toEdge inside bound] at follows
    obtain ⟨index, o, calls⟩ := follows.calls called
    rw [getElem_label_toEdge (Nat.lt_of_succ_lt inside)]
    exact ⟨type, index, o, result, calls⟩

/-- No method both reads and writes. -/
theorem accepts_unique {kind another : OperationKind} (accepted : kind.accepts method = true)
    (also : another.accepts method = true) : kind = another := by
  have apart : ∀ token ∈ OperationKind.action.methods, token ∉ OperationKind.function.methods := by
    decide
  simp only [OperationKind.accepts, List.contains_iff_mem] at accepted also
  cases kind <;> cases another
  case action.action | function.function => rfl
  case action.function => exact absurd also (apart _ accepted)
  case function.action => exact absurd accepted (apart _ also)

theorem SegmentKind.exists_of_isOperation {kind : SegmentKind} (called : kind.isOperation = true) :
    ∃ operation, kind = ofOperation operation := by
  cases kind <;> try contradiction
  · exact ⟨.action, rfl⟩
  · exact ⟨.function, rfl⟩

theorem SegmentKind.ofOperation_injective : Function.Injective ofOperation := by
  intro kind another same
  cases kind <;> cases another <;> first | rfl | contradiction

namespace Dispatched

variable {s : Segment} (dispatched : Dispatched g method segments)
include dispatched

theorem accepted (member : s ∈ segments) (called : s.kind.isOperation = true)
    (kind : OperationKind) : s.kind = .ofOperation kind ↔ kind.accepts method = true := by
  obtain ⟨i, bound, rfl⟩ := List.mem_iff_getElem.mp member
  cases i with
  | zero =>
    have first := dispatched.first _ (List.head?_eq_getElem? ▸ List.getElem?_eq_getElem bound)
    exact absurd called (Bool.eq_false_iff.mp first)
  | succ i =>
    obtain ⟨type, index, o, _, calls⟩ := dispatched.next i _ _
      (List.getElem?_eq_getElem (Nat.lt_of_succ_lt bound)) (List.getElem?_eq_getElem bound) called
    have accepted := calls.callable.accepted
    rw [calls.kind]
    constructor
    · intro same
      rwa [← SegmentKind.ofOperation_injective same]
    · intro accepts
      rw [accepts_unique accepts accepted]

theorem ofAcceptedKind : OfAcceptedKind method segments where
  accepted := fun _ => dispatched.accepted
  same := by
    intro s member t another called also
    obtain ⟨kind, one⟩ := SegmentKind.exists_of_isOperation called
    have accepts := (dispatched.accepted member called kind).mp one
    rw [one, (dispatched.accepted another also kind).mpr accepts]
  neither := by
    intro unaccepted s member
    by_contra called
    have called := eq_true_of_ne_false called
    obtain ⟨kind, one⟩ := SegmentKind.exists_of_isOperation called
    have accepts := (dispatched.accepted member called kind).mp one
    exact Bool.noConfusion ((unaccepted kind).symm.trans accepts)

end Dispatched

/-- The method of a request decides which operations a path calls and nothing else. An operation is
the first one of its name that can be bound there and accepts the method, if and only if none of
those before it has a dot in its simple name. -/
theorem resolve_by_accepted_kinds (built : d.build = .ok g) (path : List String) :
    (∀ method other : Http.Method,
      (∀ kind : OperationKind, kind.accepts other = kind.accepts method) →
      resolve g other path = (resolve g method path).mapError (·.askedBy other)) ∧
    ∀ method segments, resolve g method path = .ok segments →
      ((∀ s ∈ segments, s.kind.isOperation = false) →
        ∀ other, resolve g other path = .ok segments) ∧
      OfAcceptedKind method segments ∧ Dispatched g method segments := by
  have names := (Definitions.build_eq_ok_iff.mp built).typeNames_nodup
  constructor
  · intro method other same
    exact resolve_same same path
  · intro method segments resolved
    have dispatched : Dispatched g method segments := by
      obtain ⟨_, groups, walked, rfl⟩ := resolve_eq_ok_iff.mp resolved
      exact (walk_route names walked).dispatched
    exact ⟨resolve_under names resolved, dispatched.ofAcceptedKind, dispatched⟩

/-- A depot of trucks with several operations by one name. -/
def depot : Definitions := .ofDeclarations [
  .inNamespace "depot",
  .entityType "truck" [],
  .entityType "tanker" [.base "truck"],
  .entitySet "tankers" "tanker",
  .action "yard.check" "truck" [],
  .inNamespace "yard",
  .function "check" "depot.truck" [.returns "depot.truck"],
  .action "check" "depot.tanker" [],
  .action "check" "depot.truck" []]

def depotGraph : Graph := depot.build.toOption.getD { types := [] }

/-- A tanker is checked by the first action that takes it, or read by a function of that name. -/
theorem resolve_by_accepted_kinds_depot : ∃ segments,
    depot.build = .ok depotGraph ∧
    (∀ kind : OperationKind, kind.accepts ⟨"HEAD"⟩ = kind.accepts ⟨"GET"⟩) ∧
    resolve depotGraph ⟨"HEAD"⟩ ["tankers('7')", "check"] =
      (resolve depotGraph ⟨"GET"⟩ ["tankers('7')", "check"]).mapError (·.askedBy ⟨"HEAD"⟩) ∧
    resolve depotGraph ⟨"POST"⟩ ["tankers('7')", "check"] = .ok segments ∧
    segments.map (·.target) = [.type 18, .type 18, .operation 2] ∧
    OfAcceptedKind ⟨"POST"⟩ segments ∧ Dispatched depotGraph ⟨"POST"⟩ segments := by
  have built : depot.build = .ok depotGraph := by decide
  have reading : ∀ kind : OperationKind, kind.accepts ⟨"HEAD"⟩ = kind.accepts ⟨"GET"⟩ := by
    intro kind
    cases kind <;> decide
  have resolved : resolve depotGraph ⟨"POST"⟩ ["tankers('7')", "check"] =
      .ok (label 0 none [.toType "tankers" .entitySetRoot ⟨18, true⟩, .toKey "'7'" ⟨18, true⟩,
        ⟨"check", .action, .operation 2, none, none⟩]) := by
    decide
  obtain ⟨same, runs⟩ := resolve_by_accepted_kinds built ["tankers('7')", "check"]
  obtain ⟨_, kinds, dispatched⟩ := runs _ _ resolved
  exact ⟨_, built, reading, same _ _ reading, resolved, by decide, kinds, dispatched⟩

/-- The action whose simple name has a dot is of the name that is asked for, comes first and takes
trucks, and the path calls another one. -/
theorem resolve_passes_dotted_name : depot.build = .ok depotGraph ∧
    resolve depotGraph ⟨"POST"⟩ ["tankers('7')", "yard.check"] =
      .ok (label 0 none [.toType "tankers" .entitySetRoot ⟨18, true⟩, .toKey "'7'" ⟨18, true⟩,
        ⟨"yard.check", .action, .operation 2, none, none⟩]) ∧
    (∃ o, Callable depotGraph ⟨"POST"⟩ "yard.check" ⟨18, false⟩ 0 o) ∧
    ¬ Earliest depotGraph ⟨"POST"⟩ "yard.check" ⟨18, false⟩ 2 := by
  have callable : Callable depotGraph ⟨"POST"⟩ "yard.check" ⟨18, false⟩ 0
      { space := "depot", name := "yard.check", kind := .action, binding := ⟨17, false⟩ } :=
    ⟨by decide, by decide, by decide⟩
  refine ⟨by decide, by decide, ⟨_, callable⟩, ?_⟩
  intro earliest
  exact earliest 0 (by decide) _ callable

end EntityService.Path
