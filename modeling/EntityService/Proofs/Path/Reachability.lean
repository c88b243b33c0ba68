import EntityService.Proofs.Path.Steps
import EntityService.Proofs.Path.Walks
import EntityService.Proofs.Schema.BoundOperations

/-! What the segments of a resolved path are. The first one is an entry of the service root, and
every other one is reached from the type that the segment before it leads to, along an edge of the
graph which its kind determines. -/
namespace EntityService.Path

open Schema

/-- The edges from the service root. -/
inductive Starts (g : Graph) : Edge → Prop where
  | entry : g.root? name = some entry → Starts g (.toType name (.ofRoot entry.kind) entry.typeRef)

/-- The edges from a type. An operation is the first one that is bound to the type under its name
and accepts the method, where no member of the type goes by that name. -/
inductive Follows (g : Graph) (method : Http.Method) (type : TypeRef) : Edge → Prop where
  | key : type.collection = true → Follows g method type (.toKey key type)
  | member : Member g type name kind target → Follows g method type (.toType name kind target)
  | operation : Memberless g type name →
      (g.boundOperations name type).find? (·.1.kind.accepts method) = some (o, index) →
      g.operations[index]? = some o →
      Follows g method type (.toOperation name arguments o index)

/-- Edges that lie end to end. -/
inductive Route (g : Graph) (method : Http.Method) : Context → List Edge → Prop where
  | nil : Route g method c []
  | start : Starts g e → Route g method (.ofResult e.result) es → Route g method .root (e :: es)
  | next : Follows g method type e → Route g method (.ofResult e.result) es →
      Route g method (.typed type) (e :: es)

/-- Segments that begin at the service root and go on from type to type. -/
structure Connected (g : Graph) (method : Http.Method) (segments : List Segment) : Prop where
  nonempty : segments ≠ []
  positions : ∀ i (bound : i < segments.length), segments[i].position = i
  first : ∀ first ∈ segments.head?, Starts g first.toEdge
  next : ∀ i (bound : i + 1 < segments.length), ∃ type,
    segments[i].result = some type ∧ Follows g method type segments[i + 1].toEdge
  inner : ∀ i (bound : i + 1 < segments.length),
    segments[i + 1].kind ≠ .entitySetRoot ∧ segments[i + 1].kind ≠ .singleton

variable {d : Definitions} {g : Graph} {method : Http.Method} {c : Context} {type target : TypeRef}
  {e : Edge} {es fs : List Edge} {path : List String} {segments : List Segment}

theorem Follows.not_root (follows : Follows g method type e) :
    e.kind ≠ .entitySetRoot ∧ e.kind ≠ .singleton := by
  cases follows with
  | key => exact ⟨nofun, nofun⟩
  | member member => cases member <;> exact ⟨nofun, nofun⟩
  | @operation _ o =>
    show SegmentKind.ofOperation o.kind ≠ _ ∧ SegmentKind.ofOperation o.kind ≠ _
    cases o.kind <;> exact ⟨nofun, nofun⟩

namespace Route

theorem append (first : Route g method c es) (second : Route g method (c.after es) fs) :
    Route g method c (es ++ fs) := by
  induction first with
  | nil => exact second
  | start starts _ ih => exact .start starts (ih (Context.after_cons .. ▸ second))
  | next follows _ ih => exact .next follows (ih (Context.after_cons .. ▸ second))

theorem start_of_root (route : Route g method .root (e :: es)) : Starts g e := by
  cases route with
  | start starts _ => exact starts

/-- Only a result leads on, so nothing follows an operation without one. -/
theorem next_of_result {result : Option TypeRef}
    (route : Route g method (.ofResult result) (e :: es)) :
    ∃ type, result = some type ∧ Follows g method type e := by
  cases result with
  | none => cases route
  | some type =>
    cases route with
    | next follows _ => exact ⟨type, rfl, follows⟩

theorem follows (route : Route g method c es) {i : Nat} (bound : i + 1 < es.length) :
    ∃ type, es[i].result = some type ∧ Follows g method type es[i + 1] := by
  induction route generalizing i with
  | nil => contradiction
  | @start e es _ route ih | @next _ e es _ route ih =>
    cases i with
    | succ i => exact ih (Nat.lt_of_succ_lt_succ bound)
    | zero =>
      obtain ⟨f, es, rfl⟩ := List.exists_cons_of_length_pos (Nat.lt_of_succ_lt_succ bound)
      exact route.next_of_result

end Route

theorem Keyed.route_of (keyed : Keyed name kind target arguments es)
    (first : ∀ es, Route g method (.ofResult (some target)) es →
      Route g method c (.toType name kind target :: es)) : Route g method c es := by
  cases keyed with
  | bare => exact first [] .nil
  | key collection _ => exact first _ (.next (.key collection) .nil)

theorem operation_of_mem_boundOperations {identifier : String} {o : Operation} {index : Nat}
    (bound : (o, index) ∈ g.boundOperations identifier type) : g.operations[index]? = some o := by
  have named := List.mem_of_mem_filter bound
  rw [Graph.operationsNamed_eq] at named
  exact List.mem_zipIdx_iff_getElem?.mp (List.mem_of_mem_filter named)

theorem Advances.route {element : Element} (advances : Advances g method c element es) :
    Route g method c es := by
  cases advances with
  | root _ found keyed => exact keyed.route_of fun _ => .start (.entry found)
  | keyText _ taken => exact .next (.key taken.1) .nil
  | member _ _ member keyed => exact keyed.route_of fun _ => .next (.member member)
  | operation _ _ memberless accepted =>
    have listed := operation_of_mem_boundOperations (List.mem_of_find?_eq_some accepted)
    exact .next (.operation memberless accepted listed) .nil
  | keyName _ _ _ _ collection _ => exact .next (.key collection) .nil

theorem walk_route (names : g.typeNames.Nodup) {position : Nat} {groups : List (List Edge)}
    (walked : walk g method c position path = .ok groups) : Route g method c groups.flatten := by
  induction path generalizing c position groups with
  | nil =>
    cases walked
    exact .nil
  | cons raw path ih =>
    obtain ⟨edges, rest, advanced, later, rfl⟩ := walk_cons_eq_ok_iff.mp walked
    rw [List.flatten_cons]
    exact ((advance_eq_ok_iff names).mp advanced).route.append (ih later)

theorem resolve_route (names : g.typeNames.Nodup)
    (resolved : resolve g method path = .ok segments) :
    Route g method .root (segments.map (·.toEdge)) := by
  obtain ⟨_, groups, walked, rfl⟩ := resolve_eq_ok_iff.mp resolved
  rw [map_toEdge_label]
  exact walk_route names walked

theorem getElem_label_position {position : Nat} {previous : Option String} {i : Nat}
    (bound : i < (label position previous es).length) :
    (label position previous es)[i].position = position + i := by
  have positions := List.getElem_of_eq (map_position_label position previous es)
    (by simpa using bound)
  simpa using positions

theorem getElem_label_toEdge {position : Nat} {previous : Option String} {i : Nat}
    (inside : i < es.length) (bound : i < (label position previous es).length) :
    (label position previous es)[i].toEdge = es[i] := by
  have edges := List.getElem_of_eq (map_toEdge_label position previous es) (by simpa using bound)
  simpa using edges

theorem Route.connected (route : Route g method .root es) (nonempty : es ≠ []) :
    Connected g method (label 0 none es) := by
  obtain ⟨head, tail, rfl⟩ := List.exists_cons_of_ne_nil nonempty
  have next : ∀ i (bound : i + 1 < (label 0 none (head :: tail)).length), ∃ type,
      (label 0 none (head :: tail))[i].result = some type ∧
        Follows g method type (label 0 none (head :: tail))[i + 1].toEdge := by
    intro i bound
    have inside : i + 1 < (head :: tail).length := by simpa using bound
    obtain ⟨type, result, follows⟩ := route.follows inside
    rw [getElem_label_toEdge (Nat.lt_of_succ_lt inside), getElem_label_toEdge inside]
    exact ⟨type, result, follows⟩
  refine ⟨List.cons_ne_nil _ _, fun i bound => ?_, ?_, next, fun i bound => ?_⟩
  · simpa using getElem_label_position bound
  · rintro first ⟨⟩
    exact route.start_of_root
  · obtain ⟨type, _, follows⟩ := next i bound
    exact follows.not_root

/-- Whatever resolves is connected: no rule leads to a segment by another way than an edge from the
type where the segment before it has led. -/
theorem resolve_connected (built : d.build = .ok g)
    (resolved : resolve g method path = .ok segments) : Connected g method segments := by
  have names := (Definitions.build_eq_ok_iff.mp built).typeNames_nodup
  obtain ⟨nonempty, groups, walked, rfl⟩ := resolve_eq_ok_iff.mp resolved
  refine (walk_route names walked).connected ?_
  obtain ⟨raw, path, rfl⟩ := List.exists_cons_of_ne_nil nonempty
  obtain ⟨edges, rest, advanced, _, rfl⟩ := walk_cons_eq_ok_iff.mp walked
  have first := ((advance_eq_ok_iff names).mp advanced).nonempty
  rw [List.flatten_cons]
  exact List.append_ne_nil_of_left_ne_nil first _

/-- A guest of the directory is locked. -/
theorem resolve_connected_lock : ∃ segments,
    directory.build = .ok directoryGraph ∧
    resolve directoryGraph ⟨"POST"⟩ ["members('1')", "directory.guest", "lock"] = .ok segments ∧
    segments.map (·.kind) = [.entitySetRoot, .key, .cast, .action] ∧
    Connected directoryGraph ⟨"POST"⟩ segments := by
  have resolved : resolve directoryGraph ⟨"POST"⟩ ["members('1')", "directory.guest", "lock"] =
      .ok (label 0 none [.toType "members" .entitySetRoot ⟨17, true⟩, .toKey "'1'" ⟨17, true⟩,
        .toType "directory.guest" .cast ⟨18, false⟩,
        ⟨"lock", .action, .operation 0, none, none⟩]) := by
    decide
  exact ⟨_, directory_built, resolved, by decide, resolve_connected directory_built resolved⟩

end EntityService.Path
