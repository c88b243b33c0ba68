import EntityService.Path.ClassName
import EntityService.Proofs.Path.CallText
import EntityService.Proofs.Path.Reachability

/-! Class names and paths. Members that a path goes along are found from the last segment by their
names, and the search ends at the same type as the path. It does not matter under which of its names
the resource itself is given first, or whether it is given at all. -/
namespace EntityService.Path

open Schema Naming Outcome

/-- The names by which the resource of a segment goes. -/
inductive Named (g : Graph) (s : Segment) (type : TypeRef) : String → Prop where
  | identifier : Named g s type s.identifier
  | name : Named g s type (unqualified s.name)
  | singular : Named g s type (singular (unqualified s.name))
  | type : Named g s type (g.simpleTypeName type.index)

def Edge.ToMember (e : Edge) : Prop :=
  e.kind = .navigationProperty ∨ e.kind = .structuralProperty

/-- The edge leads to a type and does not call an operation. -/
def Edge.Typed (e : Edge) (type : TypeRef) : Prop :=
  e.target = .type type.index ∧ e.result = some type

variable {d : Definitions} {g : Graph} {method : Http.Method} {c : Context} {type : TypeRef}
  {raw first : String} {edges es : List Edge} {e : Edge} {groups : List (List Edge)}
  {path identifiers : List String} {segments longer : List Segment} {s last : Segment}

theorem after_of_last (final : es.getLast? = some e) : c.after es = .ofResult e.result := by
  rw [Context.after, final]

theorem Context.result_of_typed {result : Option TypeRef}
    (same : Context.ofResult result = .typed type) : result = some type := by
  cases result <;> cases same
  rfl

theorem mem_resourceNames_iff {x : String} :
    (resourceNames g s type).contains x = true ↔ Named g s type x := by
  rw [List.contains_iff_mem, resourceNames]
  constructor
  · simp only [List.mem_cons, List.not_mem_nil, or_false]
    rintro (rfl | rfl | rfl | rfl)
    · exact .identifier
    · exact .name
    · exact .singular
    · exact .type
  · intro named
    cases named <;> simp

section Search

variable (typed : s.Typed type)
include typed

theorem parameter?_of_typed (x : String) : parameter? g s x = none := by
  rw [parameter?, Edge.operation?, typed.1, Option.bind_none]

theorem first?_of_named {x : String} (named : Named g s type x) : first? g s x = some type := by
  rw [first?, parameter?_of_typed typed, resource?, typed.2, Option.bind_some,
    if_pos (mem_resourceNames_iff.mpr named)]
  rfl

theorem first?_of_unnamed {x : String} (unnamed : ¬ Named g s type x) : first? g s x =
    (g.memberOrDerived? type.index x).or ((g.root? x).map (·.typeRef)) := by
  rw [first?, parameter?_of_typed typed, resource?, typed.2, Option.bind_some,
    if_neg (mem_resourceNames_iff.not.mpr unnamed), Option.none_or]

theorem className_of_named (named : Named g s type first) (identifiers : List String) :
    className g s (first :: identifiers) = classNameFrom g type 1 identifiers := by
  rw [className, first?_of_named typed named]

/-- Where the first name is not one of the resource, it may be left to the members. -/
theorem className_of_unnamed (unnamed : ¬ Named g s type first) {name : String}
    (searched : classNameFrom g type 0 (first :: identifiers) = .ok name) :
    className g s (first :: identifiers) = .ok name := by
  rw [classNameFrom] at searched
  cases found : g.memberOrDerived? type.index first with
  | none =>
    rw [found] at searched
    contradiction
  | some member =>
    rw [found] at searched
    rw [className, first?_of_unnamed typed unnamed, found]
    exact searched

end Search

theorem classNameFrom_cons {member : TypeRef}
    (found : g.memberOrDerived? type.index first = some member) (position : Nat)
    (identifiers : List String) : classNameFrom g type position (first :: identifiers) =
      classNameFrom g member (position + 1) identifiers := by
  rw [classNameFrom, found]

/-- A name that leads to a member is found among the members of the type or its base types. -/
theorem Member.found {kind : SegmentKind} {target : TypeRef}
    (member : Member g type raw kind target) (property : kind ≠ .cast) :
    g.memberOrDerived? type.index raw = some target := by
  rw [Graph.memberOrDerived?, Graph.member?]
  cases member with
  | navigation found => rw [found, Option.some_or, Option.some_or]
  | property missing found => rw [missing, found, Option.none_or, Option.some_or]
  | cast => contradiction

/-- Where an element of a path leads to members only, it is the name of one member. -/
theorem Advances.to_member (advances : Advances g method (.typed type) (.ofText raw) edges)
    (members : ∀ e ∈ edges, e.ToMember) : ∃ kind target, edges = [.toType raw kind target] ∧
      g.memberOrDerived? type.index raw = some target := by
  have noKey : ∀ key target, Edge.toKey key target ∉ edges := by
    intro key target among
    rcases members _ among with kind | kind <;> contradiction
  generalize element : Element.ofText raw = e at advances
  cases advances with
  | keyText | keyName => exact absurd (List.mem_singleton.mpr rfl) (noKey _ _)
  | @operation _ _ o =>
    have kind := members _ (List.mem_singleton.mpr rfl)
    cases operation : o.kind <;>
      simp [Edge.ToMember, Edge.toOperation, SegmentKind.ofOperation, operation] at kind
  | @member _ _ kind target _ _ _ member keyed =>
    cases arguments : e.arguments with
    | some key =>
      rw [arguments] at keyed
      cases keyed
      exact absurd (by simp) (noKey key target)
    | none =>
      rw [arguments] at keyed
      cases keyed
      have name : e.name = raw := element ▸ Element.name_of_plain (element ▸ arguments)
      rw [name] at member members ⊢
      refine ⟨kind, target, rfl, member.found ?_⟩
      rintro rfl
      rcases members _ (List.mem_singleton.mpr rfl) with kind | kind <;> contradiction

/-- The induction is on the identifiers. A path that goes along them with members only takes each
of them for one edge, and the search takes the same one. -/
theorem classNameFrom_of_walk (names : g.typeNames.Nodup) {position : Nat}
    (walked : walk g method (.typed type) position identifiers = .ok groups)
    (members : ∀ e ∈ groups.flatten, e.ToMember) : ∃ last,
      (Context.typed type).after groups.flatten = .typed last ∧
        ∀ count, classNameFrom g type count identifiers = .ok (g.typeName last.index) := by
  induction identifiers generalizing type position groups with
  | nil =>
    cases walked
    exact ⟨type, rfl, fun _ => rfl⟩
  | cons raw identifiers ih =>
    obtain ⟨edges, rest, advanced, later, rfl⟩ := walk_cons_eq_ok_iff.mp walked
    rw [List.flatten_cons, List.forall_mem_append] at members
    obtain ⟨kind, target, rfl, found⟩ :=
      ((advance_eq_ok_iff names).mp advanced).to_member members.1
    obtain ⟨last, ends, searched⟩ := ih later members.2
    refine ⟨last, ?_, fun count => ?_⟩
    · rw [List.flatten_cons, Context.after_append]
      exact ends
    · rw [classNameFrom_cons found]
      exact searched (count + 1)

theorem Follows.typed (follows : Follows g method type e)
    (addressable : e.kind ∉ [.action, .function]) : ∃ target, e.Typed target := by
  cases follows with
  | key => exact ⟨_, rfl, rfl⟩
  | member => exact ⟨_, rfl, rfl⟩
  | @operation _ o =>
    cases kind : o.kind <;> simp [Edge.toOperation, SegmentKind.ofOperation, kind] at addressable

theorem Route.typed (route : Route g method c es) (member : e ∈ es)
    (addressable : e.kind ∉ [.action, .function]) : ∃ target, e.Typed target := by
  induction route with
  | nil => contradiction
  | start starts _ ih =>
    rcases List.mem_cons.mp member with rfl | later
    · cases starts
      exact ⟨_, rfl, rfl⟩
    · exact ih later
  | next follows _ ih =>
    rcases List.mem_cons.mp member with rfl | later
    · exact follows.typed addressable
    · exact ih later

/-- The last segment of a path leads to a type unless it calls an operation. -/
theorem typed_of_resolve (names : g.typeNames.Nodup)
    (resolved : resolve g method path = .ok segments) (final : segments.getLast? = some s)
    (addressable : s.kind ∉ [.action, .function]) : ∃ type, s.Typed type := by
  obtain ⟨_, groups, walked, rfl⟩ := resolve_eq_ok_iff.mp resolved
  exact (walk_route names walked).typed (List.mem_of_getLast? (getLast?_of_label final)) addressable

/-- Along names of members, the class name that is searched from the last segment of a path is the
type name of the last segment of the longer path. -/
theorem className_agrees (built : d.build = .ok g)
    (resolved : resolve g method path = .ok segments) (final : segments.getLast? = some s)
    (addressable : s.kind ∉ [.action, .function])
    (further : resolve g method (path ++ identifiers) = .ok longer)
    (members : ∀ t ∈ longer.drop segments.length,
      t.kind = .navigationProperty ∨ t.kind = .structuralProperty)
    (finalLonger : longer.getLast? = some last) : ∃ type name,
      s.result = some type ∧ last.typeName? g = some name ∧
      (∀ x, Named g s type x → className g s (x :: identifiers) = .ok name) ∧
      ∀ first ∈ identifiers.head?, ¬ Named g s type first →
        className g s identifiers = .ok name := by
  have names := (Definitions.build_eq_ok_iff.mp built).typeNames_nodup
  obtain ⟨type, typed⟩ := typed_of_resolve names resolved final addressable
  obtain ⟨_, groups, walked, rfl⟩ := resolve_eq_ok_iff.mp resolved
  have edge := getLast?_of_label final
  obtain ⟨_, all, walkedAll, rfl⟩ := resolve_eq_ok_iff.mp further
  obtain ⟨_, later, again, on, rfl⟩ := walk_append_eq_ok_iff.mp walkedAll
  cases walked.symm.trans again
  have edgeLonger := getLast?_of_label finalLonger
  have tail : ((label 0 none (groups ++ later).flatten).drop
      (label 0 none groups.flatten).length).map (·.toEdge) = later.flatten := by
    rw [List.map_drop, map_toEdge_label, List.flatten_append, length_label, List.drop_left]
  have memberEdges : ∀ e ∈ later.flatten, e.ToMember := by
    intro e member
    rw [← tail] at member
    obtain ⟨t, among, rfl⟩ := List.mem_map.mp member
    exact members t among
  rw [after_of_last edge, typed.2] at on
  obtain ⟨target, ends, searched⟩ := classNameFrom_of_walk names on memberEdges
  have result : last.result = some target := by
    rw [List.flatten_append] at edgeLonger
    have whole := after_of_last edgeLonger (c := .root)
    rw [Context.after_append, after_of_last edge, typed.2] at whole
    exact Context.result_of_typed (whole.symm.trans ends)
  refine ⟨type, g.typeName target.index, typed.2, ?_, fun x named => ?_, fun first head unnamed => ?_⟩
  · rw [Edge.typeName?, result, Option.map_some]
  · rw [className_of_named typed named, searched]
  · cases identifiers with
    | nil => contradiction
    | cons raw identifiers =>
      cases head
      exact className_of_unnamed typed unnamed (searched 0)

/-- The manager of a member, searched from the member. -/
theorem className_agrees_manager : ∃ segments s longer last,
    directory.build = .ok directoryGraph ∧
    resolve directoryGraph ⟨"GET"⟩ ["members('1')"] = .ok segments ∧
    segments.getLast? = some s ∧ s.kind ∉ [.action, .function] ∧
    resolve directoryGraph ⟨"GET"⟩ (["members('1')"] ++ ["manager", "name"]) = .ok longer ∧
    (∀ t ∈ longer.drop segments.length,
      t.kind = .navigationProperty ∨ t.kind = .structuralProperty) ∧
    longer.getLast? = some last ∧ ∃ type name,
      s.result = some type ∧ last.typeName? directoryGraph = some name ∧
      (∀ x, Named directoryGraph s type x →
        className directoryGraph s (x :: ["manager", "name"]) = .ok name) ∧
      ∀ first ∈ ["manager", "name"].head?, ¬ Named directoryGraph s type first →
        className directoryGraph s ["manager", "name"] = .ok name := by
  have resolved : resolve directoryGraph ⟨"GET"⟩ ["members('1')"] = .ok (label 0 none
      [.toType "members" .entitySetRoot ⟨17, true⟩, .toKey "'1'" ⟨17, true⟩]) := by
    decide
  have further : resolve directoryGraph ⟨"GET"⟩ (["members('1')"] ++ ["manager", "name"]) =
      .ok (label 0 none
        [.toType "members" .entitySetRoot ⟨17, true⟩, .toKey "'1'" ⟨17, true⟩,
          .toType "manager" .navigationProperty ⟨17, false⟩,
          .toType "name" .structuralProperty ⟨15, false⟩]) := by
    decide
  exact ⟨_, _, _, _, directory_built, resolved, rfl, by decide, further, by decide, rfl,
    className_agrees directory_built resolved rfl (by decide) further (by decide) rfl⟩

end EntityService.Path
