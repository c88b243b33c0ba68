import EntityService.Proofs.Path.CallText
import EntityService.Proofs.Path.Steps
import EntityService.Proofs.Path.Walks

/-! What a path says, read back from its segments. Every element is spelled by one segment, or by two
where a key stands in parentheses behind a name, so nothing of a path is lost and nothing is added. -/
namespace EntityService.Path

open Schema Outcome

namespace SegmentKind

/-- The kinds of segments that a key in parentheses may stand behind. -/
def isKeyable : SegmentKind → Bool
  | .entitySetRoot | .singleton | .navigationProperty | .structuralProperty | .cast => true
  | .key | .action | .function => false

def isOperation : SegmentKind → Bool
  | .action | .function => true
  | _ => false

theorem isKeyable_ofRoot (kind : RootKind) : (ofRoot kind).isKeyable = true := by
  cases kind <;> rfl

theorem isOperation_ofOperation (kind : OperationKind) : (ofOperation kind).isOperation = true := by
  cases kind <;> rfl

end SegmentKind

/-- The element that a group of edges stands for. -/
inductive Spells : List Edge → String → Prop where
  | name : e.arguments = none → e.identifier = raw → Spells [e] raw
  | call : e.kind.isOperation = true → e.arguments = some arguments →
      e.identifier ++ "(" ++ arguments ++ ")" = raw → Spells [e] raw
  | keyed : e.kind.isKeyable = true → e.arguments = none → key.kind = .key →
      key.arguments = none → Text.allBlank key.identifier.toList = false →
      e.identifier ++ "(" ++ key.identifier ++ ")" = raw → Spells [e, key] raw

/-- The text of a group of edges, with arguments or a key in parentheses. -/
def spelling : List Edge → String
  | [e] => match e.arguments with
    | some arguments => e.identifier ++ "(" ++ arguments ++ ")"
    | none => e.identifier
  | [e, key] => e.identifier ++ "(" ++ key.identifier ++ ")"
  | _ => ""

variable {d : Definitions} {g : Graph} {method : Http.Method} {c : Context} {raw : String}
  {kind : SegmentKind} {target : TypeRef} {edges : List Edge} {groups : List (List Edge)}
  {path : List String} {segments : List Segment}

namespace Spells

theorem spelling_eq (spells : Spells edges raw) : spelling edges = raw := by
  cases spells with
  | name plain text => simp only [spelling, plain, text]
  | call _ given text => simp only [spelling, given, text]
  | keyed _ _ _ _ _ text => exact text

theorem length_pos (spells : Spells edges raw) : 1 ≤ edges.length := by
  cases spells <;> simp

theorem length_le_two (spells : Spells edges raw) : edges.length ≤ 2 := by
  cases spells <;> simp

end Spells

theorem Keyed.spells {e : Element} (element : e = .ofText raw)
    (keyed : Keyed e.name kind target e.arguments edges) (keyable : kind.isKeyable = true) :
    Spells edges raw := by
  subst element
  cases given : (Element.ofText raw).arguments with
  | none =>
    rw [given] at keyed
    cases keyed
    exact .name rfl (Element.name_of_plain given)
  | some key =>
    rw [given] at keyed
    cases keyed with
    | key _ nonblank => exact .keyed keyable rfl rfl rfl nonblank (Element.text_of_call given)

theorem Member.isKeyable {type : TypeRef} {name : String}
    (member : Member g type name kind target) : kind.isKeyable = true := by
  cases member <;> rfl

theorem Advances.spells (advances : Advances g method c (.ofText raw) edges) :
    Spells edges raw := by
  cases advances with
  | root _ found keyed => exact keyed.spells rfl (SegmentKind.isKeyable_ofRoot _)
  | keyText | keyName => exact .name rfl (Element.ofText_raw raw)
  | member _ _ member keyed => exact keyed.spells rfl member.isKeyable
  | @operation _ _ o index =>
    cases given : (Element.ofText raw).arguments with
    | none => exact .name rfl (Element.name_of_plain given)
    | some arguments =>
      exact .call (SegmentKind.isOperation_ofOperation o.kind) rfl (Element.text_of_call given)

theorem walk_spells (names : g.typeNames.Nodup) {position : Nat}
    (walked : walk g method c position path = .ok groups) : List.Forall₂ Spells groups path := by
  induction path generalizing c position groups with
  | nil =>
    cases walked
    exact .nil
  | cons raw path ih =>
    obtain ⟨edges, rest, advanced, later, rfl⟩ := walk_cons_eq_ok_iff.mp walked
    exact .cons ((advance_eq_ok_iff names).mp advanced).spells (ih later)

/-- Edges in groups have their segments in groups. -/
theorem exists_parts (position : Nat) (previous : Option String) (groups : List (List Edge)) :
    ∃ parts : List (List Segment), parts.flatten = label position previous groups.flatten ∧
      parts.map (·.map (·.toEdge)) = groups := by
  generalize labelled : label position previous groups.flatten = segments
  have edges := map_toEdge_label position previous groups.flatten
  rw [labelled] at edges
  clear labelled
  induction groups generalizing segments with
  | nil => exact ⟨[], (List.map_eq_nil_iff.mp edges).symm, rfl⟩
  | cons group groups ih =>
    obtain ⟨part, rest, rfl, same, later⟩ := List.map_eq_append_iff.mp edges
    obtain ⟨parts, rfl, grouped⟩ := ih rest later
    exact ⟨part :: parts, rfl, by rw [List.map_cons, same, grouped]⟩

theorem length_flatten_of_spells (spelled : List.Forall₂ Spells groups path) :
    path.length ≤ groups.flatten.length ∧ groups.flatten.length ≤ 2 * path.length := by
  induction spelled with
  | nil => exact ⟨Nat.le_refl _, Nat.le_refl _⟩
  | cons spells _ ih =>
    have one := spells.length_pos
    have two := spells.length_le_two
    simp only [List.flatten_cons, List.length_append, List.length_cons]
    omega

theorem ne_nil_of_resolve (names : g.typeNames.Nodup)
    (resolved : resolve g method path = .ok segments) : segments ≠ [] := by
  obtain ⟨nonempty, groups, walked, rfl⟩ := resolve_eq_ok_iff.mp resolved
  have longer := (length_flatten_of_spells (walk_spells names walked)).1
  rw [← List.length_pos_iff, length_label]
  exact Nat.lt_of_lt_of_le (List.length_pos_iff.mpr nonempty) longer

theorem map_spelling_eq (spelled : List.Forall₂ Spells groups path) :
    groups.map spelling = path := by
  induction spelled with
  | nil => rfl
  | cons spells _ ih => rw [List.map_cons, spells.spelling_eq, ih]

/-- The segments of a path fall into one group for each element, which spells that element, so the
path can be read back from the groups. -/
theorem resolve_spells (built : d.build = .ok g)
    (resolved : resolve g method path = .ok segments) : ∃ parts : List (List Segment),
      parts.flatten = segments ∧
      List.Forall₂ (fun part raw => Spells (part.map (·.toEdge)) raw) parts path ∧
      (parts.map fun part => spelling (part.map (·.toEdge))) = path ∧
      path.length ≤ segments.length ∧ segments.length ≤ 2 * path.length := by
  have names := (Definitions.build_eq_ok_iff.mp built).typeNames_nodup
  obtain ⟨_, groups, walked, rfl⟩ := resolve_eq_ok_iff.mp resolved
  have spelled := walk_spells names walked
  obtain ⟨parts, flat, rfl⟩ := exists_parts 0 none groups
  refine ⟨parts, flat, List.forall₂_map_left_iff.mp spelled, ?_, ?_⟩
  · simpa only [List.map_map, Function.comp_def] using map_spelling_eq spelled
  · rw [length_label]
    exact length_flatten_of_spells spelled

/-- Four segments spell three elements of the directory. -/
theorem resolve_spells_lock : ∃ segments,
    directory.build = .ok directoryGraph ∧
    resolve directoryGraph ⟨"POST"⟩ ["members('1')", "directory.guest", "lock()"] = .ok segments ∧
    segments.length = 4 ∧ ∃ parts : List (List Segment), parts.flatten = segments ∧
      (parts.map fun part => spelling (part.map (·.toEdge))) =
        ["members('1')", "directory.guest", "lock()"] := by
  have resolved : resolve directoryGraph ⟨"POST"⟩ ["members('1')", "directory.guest", "lock()"] =
      .ok (label 0 none [.toType "members" .entitySetRoot ⟨17, true⟩, .toKey "'1'" ⟨17, true⟩,
        .toType "directory.guest" .cast ⟨18, false⟩,
        ⟨"lock", .action, .operation 0, none, some ""⟩]) := by
    decide
  obtain ⟨parts, flat, _, spelled, _⟩ := resolve_spells directory_built resolved
  exact ⟨_, directory_built, resolved, rfl, parts, flat, spelled⟩

end EntityService.Path
