import EntityService.Path.Resolution
import EntityService.Proofs.Schema.Building

/-! Paths as walks. A walk along two paths is a walk along the first one and a walk along the second
one from where the first has led, and the segments of a path are the edges of its walk with names
and positions. -/
namespace EntityService.Path

open Schema Outcome

/-- The same error one element later. -/
def PathError.later : PathError → PathError
  | .empty => .empty
  | .unresolved identifier position => .unresolved identifier (position + 1)
  | .unsupported identifier position => .unsupported identifier (position + 1)
  | .verbMismatch operation kind method position =>
    .verbMismatch operation kind method (position + 1)

/-- The same segment one place later. -/
def Segment.later (s : Segment) : Segment := { s with position := s.position + 1 }

variable {g : Graph} {method : Http.Method} {c : Context} {path : List String}
  {segments : List Segment} {groups : List (List Edge)}

theorem map_toEdge_label (position : Nat) (previous : Option String) (es : List Edge) :
    (label position previous es).map (·.toEdge) = es := by
  induction es generalizing position previous with
  | nil => rfl
  | cons e es ih => rw [label, List.map_cons, ih]

theorem map_position_label (position : Nat) (previous : Option String) (es : List Edge) :
    (label position previous es).map (·.position) = List.range' position es.length := by
  induction es generalizing position previous with
  | nil => rfl
  | cons e es ih => rw [label, List.map_cons, ih, List.length_cons, List.range'_succ]

theorem getLast?_of_label {position : Nat} {previous : Option String} {es : List Edge}
    {last : Segment} (final : (label position previous es).getLast? = some last) :
    es.getLast? = some last.toEdge := by
  have edges := congrArg (Option.map (·.toEdge)) final
  rwa [← List.getLast?_map, map_toEdge_label] at edges

theorem label_later (position : Nat) (previous : Option String) (es : List Edge) :
    label (position + 1) previous es = (label position previous es).map (·.later) := by
  induction es generalizing position previous with
  | nil => rfl
  | cons e es ih =>
    rw [label, ih, label, List.map_cons]
    rfl

/-- Edges that follow others are counted and named after the last of their segments. -/
theorem label_append {position : Nat} {previous : Option String} {es : List Edge} {last : Segment}
    (final : (label position previous es).getLast? = some last) (fs : List Edge) :
    label position previous (es ++ fs) =
      label position previous es ++ label (last.position + 1) (some last.name) fs := by
  induction es generalizing position previous with
  | nil => contradiction
  | cons e es ih =>
    cases es with
    | nil =>
      cases final
      rfl
    | cons f es =>
      have rest := ih final
      rw [List.cons_append, label, rest]
      rfl

namespace Context

theorem after_cons (c : Context) (e : Edge) (es : List Edge) :
    c.after (e :: es) = (Context.ofResult e.result).after es := by
  cases es with
  | nil => rfl
  | cons f es =>
    obtain ⟨last, final⟩ := Option.isSome_iff_exists.mp (List.getLast?_isSome.mpr
      (List.cons_ne_nil f es))
    simp only [after, List.getLast?_cons_cons, final]

theorem after_append (c : Context) (es fs : List Edge) :
    c.after (es ++ fs) = (c.after es).after fs := by
  induction es generalizing c with
  | nil => rfl
  | cons e es ih => rw [List.cons_append, after_cons, after_cons, ih]

end Context

theorem walk_nil (g : Graph) (method : Http.Method) (c : Context) (position : Nat) :
    walk g method c position [] = .ok [] := rfl

section Cons

variable {raw : String} {edges : List Edge} {refusal : Refusal}

theorem walk_cons_of_error (refused : advance g method c (.ofText raw) = .error refusal)
    (position : Nat) (path : List String) : walk g method c position (raw :: path) =
      .error (refusal.toError raw position method) := by
  unfold walk
  rw [refused]

theorem walk_cons_of_ok (advanced : advance g method c (.ofText raw) = .ok edges) (position : Nat)
    (path : List String) : walk g method c position (raw :: path) =
      (walk g method (c.after edges) (position + 1) path).map (edges :: ·) := by
  conv_lhs => unfold walk
  rw [advanced]
  dsimp only
  cases walk g method (c.after edges) (position + 1) path <;> rfl

theorem walk_cons_eq_ok_iff {position : Nat} :
    walk g method c position (raw :: path) = .ok groups ↔ ∃ edges rest,
      advance g method c (.ofText raw) = .ok edges ∧
      walk g method (c.after edges) (position + 1) path = .ok rest ∧ edges :: rest = groups := by
  cases advanced : advance g method c (.ofText raw) with
  | error refusal => simp [walk_cons_of_error advanced]
  | ok edges => simp [walk_cons_of_ok advanced, map_eq_ok_iff]

end Cons

/-- Where every step is the same but its errors are told in another way, so are those of the
walk. -/
theorem walk_mapError {other : Http.Method} {told : PathError → PathError} (offset : Nat)
    (step : ∀ c e, advance g other c e = advance g method c e)
    (errors : ∀ (refusal : Refusal) raw position, refusal.toError raw (position + offset) other =
      told (refusal.toError raw position method))
    (c : Context) (position : Nat) (path : List String) :
    walk g other c (position + offset) path = (walk g method c position path).mapError told := by
  induction path generalizing c position with
  | nil => rfl
  | cons raw path ih =>
    have same := step c (.ofText raw)
    cases advanced : advance g method c (.ofText raw) with
    | error refusal =>
      rw [walk_cons_of_error advanced, walk_cons_of_error (same.trans advanced), errors]
      rfl
    | ok edges =>
      rw [walk_cons_of_ok advanced, walk_cons_of_ok (same.trans advanced), Nat.add_right_comm, ih]
      cases walk g method (c.after edges) (position + 1) path <;> rfl

theorem toError_later (refusal : Refusal) (raw : String) (position : Nat) (method : Http.Method) :
    refusal.toError raw (position + 1) method = (refusal.toError raw position method).later := by
  cases refusal <;> rfl

theorem walk_later (g : Graph) (method : Http.Method) (c : Context) (position : Nat)
    (path : List String) :
    walk g method c (position + 1) path = (walk g method c position path).mapError .later := by
  apply walk_mapError 1
  · intro c e
    rfl
  · intro refusal raw position
    exact toError_later refusal raw position method

/-- What the second path does depends on the first one only through where it leads. -/
theorem walk_append (g : Graph) (method : Http.Method) (c : Context) (position : Nat)
    (first second : List String) : walk g method c position (first ++ second) =
      (walk g method c position first).bind fun groups =>
        (walk g method (c.after groups.flatten) (position + first.length) second).map
          (groups ++ ·) := by
  induction first generalizing c position with
  | nil =>
    change walk g method c position second = (walk g method c position second).map ([] ++ ·)
    cases walk g method c position second <;> rfl
  | cons raw first ih =>
    rw [List.cons_append]
    cases advanced : advance g method c (.ofText raw) with
    | error refusal =>
      rw [walk_cons_of_error advanced, walk_cons_of_error advanced]
      rfl
    | ok edges =>
      rw [walk_cons_of_ok advanced, walk_cons_of_ok advanced, ih, List.length_cons]
      cases walk g method (c.after edges) (position + 1) first with
      | error e => rfl
      | ok groups =>
        simp only [Except.bind, Except.map, List.flatten_cons, Context.after_append]
        rw [Nat.add_right_comm, Nat.add_assoc]
        cases walk g method ((c.after edges).after groups.flatten) _ second <;> rfl

theorem walk_append_of_ok {first : List String} {position : Nat}
    (walked : walk g method c position first = .ok groups) (second : List String) :
    walk g method c position (first ++ second) =
      (walk g method (c.after groups.flatten) (position + first.length) second).map
        (groups ++ ·) := by
  rw [walk_append, walked, Except.bind]

theorem walk_append_eq_ok_iff {first second : List String} {position : Nat} :
    walk g method c position (first ++ second) = .ok groups ↔ ∃ earlier later,
      walk g method c position first = .ok earlier ∧
      walk g method (c.after earlier.flatten) (position + first.length) second = .ok later ∧
      earlier ++ later = groups := by
  cases walked : walk g method c position first with
  | error e => simp [walk_append, walked, Except.bind]
  | ok earlier => simp [walk_append_of_ok walked, map_eq_ok_iff]

theorem resolve_of_nonempty (nonempty : path ≠ []) : resolve g method path =
    (walk g method .root 0 path).map fun groups => label 0 none groups.flatten := by
  obtain ⟨raw, path, rfl⟩ := List.exists_cons_of_ne_nil nonempty
  rfl

theorem resolve_eq_ok_iff : resolve g method path = .ok segments ↔ path ≠ [] ∧
    ∃ groups, walk g method .root 0 path = .ok groups ∧ label 0 none groups.flatten = segments := by
  by_cases nonempty : path ≠ []
  · rw [resolve_of_nonempty nonempty, map_eq_ok_iff]
    exact (and_iff_right nonempty).symm
  · rw [not_not.mp nonempty]
    simp [resolve]

theorem resolve_eq_error_iff {e : PathError} (nonempty : path ≠ []) :
    resolve g method path = .error e ↔ walk g method .root 0 path = .error e := by
  rw [resolve_of_nonempty nonempty, map_eq_error_iff]

/-- A path goes on where its last segment leads. -/
theorem resolve_append {last : Segment} (resolved : resolve g method path = .ok segments)
    (final : segments.getLast? = some last) (rest : List String) :
    resolve g method (path ++ rest) =
      (walk g method (.ofResult last.result) path.length rest).map fun groups =>
        segments ++ label (last.position + 1) (some last.name) groups.flatten := by
  obtain ⟨nonempty, groups, walked, rfl⟩ := resolve_eq_ok_iff.mp resolved
  have leads : Context.root.after groups.flatten = .ofResult last.result := by
    rw [Context.after, getLast?_of_label final]
  rw [resolve_of_nonempty (List.append_ne_nil_of_left_ne_nil nonempty _),
    walk_append_of_ok walked, leads, Nat.zero_add]
  cases walk g method (.ofResult last.result) path.length rest with
  | error e => rfl
  | ok later =>
    simp only [Except.map, List.flatten_append]
    rw [label_append final]

/-- Where a path leads that is empty or resolves: to the root, to the type of its last segment, or
nowhere after an operation without result. -/
def Led (g : Graph) (method : Http.Method) (path : List String) (c : Context) : Prop :=
  path = [] ∧ c = .root ∨ ∃ segments last, resolve g method path = .ok segments ∧
    segments.getLast? = some last ∧ c = .ofResult last.result

theorem Led.walk (led : Led g method path c) : ∃ groups,
    walk g method .root 0 path = .ok groups ∧ c = Context.root.after groups.flatten := by
  rcases led with ⟨rfl, rfl⟩ | ⟨segments, last, resolved, final, rfl⟩
  · exact ⟨[], rfl, rfl⟩
  · obtain ⟨_, groups, walked, rfl⟩ := resolve_eq_ok_iff.mp resolved
    exact ⟨groups, walked, by rw [Context.after, getLast?_of_label final]⟩

/-- A small service: a directory of members, some of whom are guests. -/
def directory : Definitions := .ofDeclarations [
  .inNamespace "directory",
  .entityType "member" [.property "name" "Edm.String", .navigation "manager" "member"],
  .entityType "guest" [.base "member"],
  .entitySet "members" "member",
  .action "lock" "member" [],
  .function "delta" "Collection(member)" [.returns "Collection(member)"]]

def directoryGraph : Graph := directory.build.toOption.getD { types := [] }

theorem directory_built : directory.build = .ok directoryGraph := by decide

end EntityService.Path
