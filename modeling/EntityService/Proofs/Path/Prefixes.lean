import EntityService.Proofs.Path.Walks

/-! Paths that begin alike. A path is read from left to right, and what has been read is not looked
at again: the segments of a beginning stay as they are, and the first element that is refused
decides the error, whatever follows it. -/
namespace EntityService.Path

open Schema Outcome

/-- Where in a path the element lies that an error is about. A path without elements has none. -/
def PathError.position? : PathError → Option Nat
  | .empty => none
  | .unresolved _ position | .unsupported _ position | .verbMismatch _ _ _ position => some position

/-- The element that an error repeats. A wrong method is blamed on an operation instead. -/
def PathError.element? : PathError → Option String
  | .unresolved identifier _ | .unsupported identifier _ => some identifier
  | .empty | .verbMismatch _ _ _ _ => none

/-- The error is about the first element of the path with which it does not resolve, and says at
which position that element was given. -/
structure Blames (g : Graph) (method : Http.Method) (path : List String) (e : PathError)
    (position : Nat) : Prop where
  reported : e.position? = some position
  inside : position < path.length
  reached : ∃ segments, resolve g method (path.take position) = .ok segments
  failed : resolve g method (path.take (position + 1)) = .error e
  element : ∀ identifier ∈ e.element?, path[position]? = some identifier

variable {g : Graph} {method : Http.Method} {c : Context} {e : PathError} {raw : String}
  {path first second before after : List String} {segments earlier : List Segment}
  {groups : List (List Edge)} {refusal : Refusal}

@[simp] theorem position?_toError (refusal : Refusal) (raw : String) (position : Nat)
    (method : Http.Method) : (refusal.toError raw position method).position? = some position := by
  cases refusal <;> rfl

theorem element?_toError {position : Nat} {identifier : String}
    (named : identifier ∈ (refusal.toError raw position method).element?) : identifier = raw := by
  cases refusal <;> cases named <;> rfl

/-- Edges that follow do not change the names and positions of the ones before them. -/
theorem label_prefix (position : Nat) (previous : Option String) (es fs : List Edge) :
    label position previous es <+: label position previous (es ++ fs) := by
  induction es generalizing position previous with
  | nil => exact List.nil_prefix
  | cons e es ih => exact (List.prefix_cons_inj _).mpr (ih _ _)

/-- A walk fails at the first element that is refused where the ones before it have led. -/
theorem walk_eq_error_iff {position : Nat} : walk g method c position path = .error e ↔
    ∃ before raw after groups refusal, path = before ++ raw :: after ∧
      walk g method c position before = .ok groups ∧
      advance g method (c.after groups.flatten) (.ofText raw) = .error refusal ∧
      e = refusal.toError raw (position + before.length) method := by
  constructor
  · intro failed
    induction path generalizing c position with
    | nil => cases failed
    | cons raw path ih =>
      cases advanced : advance g method c (.ofText raw) with
      | error refusal =>
        rw [walk_cons_of_error advanced] at failed
        cases failed
        exact ⟨[], raw, path, [], refusal, rfl, rfl, advanced, rfl⟩
      | ok edges =>
        rw [walk_cons_of_ok advanced, map_eq_error_iff] at failed
        obtain ⟨before, blamed, after, groups, refusal, rfl, walked, refused, rfl⟩ := ih failed
        refine ⟨raw :: before, blamed, after, edges :: groups, refusal, rfl, ?_, ?_, ?_⟩
        · rw [walk_cons_of_ok advanced, walked]
          rfl
        · rwa [List.flatten_cons, Context.after_append]
        · rw [List.length_cons, Nat.add_right_comm, Nat.add_assoc]
  · rintro ⟨before, raw, after, groups, refusal, rfl, walked, refused, rfl⟩
    rw [walk_append_of_ok walked, walk_cons_of_error refused]
    rfl

/-- Every other error is about an element of the path. -/
theorem resolve_eq_empty_iff : resolve g method path = .error .empty ↔ path = [] := by
  constructor
  · intro failed
    by_contra nonempty
    rw [resolve_eq_error_iff nonempty, walk_eq_error_iff] at failed
    obtain ⟨_, _, _, _, refusal, _, _, _, same⟩ := failed
    cases refusal <;> cases same
  · rintro rfl
    rfl

theorem blames_of_refused (nonempty : before ≠ [])
    (walked : walk g method .root 0 before = .ok groups)
    (refused : advance g method (Context.root.after groups.flatten) (.ofText raw) =
      .error refusal) (after : List String) :
    Blames g method (before ++ raw :: after) (refusal.toError raw before.length method)
      before.length where
  reported := position?_toError ..
  inside := by simp
  reached := by
    rw [List.take_left]
    exact ⟨_, resolve_eq_ok_iff.mpr ⟨nonempty, groups, walked, rfl⟩⟩
  failed := by
    rw [List.take_length_add_append, List.take_succ_cons, List.take_zero,
      resolve_eq_error_iff (List.append_ne_nil_of_left_ne_nil nonempty _),
      walk_append_of_ok walked, Nat.zero_add, walk_cons_of_error refused]
    rfl
  element := fun identifier named => by
    rw [List.getElem?_append_right (Nat.le_refl _), Nat.sub_self, element?_toError named]
    rfl

theorem resolve_append_of_error (nonempty : first ≠ [])
    (failed : resolve g method first = .error e) (second : List String) :
    resolve g method (first ++ second) = .error e := by
  rw [resolve_eq_error_iff nonempty] at failed
  rw [resolve_eq_error_iff (List.append_ne_nil_of_left_ne_nil nonempty _), walk_append, failed,
    Except.bind]

theorem resolve_of_append (nonempty : first ≠ [])
    (resolved : resolve g method (first ++ second) = .ok segments) :
    ∃ earlier, resolve g method first = .ok earlier ∧ earlier <+: segments := by
  obtain ⟨_, _, walked, rfl⟩ := resolve_eq_ok_iff.mp resolved
  obtain ⟨groups, later, begun, _, rfl⟩ := walk_append_eq_ok_iff.mp walked
  refine ⟨_, resolve_eq_ok_iff.mpr ⟨nonempty, groups, begun, rfl⟩, ?_⟩
  rw [List.flatten_append]
  exact label_prefix _ _ _ _

theorem blames_rest (resolved : resolve g method first = .ok earlier)
    (failed : resolve g method (first ++ second) = .error e) :
    ∃ position, first.length ≤ position ∧ Blames g method (first ++ second) e position := by
  obtain ⟨nonempty, groups, walked, rfl⟩ := resolve_eq_ok_iff.mp resolved
  rw [resolve_eq_error_iff (List.append_ne_nil_of_left_ne_nil nonempty _),
    walk_append_of_ok walked, map_eq_error_iff, Nat.zero_add, walk_eq_error_iff] at failed
  obtain ⟨before, raw, after, later, refusal, rfl, onward, refused, rfl⟩ := failed
  have reached : walk g method .root 0 (first ++ before) = .ok (groups ++ later) := by
    rw [walk_append_of_ok walked, Nat.zero_add, onward]
    rfl
  rw [← Context.after_append, ← List.flatten_append] at refused
  have blames := blames_of_refused (List.append_ne_nil_of_left_ne_nil nonempty _) reached refused
    after
  rw [List.append_assoc, List.length_append] at blames
  exact ⟨_, Nat.le_add_right _ _, blames⟩

/-- A path goes on where its beginning has led. The error of a beginning is the error of the whole,
the segments of a beginning begin those of the whole, and where only the rest fails, the error is
about an element of the rest. -/
theorem resolve_append_stable (nonempty : first ≠ []) (second : List String) :
    (∀ e, resolve g method first = .error e → resolve g method (first ++ second) = .error e) ∧
    (∀ segments, resolve g method (first ++ second) = .ok segments →
      ∃ earlier, resolve g method first = .ok earlier ∧ earlier <+: segments) ∧
    ∀ earlier e, resolve g method first = .ok earlier →
      resolve g method (first ++ second) = .error e →
      ∃ position, first.length ≤ position ∧ position < first.length + second.length ∧
        Blames g method (first ++ second) e position := by
  refine ⟨fun e failed => resolve_append_of_error nonempty failed second,
    fun segments resolved => resolve_of_append nonempty resolved, fun earlier e resolved failed => ?_⟩
  obtain ⟨position, later, blames⟩ := blames_rest resolved failed
  have inside := blames.inside
  rw [List.length_append] at inside
  exact ⟨position, later, inside, blames⟩

/-- The first element has two segments, so positions of elements and of segments differ behind it. -/
theorem resolve_append_stable_value : ["members('1')"] ≠ [] ∧
    resolve directoryGraph ⟨"GET"⟩ ["members('1')"] = .ok (label 0 none
      [.toType "members" .entitySetRoot ⟨17, true⟩, .toKey "'1'" ⟨17, true⟩]) ∧
    resolve directoryGraph ⟨"GET"⟩ (["members('1')"] ++ ["manager", "$value"]) =
      .error (.unsupported "$value" 2) ∧
    Blames directoryGraph ⟨"GET"⟩ (["members('1')"] ++ ["manager", "$value"])
      (.unsupported "$value" 2) 2 := by
  have nonempty : ["members('1')"] ≠ [] := List.cons_ne_nil _ _
  have resolved : resolve directoryGraph ⟨"GET"⟩ ["members('1')"] = .ok (label 0 none
      [.toType "members" .entitySetRoot ⟨17, true⟩, .toKey "'1'" ⟨17, true⟩]) := by
    decide
  have failed : resolve directoryGraph ⟨"GET"⟩ (["members('1')"] ++ ["manager", "$value"]) =
      .error (.unsupported "$value" 2) := by
    decide
  obtain ⟨position, _, _, blames⟩ :=
    (resolve_append_stable nonempty ["manager", "$value"]).2.2 _ _ resolved failed
  have reported := blames.reported
  cases reported
  exact ⟨nonempty, resolved, failed, blames⟩

end EntityService.Path
