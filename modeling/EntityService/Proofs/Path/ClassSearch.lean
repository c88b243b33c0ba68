import EntityService.Proofs.Path.ClassNames
import EntityService.Proofs.Schema.Places

/-! The search for a class name. Its identifiers lead from type to type, and the first one that leads
nowhere ends it: everything before that identifier has a class name, and whatever follows it does
not matter. -/
namespace EntityService.Path

open Schema Outcome

/-- The search along the identifiers ends at a type of the graph, whose name it gives. -/
def Finds (g : Graph) (s : Segment) (identifiers : List String) : Prop :=
  ∃ name ∈ g.typeNames, className g s identifiers = .ok name

/-- The search along the identifiers ends with one of them, and only with that one. -/
structure StopsAt (g : Graph) (s : Segment) (identifiers : List String) (position : Nat)
    (identifier : String) : Prop where
  here : identifiers[position]? = some identifier
  error : className g s identifiers = .error (.unresolved identifier position)
  before : ∀ front, front <+: identifiers → front ≠ [] → front.length ≤ position → Finds g s front
  beyond : ∀ longer, identifiers.take (position + 1) <+: longer →
    className g s longer = .error (.unresolved identifier position)

/-- Identifiers lead from a segment to a type, the first one by the rules for the segment and each
other one to a member of the type before it. -/
inductive Reaches (g : Graph) (s : Segment) : List String → TypeRef → Prop where
  | first : first? g s identifier = some type → Reaches g s [identifier] type
  | next : Reaches g s front type → g.memberOrDerived? type.index identifier = some member →
      Reaches g s (front ++ [identifier]) member

/-- After some identifiers, which lead to a type if there are any, another one leads nowhere. -/
inductive Misses (g : Graph) (s : Segment) : List String → String → Prop where
  | first : first? g s identifier = none → Misses g s [] identifier
  | next : Reaches g s front type → g.memberOrDerived? type.index identifier = none →
      Misses g s front identifier

/-- The operation of the segment returns nothing. -/
def CallsVoid (g : Graph) (e : Edge) : Prop := ∃ o, e.operation? g = some o ∧ o.returns = none

variable {d : Definitions} {g : Graph} {method : Http.Method} {c : Context} {e : Edge}
  {es : List Edge} {path identifiers front rest : List String} {segments : List Segment}
  {s : Segment} {type : TypeRef} {identifier : String}

/-- From the type that has been reached, the search goes on and counts on. -/
theorem Reaches.className (reaches : Reaches g s front type) (rest : List String) :
    className g s (front ++ rest) = classNameFrom g type front.length rest := by
  induction reaches generalizing rest with
  | first found =>
    simp only [List.singleton_append, Path.className, found, List.length_singleton]
  | next _ found ih =>
    rw [List.append_assoc, ih, List.singleton_append, classNameFrom_cons found, List.length_append,
      List.length_singleton]

theorem Misses.className (misses : Misses g s front identifier) (rest : List String) :
    className g s (front ++ identifier :: rest) = .error (.unresolved identifier front.length) := by
  cases misses with
  | first missing => simp only [List.nil_append, Path.className, missing, List.length_nil]
  | next reaches missing =>
    rw [reaches.className]
    simp only [classNameFrom, missing]

/-- What leads to a type has led to one after each of its identifiers. -/
theorem Reaches.of_front (reaches : Reaches g s identifiers type) (before : front <+: identifiers)
    (nonempty : front ≠ []) : ∃ other, Reaches g s front other := by
  induction reaches with
  | @first identifier type found =>
    rcases List.prefix_concat_iff.mp (show front <+: [] ++ [identifier] from before) with
      whole | earlier
    · rw [whole]
      exact ⟨type, .first found⟩
    · exact absurd (List.prefix_nil.mp earlier) nonempty
  | next reaches found ih =>
    rcases List.prefix_concat_iff.mp before with whole | earlier
    · rw [whole]
      exact ⟨_, .next reaches found⟩
    · exact ih earlier

/-- The induction is on the identifiers from the last one on, since the search may have stopped
before it comes to the last one. -/
theorem reaches_or_misses (nonempty : identifiers ≠ []) :
    (∃ type, Reaches g s identifiers type) ∨
      ∃ front identifier rest, identifiers = front ++ identifier :: rest ∧
        Misses g s front identifier := by
  induction identifiers using List.reverseRecOn with
  | nil => contradiction
  | append_singleton front identifier ih =>
    by_cases empty : front = []
    · subst empty
      cases found : first? g s identifier with
      | none => exact .inr ⟨[], identifier, [], rfl, .first found⟩
      | some type => exact .inl ⟨type, .first found⟩
    · rcases ih empty with ⟨type, reaches⟩ | ⟨front, stop, rest, rfl, misses⟩
      · cases found : g.memberOrDerived? type.index identifier with
        | none => exact .inr ⟨front, identifier, [], rfl, .next reaches found⟩
        | some member => exact .inl ⟨member, .next reaches found⟩
      · exact .inr ⟨front, stop, rest ++ [identifier], by simp, misses⟩

section Known

variable (built : Built d g)
include built

theorem Follows.known (follows : Follows g method type e) (known : g.Knows type) :
    ∀ result, e.result = some result → g.Knows result := by
  intro result leads
  cases follows with
  | key =>
    cases leads
    exact known
  | member member =>
    cases leads
    cases member with
    | navigation found => exact built.known_of_navigation found
    | property _ found => exact built.known_of_property found
    | cast _ _ named _ => exact Graph.bounded_of_name named
  | operation _ _ listed =>
    exact (built.known_of_operation (List.mem_of_getElem? listed)).2.2 result leads

/-- A path stays inside the table, and only an operation without a result leads out of it. -/
theorem Route.known (route : Route g method c es)
    (from_known : ∀ type, c = .typed type → g.Knows type) :
    ∀ e ∈ es, ∀ result, e.result = some result → g.Knows result := by
  have after {e : Edge} (known : ∀ result, e.result = some result → g.Knows result) :
      ∀ type, Context.ofResult e.result = .typed type → g.Knows type := by
    intro type same
    cases result : e.result with
    | none => simp [Context.ofResult, result] at same
    | some other =>
      rw [result] at same
      cases same
      exact known _ result
  induction route with
  | nil =>
    intro e member
    contradiction
  | @start e _ starts _ ih =>
    have known : ∀ result, e.result = some result → g.Knows result := by
      intro result leads
      cases starts with
      | entry found =>
        cases leads
        exact built.known_of_root found
    exact List.forall_mem_cons.mpr ⟨known, ih (after known)⟩
  | next follows _ ih =>
    have known := follows.known built (from_known _ rfl)
    exact List.forall_mem_cons.mpr ⟨known, ih (after known)⟩

theorem first_known (result : ∀ type, s.result = some type → g.Knows type)
    (found : first? g s identifier = some type) : g.Knows type := by
  rcases Option.or_eq_some_iff.mp found with parameter | ⟨_, found⟩
  · obtain ⟨o, operation, parameter⟩ := Option.bind_eq_some_iff.mp parameter
    have member : o ∈ g.operations := by
      unfold Edge.operation? at operation
      split at operation
      · exact List.mem_of_getElem? operation
      · contradiction
    exact (built.known_of_operation member).2.1 _ _ parameter
  rcases Option.or_eq_some_iff.mp found with resource | ⟨_, entry⟩
  · obtain ⟨own, leads, resource⟩ := Option.bind_eq_some_iff.mp resource
    split at resource
    · cases resource
      exact result _ leads
    · exact built.known_of_memberOrDerived resource
  · obtain ⟨r, root, rfl⟩ := Option.map_eq_some_iff.mp entry
    exact built.known_of_root root

theorem Reaches.finds (reaches : Reaches g s identifiers type)
    (result : ∀ type, s.result = some type → g.Knows type) : Finds g s identifiers := by
  have known : g.Knows type := by
    cases reaches with
    | first found => exact first_known built result found
    | next _ found => exact built.known_of_memberOrDerived found
  have found := reaches.className []
  rw [List.append_nil] at found
  exact ⟨_, known.typeName_mem, found⟩

theorem Misses.stopsAt (misses : Misses g s front identifier)
    (result : ∀ type, s.result = some type → g.Knows type) (rest : List String) :
    StopsAt g s (front ++ identifier :: rest) front.length identifier where
  here := by simp
  error := misses.className rest
  before := by
    intro earlier before nonempty length
    have inside : earlier <+: front :=
      List.prefix_of_prefix_length_le before (List.prefix_append _ _) length
    cases misses with
    | first => exact absurd (List.prefix_nil.mp inside) nonempty
    | next reaches =>
      obtain ⟨type, reaches⟩ := reaches.of_front inside nonempty
      exact reaches.finds built result
  beyond := by
    rintro longer ⟨rest, rfl⟩
    rw [List.take_length_add_append]
    simpa using misses.className rest

end Known

theorem className_nil_eq_error_iff {error : PathError} : className g s [] = .error error ↔
    s.result = none ∧ error = .unresolved s.identifier s.position := by
  rw [className, Edge.typeName?]
  cases s.result with
  | none => simp [eq_comm]
  | some type => simp

theorem Follows.void_iff (follows : Follows g method type e) :
    e.result = none ↔ CallsVoid g e := by
  cases follows with
  | key | member => simp [CallsVoid, Edge.toKey, Edge.toType, Edge.operation?]
  | operation _ _ listed => simp [CallsVoid, Edge.toOperation, Edge.operation?, listed]

theorem Route.void_iff (route : Route g method c es) :
    ∀ e ∈ es, e.result = none ↔ CallsVoid g e := by
  induction route with
  | nil =>
    intro e member
    contradiction
  | @start e _ starts _ ih =>
    have typed : e.result = none ↔ CallsVoid g e := by
      cases starts
      simp [CallsVoid, Edge.toType, Edge.operation?]
    exact List.forall_mem_cons.mpr ⟨typed, ih⟩
  | next follows _ ih => exact List.forall_mem_cons.mpr ⟨follows.void_iff, ih⟩

/-- A class name is found along all identifiers, or else the first of them that leads nowhere is
told with its position, whatever comes behind it. Without identifiers, only an operation that
returns nothing has no class name, and the segment itself is to blame. -/
theorem className_located (built : d.build = .ok g)
    (resolved : resolve g method path = .ok segments) (member : s ∈ segments) :
    (∀ identifiers, identifiers ≠ [] →
      (∀ front, front <+: identifiers → front ≠ [] → Finds g s front) ∨
        ∃ position identifier, StopsAt g s identifiers position identifier) ∧
    (∀ error, className g s [] = .error error ↔
      CallsVoid g s.toEdge ∧ error = .unresolved s.identifier s.position) ∧
    (¬ CallsVoid g s.toEdge → Finds g s []) := by
  have built := Definitions.build_eq_ok_iff.mp built
  obtain ⟨_, groups, walked, rfl⟩ := resolve_eq_ok_iff.mp resolved
  have route := walk_route built.typeNames_nodup walked
  have edge : s.toEdge ∈ groups.flatten := by
    rw [← map_toEdge_label 0 none groups.flatten]
    exact List.mem_map_of_mem member
  have result : ∀ type, s.result = some type → g.Knows type :=
    route.known built (fun _ typed => nomatch typed) s.toEdge edge
  have void := route.void_iff s.toEdge edge
  refine ⟨?_, fun error => by rw [className_nil_eq_error_iff, void], ?_⟩
  · intro identifiers nonempty
    rcases reaches_or_misses (g := g) (s := s) nonempty with
      ⟨type, reaches⟩ | ⟨front, identifier, rest, rfl, misses⟩
    · left
      intro front before some
      obtain ⟨type, reaches⟩ := reaches.of_front before some
      exact reaches.finds built result
    · right
      exact ⟨front.length, identifier, misses.stopsAt built result rest⟩
  · intro typed
    obtain ⟨type, leads⟩ := Option.ne_none_iff_exists'.mp (void.not.mpr typed)
    refine ⟨_, (result type leads).typeName_mem, ?_⟩
    simp only [className, Edge.typeName?, leads, Option.map_some]

/-- The call that locks a member of the directory. It returns nothing. -/
def lockCall : Segment :=
  { identifier := "lock", kind := .action, target := .operation 0, result := none, name := "lock",
    position := 2 }

/-- From the call, the class of a manager of the members is found, but a manager has no phone. The
call itself has no class. -/
theorem className_located_lock : ∃ segments,
    directory.build = .ok directoryGraph ∧
    resolve directoryGraph ⟨"POST"⟩ ["members('1')", "lock"] = .ok segments ∧
    lockCall ∈ segments ∧
    StopsAt directoryGraph lockCall ["members", "manager", "phone", "name"] 2 "phone" ∧
    Finds directoryGraph lockCall ["members", "manager"] ∧
    CallsVoid directoryGraph lockCall.toEdge ∧
    className directoryGraph lockCall [] = .error (.unresolved "lock" 2) := by
  have resolved : resolve directoryGraph ⟨"POST"⟩ ["members('1')", "lock"] = .ok (label 0 none
      [.toType "members" .entitySetRoot ⟨17, true⟩, .toKey "'1'" ⟨17, true⟩, lockCall.toEdge]) := by
    decide
  have member : lockCall ∈ label 0 none [.toType "members" .entitySetRoot ⟨17, true⟩,
      .toKey "'1'" ⟨17, true⟩, lockCall.toEdge] := by
    decide
  obtain ⟨search, void, _⟩ := className_located directory_built resolved member
  have failed : className directoryGraph lockCall ["members", "manager", "phone", "name"] =
      .error (.unresolved "phone" 2) := by
    decide
  have unnamed : className directoryGraph lockCall [] = .error (.unresolved "lock" 2) := by
    decide
  rcases search ["members", "manager", "phone", "name"] (List.cons_ne_nil _ _) with
    found | ⟨position, identifier, stops⟩
  · obtain ⟨name, _, found⟩ := found _ (List.prefix_refl _) (List.cons_ne_nil _ _)
    cases failed.symm.trans found
  · cases failed.symm.trans stops.error
    have before := stops.before ["members", "manager"] (by decide) (by decide) (by decide)
    exact ⟨_, directory_built, resolved, member, stops, before, ((void _).mp unnamed).1, unnamed⟩

end EntityService.Path
