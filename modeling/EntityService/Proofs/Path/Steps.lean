import EntityService.Path.Resolution
import EntityService.Proofs.Schema.Building

/-! What one element of a path can do where the elements before it have led: the edges that it adds
in each case, and each reason for which it is refused. What whole paths do in one graph rests on
these two judgements and on no branch of the step itself. -/
namespace EntityService.Path

open Schema

/-- The edges of a name that leads to a type, with a key in parentheses if there is one. -/
inductive Keyed (name : String) (kind : SegmentKind) (target : TypeRef) :
    Option String → List Edge → Prop where
  | bare : Keyed name kind target none [.toType name kind target]
  | key : target.collection = true → Text.allBlank key.toList = false →
      Keyed name kind target (some key) [.toType name kind target, .toKey key target]

/-- A key in parentheses that picks no member of the type. -/
def Unkeyed (target : TypeRef) (arguments : Option String) : Prop :=
  ∃ key ∈ arguments, target.collection = true → Text.allBlank key.toList = true

/-- The meaning of a name at a type. A navigation property hides a structural one and both hide a
cast, which leads to the same type or to a derived one. -/
inductive Member (g : Graph) (type : TypeRef) (name : String) : SegmentKind → TypeRef → Prop where
  | navigation : g.navigation? type.index name = some target →
      Member g type name .navigationProperty target
  | property : g.navigation? type.index name = none → g.property? type.index name = some target →
      Member g type name .structuralProperty target
  | cast : g.navigation? type.index name = none → g.property? type.index name = none →
      g.typeNames[index]? = some name → g.sameOrDerived index type.index = true →
      Member g type name .cast ⟨index, type.collection⟩

structure Memberless (g : Graph) (type : TypeRef) (name : String) : Prop where
  no_navigation : g.navigation? type.index name = none
  no_property : g.property? type.index name = none
  no_cast : ∀ index, g.typeNames[index]? = some name → g.sameOrDerived index type.index = false

/-- In a collection, a text that is neither an identifier nor a call is a key at once. -/
def TakenAsKey (type : TypeRef) (e : Element) : Prop :=
  type.collection = true ∧ e.isKeyText = true

inductive Advances (g : Graph) (method : Http.Method) : Context → Element → List Edge → Prop where
  | root : e.isSystem = false → g.root? e.name = some entry →
      Keyed e.name (.ofRoot entry.kind) entry.typeRef e.arguments edges →
      Advances g method .root e edges
  | keyText : e.isSystem = false → TakenAsKey type e →
      Advances g method (.typed type) e [.toKey e.raw type]
  | member : e.isSystem = false → ¬ TakenAsKey type e → Member g type e.name kind target →
      Keyed e.name kind target e.arguments edges → Advances g method (.typed type) e edges
  | operation : e.isSystem = false → ¬ TakenAsKey type e → Memberless g type e.name →
      (g.boundOperations e.name type).find? (·.1.kind.accepts method) = some (o, index) →
      Advances g method (.typed type) e [.toOperation e.name e.arguments o index]
  | keyName : e.isSystem = false → ¬ TakenAsKey type e → Memberless g type e.name →
      g.boundOperations e.name type = [] → type.collection = true → e.isUndotted = true →
      Advances g method (.typed type) e [.toKey e.raw type]

inductive Refused (g : Graph) (method : Http.Method) : Context → Element → Refusal → Prop where
  | system : e.isSystem = true → Refused g method c e .unsupported
  | noRoot : e.isSystem = false → g.root? e.name = none → Refused g method .root e .unresolved
  | rootKey : e.isSystem = false → g.root? e.name = some entry →
      Unkeyed entry.typeRef e.arguments → Refused g method .root e .unresolved
  | void : e.isSystem = false → Refused g method .void e .unresolved
  | memberKey : e.isSystem = false → ¬ TakenAsKey type e → Member g type e.name kind target →
      Unkeyed target e.arguments → Refused g method (.typed type) e .unresolved
  | verbs : e.isSystem = false → ¬ TakenAsKey type e → Memberless g type e.name →
      g.boundOperations e.name type = first :: others →
      (∀ o ∈ first :: others, o.1.kind.accepts method = false) →
      Refused g method (.typed type) e (.verbMismatch first.1.name first.1.kind)
  | nothing : e.isSystem = false → ¬ TakenAsKey type e → Memberless g type e.name →
      g.boundOperations e.name type = [] → ¬ (type.collection = true ∧ e.isUndotted = true) →
      Refused g method (.typed type) e .unresolved

variable {g : Graph} {method : Http.Method} {c : Context} {e : Element} {type target : TypeRef}
  {name : String} {kind : SegmentKind} {arguments : Option String} {edges : List Edge}

theorem Keyed.withKey (keyed : Keyed name kind target arguments edges) :
    withKey name kind target arguments = .ok edges := by
  cases keyed with
  | bare => rfl
  | key collection text => simp [Path.withKey, collection, text]

theorem Keyed.nonempty (keyed : Keyed name kind target arguments edges) : edges ≠ [] := by
  cases keyed <;> exact List.cons_ne_nil _ _

theorem Unkeyed.withKey (unkeyed : Unkeyed target arguments) :
    withKey name kind target arguments = .error .unresolved := by
  obtain ⟨key, given, blank⟩ := unkeyed
  cases given
  cases collection : target.collection <;> simp [Path.withKey, collection, blank]

theorem keyed_or_unkeyed (name : String) (kind : SegmentKind) (target : TypeRef)
    (arguments : Option String) :
    (∃ edges, Keyed name kind target arguments edges) ∨ Unkeyed target arguments := by
  cases arguments with
  | none => exact .inl ⟨_, .bare⟩
  | some key =>
    by_cases valid : target.collection = true ∧ Text.allBlank key.toList = false
    · exact .inl ⟨_, .key valid.1 valid.2⟩
    · refine .inr ⟨key, rfl, fun collection => ?_⟩
      simpa [collection] using valid

theorem typeName_qualified {index : Nat} (named : g.typeNames[index]? = some name) :
    Naming.isQualified name = true := by
  obtain ⟨t, _, rfl⟩ := List.mem_map.mp (List.mem_of_getElem? named)
  simp [SchemaType.qualifiedName, Naming.qualify, Naming.isQualified]

theorem member_or_memberless (g : Graph) (type : TypeRef) (name : String) :
    (∃ kind target, Member g type name kind target) ∨ Memberless g type name := by
  cases navigation : g.navigation? type.index name with
  | some target => exact .inl ⟨_, _, .navigation navigation⟩
  | none =>
  cases property : g.property? type.index name with
  | some target => exact .inl ⟨_, _, .property navigation property⟩
  | none =>
  by_cases cast : ∃ index, g.typeNames[index]? = some name ∧ g.sameOrDerived index type.index = true
  · obtain ⟨index, named, derived⟩ := cast
    exact .inl ⟨_, _, .cast navigation property named derived⟩
  · refine .inr ⟨navigation, property, fun index named => ?_⟩
    exact Bool.not_eq_true _ ▸ fun derived => cast ⟨index, named, derived⟩

theorem advances_or_refused (g : Graph) (method : Http.Method) (c : Context) (e : Element) :
    (∃ edges, Advances g method c e edges) ∨ ∃ refusal, Refused g method c e refusal := by
  cases system : e.isSystem with
  | true => exact .inr ⟨_, .system system⟩
  | false =>
  cases c with
  | void => exact .inr ⟨_, .void system⟩
  | root =>
    cases found : g.root? e.name with
    | none => exact .inr ⟨_, .noRoot system found⟩
    | some entry =>
      rcases keyed_or_unkeyed e.name (.ofRoot entry.kind) entry.typeRef e.arguments with
        ⟨edges, keyed⟩ | unkeyed
      · exact .inl ⟨edges, .root system found keyed⟩
      · exact .inr ⟨_, .rootKey system found unkeyed⟩
  | typed type =>
    by_cases taken : TakenAsKey type e
    · exact .inl ⟨_, .keyText system taken⟩
    rcases member_or_memberless g type e.name with ⟨kind, target, member⟩ | memberless
    · rcases keyed_or_unkeyed e.name kind target e.arguments with ⟨edges, keyed⟩ | unkeyed
      · exact .inl ⟨edges, .member system taken member keyed⟩
      · exact .inr ⟨_, .memberKey system taken member unkeyed⟩
    cases bound : g.boundOperations e.name type with
    | nil =>
      by_cases named : type.collection = true ∧ e.isUndotted = true
      · exact .inl ⟨_, .keyName system taken memberless bound named.1 named.2⟩
      · exact .inr ⟨_, .nothing system taken memberless bound named⟩
    | cons first others =>
      cases accepted : (first :: others).find? (·.1.kind.accepts method) with
      | some o => exact .inl ⟨_, .operation system taken memberless (bound ▸ accepted)⟩
      | none =>
        refine .inr ⟨_, .verbs system taken memberless bound fun o member => ?_⟩
        simpa using List.find?_eq_none.mp accepted o member

theorem Advances.nonempty (advances : Advances g method c e edges) : edges ≠ [] := by
  cases advances with
  | root _ _ keyed | member _ _ _ keyed => exact keyed.nonempty
  | keyText | operation | keyName => exact List.cons_ne_nil _ _

theorem not_takenAsKey_iff : ¬ TakenAsKey type e ↔ (type.collection && e.isKeyText) = false := by
  simp [TakenAsKey]

section Unique

variable (names : g.typeNames.Nodup)
include names

theorem cast?_eq_some_iff : cast? g type name = some target ↔ ∃ index,
    g.typeNames[index]? = some name ∧ g.sameOrDerived index type.index = true ∧
      target = ⟨index, type.collection⟩ := by
  constructor
  · intro found
    unfold cast? at found
    split at found
    · obtain ⟨index, kept, rfl⟩ := Option.map_eq_some_iff.mp found
      obtain ⟨here, derived⟩ := Option.filter_eq_some_iff.mp kept
      exact ⟨index, (Graph.typeByName?_eq_some_iff names).mp here, derived, rfl⟩
    · contradiction
  · rintro ⟨index, here, derived, rfl⟩
    have found := (Graph.typeByName?_eq_some_iff names).mpr here
    simp [cast?, typeName_qualified here, found, derived]

theorem Member.member? (member : Member g type name kind target) :
    member? g type name = some (kind, target) := by
  cases member with
  | navigation found => simp [Path.member?, found]
  | property missing found => simp [Path.member?, missing, found]
  | cast missing absent named derived =>
    have found := (cast?_eq_some_iff names).mpr ⟨_, named, derived, rfl⟩
    simp [Path.member?, missing, absent, found]

theorem Memberless.member? (memberless : Memberless g type name) : member? g type name = none := by
  have noCast : cast? g type name = none := by
    by_contra found
    obtain ⟨target, found⟩ := Option.ne_none_iff_exists'.mp found
    obtain ⟨index, named, derived, _⟩ := (cast?_eq_some_iff names).mp found
    simp [memberless.no_cast index named] at derived
  simp [Path.member?, memberless.no_navigation, memberless.no_property, noCast]

theorem Advances.advance (advances : Advances g method c e edges) :
    advance g method c e = .ok edges := by
  cases advances with
  | root system found keyed =>
    simp [Path.advance, system, advanceFromRoot, found, keyed.withKey]
  | keyText system taken =>
    simp [Path.advance, system, advanceFromType, taken.1, taken.2]
  | member system taken member keyed =>
    simp [Path.advance, system, advanceFromType, not_takenAsKey_iff.mp taken,
      member.member? names, keyed.withKey]
  | operation system taken memberless accepted =>
    obtain ⟨first, others, bound⟩ := List.exists_cons_of_ne_nil
      (List.ne_nil_of_mem (List.mem_of_find?_eq_some accepted))
    rw [bound] at accepted
    simp [Path.advance, system, advanceFromType, not_takenAsKey_iff.mp taken,
      memberless.member? names, bound, invoke, accepted]
  | keyName system taken memberless bound collection undotted =>
    have untaken := not_takenAsKey_iff.mp taken
    rw [collection] at untaken
    simp [Path.advance, system, advanceFromType, untaken, memberless.member? names, bound,
      collection, undotted]

theorem Refused.advance {refusal : Refusal} (refused : Refused g method c e refusal) :
    advance g method c e = .error refusal := by
  cases refused with
  | system system => simp [Path.advance, system]
  | noRoot system missing => simp [Path.advance, system, advanceFromRoot, missing]
  | rootKey system found unkeyed =>
    simp [Path.advance, system, advanceFromRoot, found, unkeyed.withKey]
  | void system => simp [Path.advance, system]
  | memberKey system taken member unkeyed =>
    simp [Path.advance, system, advanceFromType, not_takenAsKey_iff.mp taken,
      member.member? names, unkeyed.withKey]
  | verbs system taken memberless bound unaccepted =>
    have none := List.find?_eq_none.mpr fun o member => by simpa using unaccepted o member
    simp [Path.advance, system, advanceFromType, not_takenAsKey_iff.mp taken,
      memberless.member? names, bound, invoke, none]
  | nothing system taken memberless bound unnamed =>
    simp [Path.advance, system, advanceFromType, not_takenAsKey_iff.mp taken,
      memberless.member? names, bound]
    simpa using unnamed

theorem advance_eq_ok_iff : advance g method c e = .ok edges ↔ Advances g method c e edges := by
  refine ⟨fun advanced => ?_, Advances.advance names⟩
  rcases advances_or_refused g method c e with ⟨others, advances⟩ | ⟨refusal, refused⟩
  · cases (advances.advance names).symm.trans advanced
    exact advances
  · cases (refused.advance names).symm.trans advanced

theorem advance_eq_error_iff {refusal : Refusal} :
    advance g method c e = .error refusal ↔ Refused g method c e refusal := by
  refine ⟨fun failed => ?_, Refused.advance names⟩
  rcases advances_or_refused g method c e with ⟨edges, advances⟩ | ⟨other, refused⟩
  · cases (advances.advance names).symm.trans failed
  · cases (refused.advance names).symm.trans failed
    exact refused

end Unique
end EntityService.Path
