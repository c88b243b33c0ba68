import EntityService.Proofs.Path.CallText
import EntityService.Proofs.Path.Steps
import EntityService.Proofs.Path.Walks

/-! Two styles of giving a key. It may stand in parentheses behind the name of its collection or be
an element after it. Both make the same two edges, so from there on two paths that differ in the
style of one key agree, except that one of them counts one element more. -/
namespace EntityService.Path

open Schema Outcome

/-- A name leads to a type by itself, so a key may follow in either style. -/
inductive Leads (g : Graph) (name : String) : Context → SegmentKind → TypeRef → Prop where
  | root : g.root? name = some entry → Leads g name .root (.ofRoot entry.kind) entry.typeRef
  | member : Member g type name kind target → Leads g name (.typed type) kind target

variable {d : Definitions} {g : Graph} {method : Http.Method} {c : Context} {e : Element}
  {name key : String} {kind : SegmentKind} {target : TypeRef} {es : List Edge}
  {before path : List String} {segments : List Segment} {last : Segment}

theorem Leads.advances (leads : Leads g name c kind target) (service : e.isSystem = false)
    (text : e.isKeyText = false) (named : e.name = name)
    (keyed : Keyed name kind target e.arguments es) : Advances g method c e es := by
  subst named
  cases leads with
  | root found => exact .root service found keyed
  | member member =>
    have untaken : ∀ type, ¬ TakenAsKey type e := fun type taken =>
      Bool.noConfusion (text.symm.trans taken.2)
    exact .member service (untaken _) member keyed

/-- A name without arguments that makes neither a key nor the call of an operation leads. -/
theorem Advances.leads (advances : Advances g method c e es) (plain : e.arguments = none)
    {edge : Edge} (final : es.getLast? = some edge)
    (addressable : edge.kind ∉ [.key, .action, .function]) :
    ∃ kind target, Leads g e.name c kind target ∧ es = [.toType e.name kind target] := by
  cases advances with
  | root _ found keyed =>
    rw [plain] at keyed
    cases keyed
    exact ⟨_, _, .root found, rfl⟩
  | member _ _ member keyed =>
    rw [plain] at keyed
    cases keyed
    exact ⟨_, _, .member member, rfl⟩
  | keyText | keyName =>
    cases final
    simp [Edge.toKey, Edge.toType] at addressable
  | @operation _ _ o =>
    cases final
    cases kind : o.kind <;> simp [Edge.toOperation, SegmentKind.ofOperation, kind] at addressable

theorem Advances.single (advances : Advances g method c e es) (plain : e.arguments = none) :
    es.length = 1 := by
  cases advances with
  | root _ _ keyed | member _ _ _ keyed =>
    rw [plain] at keyed
    cases keyed
    rfl
  | keyText | operation | keyName => rfl

section Styles

variable (names : g.typeNames.Nodup) (leads : Leads g name c kind target)
  (identifier : isIdentifier name.toList = true)
include names leads identifier

theorem Leads.advance_bare :
    advance g method c (.ofText name) = .ok [.toType name kind target] := by
  have plain := Element.ofText_identifier identifier
  refine (leads.advances ?_ ?_ ?_ ?_).advance names
  · rw [Element.isSystem_ofText]
    simpa using Element.not_isSystem_of_identifier [] identifier
  · rw [plain]
    simp [Element.isKeyText, identifier]
  · rw [plain]
  · rw [plain]
    exact .bare

variable (collection : target.collection = true)
include collection

theorem Leads.advance_call (nonblank : Text.allBlank key.toList = false)
    (line : '\n' ∉ key.toList) : advance g method c (.ofText (name ++ "(" ++ key ++ ")")) =
      .ok [.toType name kind target, .toKey key target] := by
  have called := Element.ofText_call identifier line
  refine (leads.advances ?_ ?_ ?_ ?_).advance names
  · rw [Element.isSystem_ofText, Element.toList_call]
    exact Element.not_isSystem_of_identifier _ identifier
  · rw [called]
    rfl
  · rw [called]
  · rw [called]
    exact .key collection nonblank

/-- Given by itself, the key makes the second of two groups of edges. -/
theorem Leads.walk_apart (service : (Element.ofText key).isSystem = false)
    (text : (Element.ofText key).isKeyText = true) (position : Nat) :
    walk g method c position (name :: key :: path) =
      (walk g method (.typed (.single target.index)) (position + 2) path).map
        ([.toType name kind target] :: [.toKey key target] :: ·) := by
  have keyed : advance g method (.typed target) (.ofText key) = .ok [.toKey key target] := by
    simpa only [Element.ofText_raw] using
      (Advances.keyText service ⟨collection, text⟩).advance names
  rw [walk_cons_of_ok (leads.advance_bare names identifier)]
  change (walk g method (.typed target) (position + 1) (key :: path)).map _ = _
  rw [walk_cons_of_ok keyed]
  change ((walk g method (.typed (.single target.index)) (position + 2) path).map _).map _ = _
  cases walk g method (.typed (.single target.index)) (position + 2) path <;> rfl

/-- Behind the name, it makes a part of the only group. -/
theorem Leads.walk_together (nonblank : Text.allBlank key.toList = false)
    (line : '\n' ∉ key.toList) (position : Nat) :
    walk g method c position ((name ++ "(" ++ key ++ ")") :: path) =
      (walk g method (.typed (.single target.index)) (position + 1) path).map
        ([.toType name kind target, .toKey key target] :: ·) :=
  walk_cons_of_ok (leads.advance_call names identifier collection nonblank line) position path

end Styles

/-- Where a path ends with a name that leads to a collection, the name leads there in the context
before it. -/
theorem leads_of_resolve (names : g.typeNames.Nodup) (identifier : isIdentifier name.toList = true)
    (resolved : resolve g method (before ++ [name]) = .ok segments)
    (final : segments.getLast? = some last) (addressable : last.kind ∉ [.key, .action, .function])
    (collection : last.isCollection = true) : ∃ groups kind target,
      walk g method .root 0 before = .ok groups ∧
      Leads g name (Context.root.after groups.flatten) kind target ∧ target.collection = true := by
  obtain ⟨_, _, walked, rfl⟩ := resolve_eq_ok_iff.mp resolved
  obtain ⟨groups, _, earlier, later, rfl⟩ := walk_append_eq_ok_iff.mp walked
  obtain ⟨edges, _, advanced, nothing, rfl⟩ := walk_cons_eq_ok_iff.mp later
  cases nothing
  have advances := (advance_eq_ok_iff names).mp advanced
  have plain := Element.ofText_identifier identifier
  have edge : edges.getLast? = some last.toEdge := by
    have whole := getLast?_of_label final
    rw [List.flatten_append, List.flatten_singleton,
      List.getLast?_append_of_ne_nil _ advances.nonempty] at whole
    exact whole
  obtain ⟨kind, target, leads, rfl⟩ := advances.leads (by rw [plain]) edge addressable
  rw [plain] at leads edge
  refine ⟨groups, kind, target, earlier, leads, ?_⟩
  rw [← Option.some.inj edge] at collection
  simpa [Edge.isCollection, Edge.toType] using collection

theorem length_of_resolve (names : g.typeNames.Nodup) {raw : String} {groups : List (List Edge)}
    (earlier : walk g method .root 0 before = .ok groups)
    (plain : (Element.ofText raw).arguments = none)
    (resolved : resolve g method (before ++ [raw]) = .ok segments) :
    segments.length = groups.flatten.length + 1 := by
  obtain ⟨_, _, walked, rfl⟩ := resolve_eq_ok_iff.mp resolved
  rw [walk_append_of_ok earlier] at walked
  obtain ⟨_, later, rfl⟩ := map_eq_ok_iff.mp walked
  obtain ⟨edges, _, advanced, nothing, rfl⟩ := walk_cons_eq_ok_iff.mp later
  cases nothing
  have single := ((advance_eq_ok_iff names).mp advanced).single plain
  rw [length_label, List.flatten_append, List.length_append, List.flatten_singleton, single]

/-- The two styles of a key agree before every continuation if and only if it lies on one line.
Parentheses around more than one line make no call, so the name is not recognised in front of
them. -/
theorem resolve_key_styles_iff (built : d.build = .ok g)
    (identifier : isIdentifier name.toList = true)
    (resolved : resolve g method (before ++ [name]) = .ok segments)
    (final : segments.getLast? = some last) (addressable : last.kind ∉ [.key, .action, .function])
    (collection : last.isCollection = true) (nonblank : Text.allBlank key.toList = false)
    (service : (Element.ofText key).isSystem = false)
    (text : (Element.ofText key).isKeyText = true) :
    (∀ rest, resolve g method (before ++ name :: key :: rest) =
      (resolve g method (before ++ (name ++ "(" ++ key ++ ")") :: rest)).mapError .later) ↔
      '\n' ∉ key.toList := by
  have names := (Definitions.build_eq_ok_iff.mp built).typeNames_nodup
  obtain ⟨groups, kind, target, earlier, leads, collection⟩ :=
    leads_of_resolve names identifier resolved final addressable collection
  constructor
  · intro agree lines
    have apart : resolve g method (before ++ [name, key]) = .ok (label 0 none
        (groups ++ [[Edge.toType name kind target], [Edge.toKey key target]]).flatten) := by
      refine resolve_eq_ok_iff.mpr ⟨List.append_ne_nil_of_right_ne_nil _ (List.cons_ne_nil _ _),
        _, ?_, rfl⟩
      rw [walk_append_of_ok earlier, leads.walk_apart names identifier collection service text]
      rfl
    have together := mapError_eq_ok_iff.mp ((agree []).symm.trans apart)
    have plain : (Element.ofText (name ++ "(" ++ key ++ ")")).arguments = none := by
      rw [Element.ofText_lines identifier lines]
    have shorter := length_of_resolve names earlier plain together
    simp at shorter
  · intro line rest
    rw [resolve_of_nonempty (List.append_ne_nil_of_right_ne_nil _ (List.cons_ne_nil _ _)),
      resolve_of_nonempty (List.append_ne_nil_of_right_ne_nil _ (List.cons_ne_nil _ _)),
      walk_append_of_ok earlier, walk_append_of_ok earlier,
      leads.walk_apart names identifier collection service text,
      leads.walk_together names identifier collection nonblank line, walk_later]
    cases walk g method (.typed (.single target.index)) (0 + before.length + 1) rest with
    | error e => rfl
    | ok later => simp [Except.map, Except.mapError]

/-- The members of the directory, by keys without line breaks. -/
theorem resolve_key_styles_iff_members : directory.build = .ok directoryGraph ∧
    (∀ rest, resolve directoryGraph ⟨"GET"⟩ ("members" :: "'1'" :: rest) =
      (resolve directoryGraph ⟨"GET"⟩ ("members('1')" :: rest)).mapError .later) := by
  have resolved : resolve directoryGraph ⟨"GET"⟩ ([] ++ ["members"]) =
      .ok (label 0 none [.toType "members" .entitySetRoot ⟨17, true⟩]) := by
    decide
  have styles := resolve_key_styles_iff directory_built (by decide) resolved rfl (by decide)
    (by decide) (by decide : Text.allBlank "'1'".toList = false) (by decide) (by decide)
  exact ⟨directory_built, styles.mpr (by decide)⟩

/-- With a line break in the key, the path resolves in one style and not in the other. -/
theorem resolve_key_on_two_lines : directory.build = .ok directoryGraph ∧
    isIdentifier "members".toList = true ∧
    resolve directoryGraph ⟨"GET"⟩ ["members"] =
      .ok (label 0 none [.toType "members" .entitySetRoot ⟨17, true⟩]) ∧
    Text.allBlank "a\nb".toList = false ∧ (Element.ofText "a\nb").isSystem = false ∧
    (Element.ofText "a\nb").isKeyText = true ∧
    resolve directoryGraph ⟨"GET"⟩ ["members", "a\nb"] = .ok (label 0 none
      [.toType "members" .entitySetRoot ⟨17, true⟩, .toKey "a\nb" ⟨17, true⟩]) ∧
    resolve directoryGraph ⟨"GET"⟩ ["members(a\nb)"] =
      .error (.unresolved "members(a\nb)" 0) :=
  ⟨directory_built, by decide⟩

end EntityService.Path
