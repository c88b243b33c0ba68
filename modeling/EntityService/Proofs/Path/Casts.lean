import EntityService.Proofs.Path.CallText
import EntityService.Proofs.Path.Steps
import EntityService.Proofs.Path.Walks
import EntityService.Proofs.Schema.Subtyping
import EntityService.Proofs.Text.Percent

/-! Casts in paths. A cast changes the type that a path has reached and nothing else, so a cast to
the same type, or to a type on the way to that of another cast, changes what follows only in its
place. After a collection a type can be called by its name only where the name is an identifier,
while references may give it other names, too. -/
namespace EntityService.Path

open Schema Text Relation

/-- A type goes by its name at another type: it stands for that type, references may have its name,
and no member goes by this name there. -/
structure Castable (g : Graph) (type index : Nat) : Prop where
  derived : g.sameOrDerived index type = true
  reference : isTypeName (g.typeName index).toList = true
  no_navigation : g.navigation? type (g.typeName index) = none
  no_property : g.property? type (g.typeName index) = none

/-- The name of a type is an identifier that no member of another type goes by. -/
structure Unused (g : Graph) (type index : Nat) : Prop where
  identifier : isIdentifier (g.typeName index).toList = true
  no_navigation : g.navigation? type (g.typeName index) = none
  no_property : g.property? type (g.typeName index) = none

/-- The segment of a cast that stands behind another segment. -/
def Segment.castTo (s : Segment) (name : String) (type : TypeRef) : Segment :=
  { Edge.toType name .cast type with name := s.name, position := s.position + 1 }

/-- Two outcomes agree but for a cast behind some segments. Whatever follows comes one place later,
and an error is about the same element, which is given one place later. -/
inductive ButForCast (segments : List Segment) (cast : Segment) :
    Except PathError (List Segment) → Except PathError (List Segment) → Prop where
  | ok (others : List Segment) : ButForCast segments cast (.ok (segments ++ others))
      (.ok (segments ++ cast :: others.map (·.later)))
  | error (e : PathError) : ButForCast segments cast (.error e) (.error e.later)

variable {d : Definitions} {g : Graph} {method : Http.Method} {path rest : List String}
  {segments : List Segment} {last : Segment} {type target : TypeRef} {index middle : Nat}
  {raw : String} {cs : List Char}

theorem isAlphanumeric_of_isAlphanum {c : Char} (letter : c.isAlphanum = true) :
    isAlphanumeric c = true := by
  have ascii : isAscii c = true :=
    decide_eq_true (Percent.toNat_of_isUnreserved (Bool.or_eq_true_iff.mpr (.inl letter)))
  simpa only [isAlphanumeric, isAlphabetic, isNumeric, ascii, if_true, Char.isAlphanum] using letter

/-- Every identifier is a name that a reference can have. -/
theorem isTypeName_of_identifier (identifier : isIdentifier cs = true) : isTypeName cs = true := by
  have letter : ∀ c, isNameRest c = true → (isAlphanumeric c || c == '_') = true := by
    intro c rest
    simp only [isNameRest, Bool.or_eq_true] at rest ⊢
    exact rest.imp_left isAlphanumeric_of_isAlphanum
  refine List.all_eq_true.mpr fun part among => ?_
  have simple := List.all_eq_true.mp identifier part among
  cases part with
  | nil => exact absurd simple Bool.false_ne_true
  | cons c part =>
    simp only [isNamePart, List.isEmpty_cons, Bool.not_false, Bool.true_and, List.all_eq_true]
    exact fun d member => letter d (simpleName_chars simple d member)

theorem typeName_not_mem (reference : isTypeName cs = true) {c : Char} (dot : c ≠ '.')
    (underscore : c ≠ '_') (other : isAlphanumeric c = false) : c ∉ cs := by
  intro member
  rcases mem_splitOn member with same | ⟨part, among, inside⟩
  · exact dot same
  · have named := List.all_eq_true.mp reference part among
    simp only [isNamePart, Bool.and_eq_true, List.all_eq_true] at named
    have letter := named.2 c inside
    simp [other, underscore] at letter

theorem getElem?_typeNames (reference : isTypeName (g.typeName index).toList = true) :
    g.typeNames[index]? = some (g.typeName index) := by
  cases found : g.typeNames[index]? with
  | some name => rw [Graph.typeName, found, Option.getD_some]
  | none =>
    rw [Graph.typeName, found] at reference
    contradiction

namespace Castable

variable (castable : Castable g type.index index)
include castable

theorem ofText : Element.ofText (g.typeName index) = ⟨g.typeName index, g.typeName index, none⟩ :=
  Element.ofText_of_not_mem
    (typeName_not_mem castable.reference (by decide) (by decide) (by decide))

theorem not_isSystem : (Element.ofText (g.typeName index)).isSystem = false := by
  rw [Element.isSystem_ofText, ← List.append_nil (g.typeName index).toList]
  apply Element.not_isSystem_of_not_mem
  · intro empty
    have reference := castable.reference
    rw [empty] at reference
    contradiction
  · exact typeName_not_mem castable.reference (by decide) (by decide) (by decide)

theorem isKeyText : (Element.ofText (g.typeName index)).isKeyText =
    !isIdentifier (g.typeName index).toList := by
  rw [castable.ofText]
  rfl

theorem member : Member g type (g.typeName index) .cast ⟨index, type.collection⟩ :=
  .cast castable.no_navigation castable.no_property (getElem?_typeNames castable.reference)
    castable.derived

variable (names : g.typeNames.Nodup)
include names

/-- The name is taken as that of the type, unless it looks like a key of a collection. -/
theorem advance_cast
    (called : type.collection = true → isIdentifier (g.typeName index).toList = true) :
    advance g method (.typed type) (.ofText (g.typeName index)) =
      .ok [.toType (g.typeName index) .cast ⟨index, type.collection⟩] := by
  have advances : Advances g method (.typed type) (.ofText (g.typeName index))
      [.toType (g.typeName index) .cast ⟨index, type.collection⟩] := by
    apply Advances.member castable.not_isSystem
    · rintro ⟨collection, text⟩
      rw [castable.isKeyText, called collection] at text
      contradiction
    · rw [castable.ofText]
      exact castable.member
    · rw [castable.ofText]
      exact .bare
  exact advances.advance names

theorem advance_key (collection : type.collection = true)
    (uncalled : isIdentifier (g.typeName index).toList = false) :
    advance g method (.typed type) (.ofText (g.typeName index)) =
      .ok [.toKey (g.typeName index) type] := by
  have taken : TakenAsKey type (.ofText (g.typeName index)) := by
    refine ⟨collection, ?_⟩
    rw [castable.isKeyText, uncalled]
    rfl
  simpa only [Element.ofText_raw] using (Advances.keyText castable.not_isSystem taken).advance names

end Castable

theorem Unused.castable (unused : Unused g type.index index)
    (derived : g.sameOrDerived index type.index = true) : Castable g type.index index :=
  ⟨derived, isTypeName_of_identifier unused.identifier, unused.no_navigation, unused.no_property⟩

theorem Unused.advance (unused : Unused g type.index index)
    (derived : g.sameOrDerived index type.index = true) (names : g.typeNames.Nodup) :
    Path.advance g method (.typed type) (.ofText (g.typeName index)) =
      .ok [.toType (g.typeName index) .cast ⟨index, type.collection⟩] :=
  (unused.castable derived).advance_cast names fun _ => unused.identifier

/-- What follows a cast is read as if the cast were not there, if it goes on in the same way from
both types. -/
theorem butForCast_of_walk (resolved : resolve g method path = .ok segments)
    (final : segments.getLast? = some last)
    (called : advance g method (.ofResult last.result) (.ofText raw) =
      .ok [.toType raw .cast target])
    (onward : ∀ position, walk g method (.typed target) position rest =
      walk g method (.ofResult last.result) position rest) :
    ButForCast segments (last.castTo raw target) (resolve g method (path ++ rest))
      (resolve g method (path ++ raw :: rest)) := by
  have behind : walk g method (.ofResult last.result) path.length (raw :: rest) =
      ((walk g method (.ofResult last.result) path.length rest).mapError .later).map
        ([.toType raw .cast target] :: ·) := by
    rw [walk_cons_of_ok called, ← walk_later, ← onward]
    rfl
  rw [resolve_append resolved final, resolve_append resolved final, behind]
  cases walk g method (.ofResult last.result) path.length rest with
  | error e => exact .error e
  | ok groups =>
    have labels : label (last.position + 1) (some last.name)
        ([Edge.toType raw .cast target] :: groups).flatten = last.castTo raw target ::
          (label (last.position + 1) (some last.name) groups.flatten).map (·.later) := by
      rw [← label_later]
      rfl
    simp only [Except.mapError, Except.map, labels]
    exact .ok _

/-- A cast to the type that a path has reached is not noticed by anything that follows it, and nor
is a cast to a type between that type and the one of the next cast. -/
theorem resolve_cast_transparent (built : d.build = .ok g)
    (resolved : resolve g method path = .ok segments) (final : segments.getLast? = some last)
    (result : last.result = some type) :
    (Unused g type.index type.index → ∀ rest,
      ButForCast segments (last.castTo (g.typeName type.index) type)
        (resolve g method (path ++ rest))
        (resolve g method (path ++ g.typeName type.index :: rest))) ∧
    ∀ middle index, g.sameOrDerived middle type.index = true →
      g.sameOrDerived index middle = true → Unused g type.index middle →
      Unused g type.index index → Unused g middle index → ∀ rest,
        ButForCast segments (last.castTo (g.typeName middle) ⟨middle, type.collection⟩)
          (resolve g method (path ++ g.typeName index :: rest))
          (resolve g method (path ++ g.typeName middle :: g.typeName index :: rest)) := by
  have built := Definitions.build_eq_ok_iff.mp built
  have names := built.typeNames_nodup
  have reached : Context.ofResult last.result = .typed type := by
    rw [result]
    rfl
  have derives (lower upper : Nat) :
      g.sameOrDerived lower upper = true ↔ ReflTransGen g.Link lower upper :=
    Graph.sameOrDerived_iff built.acyclic
  constructor
  · intro unused rest
    apply butForCast_of_walk resolved final
    · rw [reached]
      exact unused.advance ((derives _ _).mpr .refl) names
    · intro position
      rw [reached]
  · intro middle index upper lower unusedMiddle unused unusedBelow rest
    have whole := (derives _ _).mpr (((derives _ _).mp lower).trans ((derives _ _).mp upper))
    apply butForCast_of_walk resolved final
    · rw [reached]
      exact unusedMiddle.advance upper names
    · intro position
      have below : advance g method (.typed ⟨middle, type.collection⟩)
          (.ofText (g.typeName index)) =
          .ok [.toType (g.typeName index) .cast ⟨index, type.collection⟩] :=
        Unused.advance unusedBelow lower names
      rw [reached, walk_cons_of_ok (unused.advance whole names), walk_cons_of_ok below]
      rfl

/-- A truck is a vehicle and a tanker is a truck, so both casts of the vehicles of a person are
redundant. -/
theorem resolve_cast_transparent_fleet : ∃ segments last,
    (Definitions.ofDeclarations fleet).build = .ok fleetGraph ∧
    resolve fleetGraph ⟨"GET"⟩ ["dispatcher", "vehicles"] = .ok segments ∧
    segments.getLast? = some last ∧ last.result = some ⟨19, true⟩ ∧
    Unused fleetGraph 19 19 ∧ fleetGraph.sameOrDerived 17 19 = true ∧
    fleetGraph.sameOrDerived 18 17 = true ∧ Unused fleetGraph 19 17 ∧ Unused fleetGraph 19 18 ∧
    Unused fleetGraph 17 18 ∧
    (∀ rest, ButForCast segments (last.castTo "fleet.vehicle" ⟨19, true⟩)
      (resolve fleetGraph ⟨"GET"⟩ ("dispatcher" :: "vehicles" :: rest))
      (resolve fleetGraph ⟨"GET"⟩ ("dispatcher" :: "vehicles" :: "fleet.vehicle" :: rest))) ∧
    ∀ rest, ButForCast segments (last.castTo "fleet.truck" ⟨17, true⟩)
      (resolve fleetGraph ⟨"GET"⟩ ("dispatcher" :: "vehicles" :: "fleet.tanker" :: rest))
      (resolve fleetGraph ⟨"GET"⟩
        ("dispatcher" :: "vehicles" :: "fleet.truck" :: "fleet.tanker" :: rest)) := by
  have resolved : resolve fleetGraph ⟨"GET"⟩ ["dispatcher", "vehicles"] = .ok (label 0 none
      [.toType "dispatcher" .singleton ⟨20, false⟩,
        .toType "vehicles" .navigationProperty ⟨19, true⟩]) := by
    decide
  have vehicle : Unused fleetGraph 19 19 := ⟨by decide, by decide, by decide⟩
  have truck : Unused fleetGraph 19 17 := ⟨by decide, by decide, by decide⟩
  have tanker : Unused fleetGraph 19 18 := ⟨by decide, by decide, by decide⟩
  have below : Unused fleetGraph 17 18 := ⟨by decide, by decide, by decide⟩
  obtain ⟨same, between⟩ := resolve_cast_transparent fleet_built resolved rfl rfl
  exact ⟨_, _, fleet_built, resolved, rfl, rfl, vehicle, by decide, by decide, truck, tanker, below,
    same vehicle, between 17 18 (by decide) (by decide) truck tanker below⟩

theorem resolve_snoc {e : Edge} (resolved : resolve g method path = .ok segments)
    (final : segments.getLast? = some last)
    (advanced : advance g method (.ofResult last.result) (.ofText raw) = .ok [e]) :
    ∃ s : Segment, resolve g method (path ++ [raw]) = .ok (segments ++ [s]) ∧ s.toEdge = e := by
  refine ⟨{ e with name := e.nameAfter (some last.name), position := last.position + 1 }, ?_, rfl⟩
  rw [resolve_append resolved final, walk_cons_of_ok advanced]
  rfl

/-- A type is called by its name behind a path exactly if the path has not reached a collection or
the name is an identifier. Any other name is taken as the key of a member there. -/
theorem resolve_cast_iff_identifier (built : d.build = .ok g)
    (resolved : resolve g method path = .ok segments) (final : segments.getLast? = some last)
    (result : last.result = some type) (castable : Castable g type.index index) :
    ∃ s, resolve g method (path ++ [g.typeName index]) = .ok (segments ++ [s]) ∧
      (s.kind = .cast ∧ s.result = some ⟨index, type.collection⟩ ↔
        type.collection = false ∨ isIdentifier (g.typeName index).toList = true) ∧
      (s.kind = .key ∧ s.result = some (.single type.index) ↔
        type.collection = true ∧ isIdentifier (g.typeName index).toList = false) := by
  have names := (Definitions.build_eq_ok_iff.mp built).typeNames_nodup
  have reached : Context.ofResult last.result = .typed type := by
    rw [result]
    rfl
  by_cases key : type.collection = true ∧ isIdentifier (g.typeName index).toList = false
  · have advanced : advance g method (.ofResult last.result) (.ofText (g.typeName index)) =
        .ok [.toKey (g.typeName index) type] := by
      rw [reached]
      exact castable.advance_key names key.1 key.2
    obtain ⟨s, longer, edge⟩ := resolve_snoc resolved final advanced
    refine ⟨s, longer, ?_, ?_⟩
    · rw [edge, key.1, key.2]
      simp [Edge.toKey, Edge.toType]
    · rw [edge]
      exact iff_of_true ⟨rfl, rfl⟩ key
  · have called : type.collection = false ∨ isIdentifier (g.typeName index).toList = true := by
      simpa only [not_and_or, Bool.not_eq_true, Bool.not_eq_false] using key
    have advanced : advance g method (.ofResult last.result) (.ofText (g.typeName index)) =
        .ok [.toType (g.typeName index) .cast ⟨index, type.collection⟩] := by
      rw [reached]
      apply castable.advance_cast names
      intro collection
      exact called.resolve_left fun single => Bool.noConfusion (single.symm.trans collection)
    obtain ⟨s, longer, edge⟩ := resolve_snoc resolved final advanced
    refine ⟨s, longer, ?_, ?_⟩
    · rw [edge]
      exact iff_of_true ⟨rfl, rfl⟩ called
    · rw [edge]
      exact iff_of_false (fun taken => SegmentKind.noConfusion taken.1) key

/-- An academy whose pupils are called by a word that is not written in ASCII. -/
def academy : Definitions := .ofDeclarations [
  .inNamespace "academy",
  .entityType "person" [.navigation "friends" "Collection(élève)"],
  .entityType "élève" [.base "person"],
  .entitySet "people" "person"]

def academyGraph : Graph := academy.build.toOption.getD { types := [] }

theorem academy_built : academy.build = .ok academyGraph := by decide

theorem castable_pupil : Castable academyGraph 17 18 :=
  ⟨by decide, by decide, by decide, by decide⟩

/-- One person is cast to a pupil. -/
theorem resolve_cast_iff_identifier_pupil : ∃ segments last s,
    academy.build = .ok academyGraph ∧
    resolve academyGraph ⟨"GET"⟩ ["people('1')"] = .ok segments ∧
    segments.getLast? = some last ∧ last.result = some ⟨17, false⟩ ∧
    Castable academyGraph 17 18 ∧
    resolve academyGraph ⟨"GET"⟩ ["people('1')", "academy.élève"] = .ok (segments ++ [s]) ∧
    s.kind = .cast ∧ s.result = some ⟨18, false⟩ := by
  have resolved : resolve academyGraph ⟨"GET"⟩ ["people('1')"] = .ok (label 0 none
      [.toType "people" .entitySetRoot ⟨17, true⟩, .toKey "'1'" ⟨17, true⟩]) := by
    decide
  obtain ⟨s, longer, cast, _⟩ :=
    resolve_cast_iff_identifier academy_built resolved rfl rfl castable_pupil
  exact ⟨_, _, s, academy_built, resolved, rfl, rfl, castable_pupil, longer, cast.mpr (.inl rfl)⟩

/-- The people are not: the name of the type is taken as a key. -/
theorem resolve_pupil_of_collection : academy.build = .ok academyGraph ∧
    resolve academyGraph ⟨"GET"⟩ ["people"] =
      .ok (label 0 none [.toType "people" .entitySetRoot ⟨17, true⟩]) ∧
    academyGraph.typeName 18 = "academy.élève" ∧ Castable academyGraph 17 18 ∧
    resolve academyGraph ⟨"GET"⟩ ["people", "academy.élève"] = .ok (label 0 none
      [.toType "people" .entitySetRoot ⟨17, true⟩, .toKey "academy.élève" ⟨17, true⟩]) :=
  ⟨academy_built, by decide, by decide, castable_pupil, by decide⟩

end EntityService.Path
