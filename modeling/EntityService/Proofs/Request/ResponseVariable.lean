import EntityService.Proofs.Path.ClassNames
import EntityService.Proofs.Request.Models

/-! The response variable of a request for one entity of a collection. It is the singular of the
name of the collection, in camel case. The singular is a name of the resource; camel case may turn
it into another word, which then means whatever else goes by it. -/
namespace EntityService.Request

open Schema EntityService.Path Naming Outcome

/-- The path ends in a key, or in casts directly behind one. -/
def EndsInKey (segments : List Segment) : Prop :=
  ∃ before key casts, segments = before ++ key :: casts ∧ key.kind = .key ∧
    ∀ cast ∈ casts, cast.kind = .cast

/-- An identifier that is looked up at a segment leads to a type of the same name as that of the
resource. -/
inductive Denotes (g : Graph) (s : Segment) (type : TypeRef) (identifier : String) : Prop where
  | named : Named g s type identifier → Denotes g s type identifier
  | member : g.memberOrDerived? type.index identifier = some other →
      g.typeName other.index = g.typeName type.index → Denotes g s type identifier
  | root : g.memberOrDerived? type.index identifier = none → g.root? identifier = some entry →
      g.typeName entry.type = g.typeName type.index → Denotes g s type identifier

variable {d : Definitions} {g : Graph} {settings : Settings} {captured : Captured} {m : Model}
  {s : Segment} {type : TypeRef} {identifier : String}

namespace EndsInKey

theorem isKeyed (keyed : EndsInKey m.segments) : m.isKeyed = true := by
  obtain ⟨before, key, casts, same, isKey, areCasts⟩ := keyed
  have behind : ∀ cast ∈ casts.reverse, cast.kind.keepsName = true := by
    intro cast member
    rw [areCasts cast (List.mem_reverse.mp member)]
    rfl
  rw [Model.isKeyed, same, List.reverse_append, List.reverse_cons, List.append_assoc,
    List.takeWhile_append_of_pos behind, List.any_append, List.singleton_append,
    List.takeWhile_cons_of_pos (by rw [isKey]; rfl), List.any_cons, isKey]
  simp

theorem exists_last {segments : List Segment} (keyed : EndsInKey segments) :
    ∃ s, segments.getLast? = some s ∧ s.kind ∉ [.action, .function] := by
  obtain ⟨before, key, casts, rfl, isKey, areCasts⟩ := keyed
  cases final : casts.getLast? with
  | none =>
    rw [List.getLast?_eq_none_iff.mp final]
    exact ⟨key, by simp, by simp [isKey]⟩
  | some cast =>
    have kind := areCasts cast (List.mem_of_getLast? final)
    exact ⟨cast, by simp [List.getLast?_append, List.getLast?_cons, final], by simp [kind]⟩

end EndsInKey

theorem className_nil (typed : s.Typed type) : Path.className g s [] = .ok (g.typeName type.index) := by
  rw [Path.className, Edge.typeName?, typed.2, Option.map_some]

/-- One identifier at a segment gives the class of the resource exactly if it denotes it. -/
theorem className_singleton_iff (typed : s.Typed type) :
    Path.className g s [identifier] = .ok (g.typeName type.index) ↔
      Denotes g s type identifier := by
  by_cases named : Named g s type identifier
  · rw [className_of_named typed named]
    exact iff_of_true rfl (.named named)
  rw [Path.className, first?_of_unnamed typed named]
  cases found : g.memberOrDerived? type.index identifier with
  | some other =>
    rw [Option.some_or]
    refine ⟨fun same => .member found (Except.ok.inj same), fun denotes => ?_⟩
    cases denotes with
    | named again => contradiction
    | member again same =>
      cases found.symm.trans again
      exact congrArg _ same
    | root missing => cases found.symm.trans missing
  | none =>
    rw [Option.none_or]
    cases entry : g.root? identifier with
    | some entered =>
      refine ⟨fun same => .root found entry (Except.ok.inj same), fun denotes => ?_⟩
      cases denotes with
      | named again => contradiction
      | member again => cases found.symm.trans again
      | root _ again same =>
        cases entry.symm.trans again
        exact congrArg _ same
    | none =>
      refine ⟨fun refused => ?_, fun denotes => ?_⟩
      · cases refused
      · cases denotes with
        | named again => contradiction
        | member again => cases found.symm.trans again
        | root _ again => cases entry.symm.trans again

/-- After a key, the response variable means the resource exactly if it denotes it. It always does
where camel case keeps the singular as it is, since the singular is a name of the resource. -/
theorem responseVariable_denotes_iff (built : d.build = .ok g)
    (modelled : Model.build g settings captured = .ok m) (keyed : EndsInKey m.segments) :
    ∃ s type, m.last? = some s ∧ s.result = some type ∧
      m.responseVariable = lowerCamel (singular (unqualified s.name)) ∧
      m.className g [] = .ok (g.typeName type.index) ∧
      (m.className g [m.responseVariable] = m.className g [] ↔
        Denotes g s type m.responseVariable) ∧
      (lowerCamel (singular (unqualified s.name)) = singular (unqualified s.name) →
        m.className g [m.responseVariable] = m.className g []) := by
  have names := (Definitions.build_eq_ok_iff.mp built).typeNames_nodup
  obtain ⟨path, resolved⟩ := Model.resolve_of_build modelled
  obtain ⟨s, final, addressable⟩ := keyed.exists_last
  obtain ⟨type, typed⟩ := typed_of_resolve names resolved final addressable
  have word : m.responseVariable = lowerCamel (singular (unqualified s.name)) := by
    simp only [Model.responseVariable, Model.last?, final, keyed.isKeyed, if_true]
  have whole : m.className g [] = .ok (g.typeName type.index) := by
    simp only [Model.className, Model.last?, final, className_nil typed]
  have denotes : m.className g [m.responseVariable] = m.className g [] ↔
      Denotes g s type m.responseVariable := by
    rw [whole, ← className_singleton_iff typed]
    simp only [Model.className, Model.last?, final]
  refine ⟨s, type, final, typed.2, word, whole, denotes, fun same => denotes.mpr (.named ?_)⟩
  rw [word, same]
  exact .singular

/-- A request for one entity of a set, and what it means where the set holds members. -/
def asking (set : String) : Captured :=
  { method := ⟨"GET"⟩
    url := { scheme := "https", host := some "host", path := "/" ++ set ++ "('1')" } }

def askingModel (set : String) : Model :=
  { method := ⟨"GET"⟩
    segments := label 0 none [.toType set .entitySetRoot ⟨17, true⟩, .toKey "'1'" ⟨17, true⟩]
    options := {}
    body := none }

theorem asking_endsInKey (set : String) : EndsInKey (askingModel set).segments :=
  ⟨[_], _, [], rfl, rfl, nofun⟩

theorem asking_modelled {set : String} (parts : decompose (asking set).url none =
      .ok ⟨[set ++ "('1')"], []⟩)
    (resolved : resolve g ⟨"GET"⟩ [set ++ "('1')"] = .ok (askingModel set).segments) :
    Model.build g {} (asking set) = .ok (askingModel set) :=
  Model.build_eq_ok_iff.mpr ⟨_, parts, resolved, rfl, rfl, rfl⟩

/-- One of the members of the directory. -/
theorem responseVariable_denotes_iff_member : directory.build = .ok directoryGraph ∧
    Model.build directoryGraph {} (asking "members") = .ok (askingModel "members") ∧
    EndsInKey (askingModel "members").segments ∧
    (askingModel "members").responseVariable = "member" ∧
    (askingModel "members").className directoryGraph ["member"] =
      (askingModel "members").className directoryGraph [] := by
  have modelled : Model.build directoryGraph {} (asking "members") =
      .ok (askingModel "members") := asking_modelled (by decide) (by decide)
  have word : (askingModel "members").responseVariable = "member" := by decide
  obtain ⟨s, type, final, result, _, _, denotes, _⟩ :=
    responseVariable_denotes_iff directory_built modelled (asking_endsInKey _)
  refine ⟨directory_built, modelled, asking_endsInKey _, word, ?_⟩
  rw [word] at denotes
  refine denotes.mpr ?_
  cases final
  exact .named .singular

/-- A directory in which the name of the entity set has a capital letter. -/
def guestBook : Definitions := .ofDeclarations [
  .inNamespace "directory",
  .entityType "member" [.property "name" "Edm.String"],
  .entitySet "Guests" "member"]

def guestBookGraph : Graph := guestBook.build.toOption.getD { types := [] }

/-- Camel case makes the variable for one of the guests a word that nothing goes by. -/
theorem responseVariable_of_capital : guestBook.build = .ok guestBookGraph ∧
    Model.build guestBookGraph {} (asking "Guests") = .ok (askingModel "Guests") ∧
    EndsInKey (askingModel "Guests").segments ∧
    (askingModel "Guests").responseVariable = "guest" ∧
    (askingModel "Guests").className guestBookGraph ["guest"] = .error (.unresolved "guest" 0) ∧
    (askingModel "Guests").className guestBookGraph [] = .ok "directory.member" :=
  ⟨by decide, asking_modelled (by decide) (by decide), asking_endsInKey _, by decide, by decide,
    by decide⟩

end EntityService.Request
