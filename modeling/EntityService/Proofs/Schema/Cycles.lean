import EntityService.Proofs.Schema.Consistency

/-! The type that an error about a cycle of bases names. It is the first one in the table whose bases
never end. It need not be on the cycle itself: a type that is only derived from one on a cycle has
no last base either. -/
namespace EntityService.Schema

open Relation

/-- The type of a name is its own base, by one step or by more. -/
def Definitions.OnCycle (d : Definitions) (name : String) : Prop := TransGen d.Derives name name

/-- The first name among those of all types, in the order of their definitions, whose bases never
end. -/
structure Definitions.FirstEndless (d : Definitions) (index : Nat) (name : String) : Prop where
  here : d.typeNames[index]? = some name
  endless : d.Endless name
  first : ∀ earlier < index, ∀ other, d.typeNames[earlier]? = some other → ¬ d.Endless other

namespace Definitions

variable {d : Definitions} {types : List SchemaType} {index : Nat} {name : String}

theorem Endless.of_onCycle (cycle : d.OnCycle name) : d.Endless name := ⟨name, .refl, cycle⟩

/-- Every name stands once, so the steps between names that lead into a cycle are base links that
lead into one. -/
theorem endless_at_place (names : d.typeNames.Nodup) (typed : d.resolveTypes = .ok types)
    (here : d.typeNames[index]? = some name) (endless : d.Endless name) :
    ({ types } : Graph).Endless index := by
  obtain ⟨cyclic, path, cycle⟩ := endless
  obtain ⟨place, again, there, same, links⟩ := links_of_derives names typed cycle
  cases place_unique names there same
  refine ⟨place, ?_, links⟩
  rcases reflTransGen_iff_eq_or_transGen.mp path with rfl | steps
  · cases place_unique names here there
    exact .refl
  · obtain ⟨start, last, first, final, onward⟩ := links_of_derives names typed steps
    cases place_unique names here first
    cases place_unique names there final
    exact onward.to_reflTransGen

/-- Only the check of the bases comes upon cycles, and it goes through the types in order. -/
theorem firstEndless_of_build (failed : d.build = .error (.inheritanceCycle name)) :
    ∃ index, d.FirstEndless index name := by
  cases build_failure failed with
  | reference _ blamed => nomatch blamed
  | @bases types _ names typed failed =>
    obtain ⟨index, same, endless, before⟩ := Graph.checkBases_eq_error failed
    cases same
    have table : ({ types } : Graph).typeNames = d.typeNames := typeNames_of_resolveTypes typed
    have bound : index < d.typeNames.length := by
      rw [← table, Graph.typeNames, List.length_map]
      exact endless.bounded
    refine ⟨index, ?_, endless_of_place names typed endless, ?_⟩
    · rw [Graph.typeName, table, List.getElem?_eq_getElem bound, Option.getD_some]
    · intro earlier less other there again
      exact before earlier less (endless_at_place names typed there again)

/-- An error about a cycle names the first type whose bases never end. That type is on a cycle
exactly if some type on a cycle is defined before all those that only lead into one. -/
theorem reported_onCycle_iff (failed : d.build = .error (.inheritanceCycle name)) :
    (∃ index, d.FirstEndless index name) ∧
      (d.OnCycle name ↔ ∃ (index : Nat) (cyclic : String), d.typeNames[index]? = some cyclic ∧
        d.OnCycle cyclic ∧ ∀ earlier < index, ∀ other, d.typeNames[earlier]? = some other →
          d.Endless other → d.OnCycle other) := by
  obtain ⟨index, reported⟩ := firstEndless_of_build failed
  refine ⟨⟨index, reported⟩, ?_⟩
  constructor
  · intro cycle
    refine ⟨index, name, reported.here, cycle, ?_⟩
    intro earlier less other there endless
    exact absurd endless (reported.first earlier less other there)
  · rintro ⟨place, cyclic, there, cycle, before⟩
    rcases Nat.lt_trichotomy index place with less | rfl | more
    · exact before index less name reported.here reported.endless
    · cases reported.here.symm.trans there
      exact cycle
    · exact absurd (.of_onCycle cycle) (reported.first place more cyclic there)

/-- A truck and a lorry are derived from each other, and a tanker, which is defined before them, from
the truck. -/
def convoy : Definitions := .ofDeclarations [
  .inNamespace "convoy",
  .entityType "tanker" [.base "truck"],
  .entityType "truck" [.base "lorry"],
  .entityType "lorry" [.base "truck"]]

theorem convoy_not_built : convoy.build = .error (.inheritanceCycle "convoy.tanker") := by decide

theorem reported_onCycle_iff_convoy :
    convoy.build = .error (.inheritanceCycle "convoy.tanker") ∧
    (∃ index, convoy.FirstEndless index "convoy.tanker") ∧
    (convoy.OnCycle "convoy.tanker" ↔ ∃ (index : Nat) (cyclic : String),
      convoy.typeNames[index]? = some cyclic ∧ convoy.OnCycle cyclic ∧ ∀ earlier < index, ∀ other,
        convoy.typeNames[earlier]? = some other → convoy.Endless other → convoy.OnCycle other) :=
  ⟨convoy_not_built, reported_onCycle_iff convoy_not_built⟩

/-- No type is derived from the tanker, so it is not on the cycle that the error is about. -/
theorem reported_beside_cycle :
    convoy.build = .error (.inheritanceCycle "convoy.tanker") ∧
      ¬ convoy.OnCycle "convoy.tanker" := by
  refine ⟨convoy_not_built, ?_⟩
  intro cycle
  obtain ⟨_, _, t, member, _, reference, given, r, parsed, means⟩ := TransGen.tail'_iff.mp cycle
  have bases : ∀ t ∈ convoy.types, ∀ reference ∈ t.base, ∀ r ∈ Reference.parse? reference,
      r.qualifiedIn t.space ≠ "convoy.tanker" := by
    decide
  exact bases t member reference given r parsed means

end Definitions
end EntityService.Schema
