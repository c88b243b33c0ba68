import EntityService.Proofs.Schema.Consistency

/-! The roots of a graph. Each is made by its own definition, and since the names of the definitions
are all different, a root is found by its name wherever it stands. -/
namespace EntityService.Schema

open Outcome

/-- The root that a definition makes by itself. -/
def RootDefinition.resolve (names : List String) (d : RootDefinition) : Except SchemaError Root :=
  (Schema.resolve names d.space (.root d.name) d.reference).map fun type =>
    ⟨d.name, d.kind, type.index⟩

theorem mapM_of_resolveRoots {names seen : List String} {definitions : List RootDefinition}
    {roots : List Root} (resolved : resolveRoots names seen definitions = .ok roots) :
    definitions.mapM (·.resolve names) = .ok roots := by
  induction definitions generalizing seen roots with
  | nil => exact resolved
  | cons d definitions ih =>
    obtain ⟨type, found, resolved⟩ := bind_eq_ok_iff.mp resolved
    split at resolved
    · cases resolved
    · obtain ⟨rest, later, same⟩ := bind_eq_ok_iff.mp resolved
      rw [List.mapM_cons, bind_eq_ok_iff]
      exact ⟨_, map_eq_ok_iff.mpr ⟨type, found, rfl⟩,
        bind_eq_ok_iff.mpr ⟨rest, ih later, same⟩⟩

/-- Where no two roots have the same name, their order does not matter to a look-up. -/
theorem Graph.root?_eq_some_iff {g : Graph} (once : (g.roots.map (·.name)).Nodup) {name : String}
    {r : Root} : g.root? name = some r ↔ r ∈ g.roots ∧ r.name = name := by
  constructor
  · intro found
    exact ⟨List.mem_of_find?_eq_some found, by simpa using List.find?_some found⟩
  · rintro ⟨member, rfl⟩
    cases found : g.root? r.name with
    | none => simpa using List.find?_eq_none.mp found r member
    | some other =>
      have same : other.name = r.name := by simpa using List.find?_some found
      exact congrArg some
        (List.inj_on_of_nodup_map once (List.mem_of_find?_eq_some found) member same)

theorem Built.roots_once {d : Definitions} {g : Graph} (built : Built d g) :
    (g.roots.map (·.name)).Nodup := by
  have same : d.roots.map (·.name) = g.roots.map (·.name) := by
    refine map_eq_of_forall₂ (mapM_eq_ok_iff.mp (mapM_of_resolveRoots built.roots)) ?_
    intro definition r resolved
    obtain ⟨type, _, rfl⟩ := map_eq_ok_iff.mp resolved
    rfl
  exact same ▸ (Definitions.consistent_of_built built).roots_once

end EntityService.Schema
