import EntityService.Proofs.Outcome
import EntityService.Proofs.Schema.BaseLinks
import EntityService.Proofs.Schema.References
import Mathlib.Data.List.Nodup

/-! What a graph owes to the definitions that it is built from. The table of types begins with the
primitive ones and goes on with one type for each definition, under the same names. -/
namespace EntityService.Schema

open Outcome

/-- Where every name stands once, looking a name up finds its only place. -/
theorem idxOf?_eq_some_iff_of_nodup {names : List String} (nodup : names.Nodup) {name : String}
    {index : Nat} : names.idxOf? name = some index ↔ names[index]? = some name := by
  rw [List.idxOf?_eq_some_iff, List.getElem?_eq_some_iff]
  refine exists_congr fun bound => ⟨And.left, fun here => ⟨here, fun other earlier same => ?_⟩⟩
  have := nodup.getElem_inj_iff.mp (same.trans here.symm)
  omega

theorem Graph.typeByName?_eq_some_iff {g : Graph} (names : g.typeNames.Nodup) {name : String}
    {index : Nat} : g.typeByName? name = some index ↔ g.typeNames[index]? = some name :=
  idxOf?_eq_some_iff_of_nodup names

/-- A name stands where its type does. -/
theorem Graph.bounded_of_name {g : Graph} {index : Nat} {name : String}
    (here : g.typeNames[index]? = some name) : index < g.types.length := by
  have bound := (List.getElem?_eq_some_iff.mp here).1
  rwa [Graph.typeNames, List.length_map] at bound

theorem firstRepeated?_eq_none_iff {seen names : List String} :
    firstRepeated? seen names = none ↔ names.Nodup ∧ ∀ name ∈ names, name ∉ seen := by
  induction names generalizing seen with
  | nil => simp [firstRepeated?]
  | cons name names ih =>
    by_cases member : name ∈ seen
    · simp [firstRepeated?, member]
    · simp only [firstRepeated?, List.contains_eq_mem, member, decide_false, Bool.false_eq_true,
        if_false, ih, List.nodup_cons, List.mem_cons, forall_eq_or_imp, not_or, not_false_eq_true,
        true_and]
      constructor
      · rintro ⟨nodup, fresh⟩
        exact ⟨⟨fun again => (fresh name again).1 rfl, nodup⟩, fun other h => (fresh other h).2⟩
      · rintro ⟨⟨once, nodup⟩, fresh⟩
        exact ⟨nodup, fun other h => ⟨fun same => once (same ▸ h), fresh other h⟩⟩

/-- A name that is reported stands twice among the names read so far and those to come. -/
theorem two_le_count_of_firstRepeated? {seen names : List String} {name : String}
    (found : firstRepeated? seen names = some name) :
    2 ≤ seen.count name + names.count name := by
  induction names generalizing seen with
  | nil => simp [firstRepeated?] at found
  | cons head names ih =>
    by_cases member : head ∈ seen
    · simp only [firstRepeated?, List.contains_eq_mem, member, decide_true, if_true,
        Option.some.injEq] at found
      subst found
      have early := List.count_pos_iff.mpr member
      simp only [List.count_cons_self]
      omega
    · simp only [firstRepeated?, List.contains_eq_mem, member, decide_false, Bool.false_eq_true,
        if_false] at found
      have count := ih found
      simp only [List.count_cons] at count ⊢
      omega

theorem TypeDefinition.resolve_eq_ok_iff {d : TypeDefinition} {names : List String}
    {t : SchemaType} :
    d.resolve names = .ok t ↔ ∃ base properties navigation,
      d.base.mapM (Schema.resolve names d.space (.base d.qualifiedName)) = .ok base ∧
      resolveMembers names d.space (.property · d.qualifiedName) d.properties = .ok properties ∧
      resolveMembers names d.space (.navigation · d.qualifiedName) d.navigation = .ok navigation ∧
      t = ⟨d.space, d.name, d.kind, base.map (·.index), properties, navigation⟩ := by
  simp only [TypeDefinition.resolve, bind_eq_ok_iff, pure_eq_ok_iff]
  constructor
  · rintro ⟨base, hb, properties, hp, navigation, hn, rfl⟩
    exact ⟨base, properties, navigation, hb, hp, hn, rfl⟩
  · rintro ⟨base, properties, navigation, hb, hp, hn, rfl⟩
    exact ⟨base, hb, properties, hp, navigation, hn, rfl⟩

theorem TypeDefinition.resolve_name {d : TypeDefinition} {names : List String} {t : SchemaType}
    (resolved : d.resolve names = .ok t) : t.qualifiedName = d.qualifiedName := by
  obtain ⟨_, _, _, _, _, _, rfl⟩ := TypeDefinition.resolve_eq_ok_iff.mp resolved
  rfl

/-- The steps of the construction when all of them succeed. -/
structure Built (d : Definitions) (g : Graph) : Prop where
  names : d.typeNames.Nodup
  types : d.resolveTypes = .ok g.types
  bases : ({ types := g.types } : Graph).checkBases = .ok ()
  roots : resolveRoots d.typeNames [] d.roots = .ok g.roots
  operations : d.operations.mapM (·.resolve d.typeNames) = .ok g.operations

namespace Definitions

variable {d : Definitions} {g : Graph}

theorem checkNames_eq_ok_iff : d.checkNames = .ok () ↔ d.typeNames.Nodup := by
  have once := @firstRepeated?_eq_none_iff [] d.typeNames
  simp only [List.not_mem_nil, not_false_eq_true, implies_true, and_true] at once
  rw [← once, checkNames]
  cases firstRepeated? [] d.typeNames <;> simp

theorem build_eq_ok_iff : d.build = .ok g ↔ Built d g := by
  simp only [build, bind_eq_ok_iff, pure_eq_ok_iff]
  constructor
  · rintro ⟨_, names, types, typed, _, bases, roots, rooted, operations, operated, rfl⟩
    exact ⟨checkNames_eq_ok_iff.mp names, typed, bases, rooted, operated⟩
  · rintro ⟨names, types, bases, roots, operations⟩
    exact ⟨(), checkNames_eq_ok_iff.mpr names, g.types, types, (), bases, g.roots, roots,
      g.operations, operations, rfl⟩

theorem resolveTypes_eq_ok_iff {types : List SchemaType} :
    d.resolveTypes = .ok types ↔ ∃ defined, types = primitiveTypes ++ defined ∧
      List.Forall₂ (fun t s => t.resolve d.typeNames = .ok s) d.types defined := by
  simp only [resolveTypes, bind_eq_ok_iff, pure_eq_ok_iff, mapM_eq_ok_iff]
  constructor
  · rintro ⟨defined, each, rfl⟩
    exact ⟨defined, rfl, each⟩
  · rintro ⟨defined, rfl, each⟩
    exact ⟨defined, each, rfl⟩

/-- Types keep the names of their definitions. -/
theorem typeNames_of_resolveTypes {types : List SchemaType} (typed : d.resolveTypes = .ok types) :
    types.map (·.qualifiedName) = d.typeNames := by
  obtain ⟨defined, rfl, each⟩ := resolveTypes_eq_ok_iff.mp typed
  rw [List.map_append, typeNames]
  refine congrArg _ (map_eq_of_forall₂ each ?_).symm
  intro definition s resolved
  exact (TypeDefinition.resolve_name resolved).symm

end Definitions

namespace Built

variable {d : Definitions} {g : Graph}

theorem typeNames (built : Built d g) : g.typeNames = d.typeNames :=
  Definitions.typeNames_of_resolveTypes built.types

theorem typeNames_nodup (built : Built d g) : g.typeNames.Nodup :=
  built.typeNames ▸ built.names

end Built

/-- A fleet of vehicles. Its references point forward and to another namespace, a property is
declared twice, and a base and a root are written as collections. -/
def fleet : List Declaration := [
  .inNamespace "fleet",
  .entityType "truck" [.property "load" "Edm.Int32", .navigation "driver" "staff.person",
    .property "plate" "Edm.String", .property "load" "Edm.Int64", .base "person",
    .base "Collection(vehicle)"],
  .entityType "tanker" [.base "truck"],
  .entityType "vehicle" [.property "plate" "Edm.String"],
  .inNamespace "staff",
  .entityType "person" [.navigation "vehicles" "Collection(fleet.vehicle)"],
  .singleton "dispatcher" "Collection(person)",
  .function "route" "fleet.vehicle" [.parameter "to" "Edm.String", .returns "Edm.Boolean",
    .returns "Collection(Edm.String)"]]

def fleetGraph : Graph := (Definitions.ofDeclarations fleet).build.toOption.getD { types := [] }

theorem fleet_built : (Definitions.ofDeclarations fleet).build = .ok fleetGraph := by decide

end EntityService.Schema
