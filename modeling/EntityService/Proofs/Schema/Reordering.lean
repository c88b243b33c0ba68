import EntityService.Proofs.Schema.Relocation
import EntityService.Proofs.Schema.Roots
import Mathlib.Data.List.Perm.Basic

/-! Types and roots in another order. The graph that they make has the same types in other places:
whatever a reference means among the names of one table, it means at its new place in the other. -/
namespace EntityService.Schema

open Outcome Relation

/-- Where the name at a place of one list stands in another list. Places past the end stay. -/
def place (names others : List String) (index : Nat) : Nat :=
  (names[index]?).elim index others.idxOf

section Place

variable {names others : List String}

theorem place_of_getElem? {index : Nat} {name : String} (here : names[index]? = some name) :
    place names others index = others.idxOf name := by
  rw [place, here, Option.elim_some]

theorem place_eq (nodup : others.Nodup) {index other : Nat} {name : String}
    (here : names[index]? = some name) (there : others[other]? = some name) :
    place names others index = other := by
  obtain ⟨bound, rfl⟩ := List.getElem?_eq_some_iff.mp there
  rw [place_of_getElem? here, nodup.idxOf_getElem other bound]

theorem place_of_length_le {index : Nat} (past : names.length ≤ index) :
    place names others index = index := by
  rw [place, List.getElem?_eq_none past, Option.elim_none]

theorem place_injective (nodup : names.Nodup) (order : names.Perm others) :
    Function.Injective (place names others) := by
  -- A place of the first list goes to one of the second, which is as long.
  have bounded {index : Nat} (bound : index < names.length) :
      place names others index < names.length := by
    rw [place_of_getElem? (List.getElem?_eq_getElem bound), order.length_eq]
    exact List.idxOf_lt_length_of_mem (order.mem_iff.mp (List.getElem_mem bound))
  intro i j same
  rcases Nat.lt_or_ge i names.length with early | past
  · rcases Nat.lt_or_ge j names.length with here | there
    · rw [place_of_getElem? (List.getElem?_eq_getElem early),
        place_of_getElem? (List.getElem?_eq_getElem here)] at same
      have name := (List.idxOf_inj (order.mem_iff.mp (List.getElem_mem early))).mp same
      exact nodup.getElem_inj_iff.mp name
    · rw [place_of_length_le there] at same
      have := bounded early
      omega
  · rcases Nat.lt_or_ge j names.length with here | there
    · rw [place_of_length_le past] at same
      have := bounded here
      omega
    · rwa [place_of_length_le past, place_of_length_le there] at same

theorem idxOf?_place (nodup : names.Nodup) (order : names.Perm others) (name : String) :
    others.idxOf? name = (names.idxOf? name).map (place names others) := by
  cases found : names.idxOf? name with
  | none =>
    have missing : name ∉ names := List.idxOf?_eq_none_iff.mp found
    exact List.idxOf?_eq_none_iff.mpr fun member => missing (order.mem_iff.mpr member)
  | some index =>
    have here := (idxOf?_eq_some_iff_of_nodup nodup).mp found
    have member : name ∈ others := order.mem_iff.mp (List.mem_of_getElem? here)
    obtain ⟨other, there⟩ := List.mem_iff_getElem?.mp member
    have otherNodup := order.nodup_iff.mp nodup
    rw [Option.map_some, place_eq otherNodup here there]
    exact (idxOf?_eq_some_iff_of_nodup otherNodup).mpr there

end Place

section Resolve

variable {σ : Nat → Nat} {names others : List String}
  (moved : ∀ name, others.idxOf? name = (names.idxOf? name).map σ)
include moved

/-- A reference means the same type at its new place. -/
theorem resolve_moved {space : String} {site : Site} (reference : String) (type : TypeRef)
    (resolved : resolve names space site reference = .ok type) :
    resolve others space site reference = .ok (type.relocate σ) := by
  obtain ⟨r, parsed, found, collection⟩ := resolve_eq_ok_iff.mp resolved
  refine resolve_eq_ok_iff.mpr ⟨r, parsed, ?_, collection⟩
  rw [moved, found]
  rfl

theorem resolveMembers_moved {space : String} {site : String → Site}
    {declared : List (String × String)} {members : Members}
    (resolved : resolveMembers names space site declared = .ok members) :
    resolveMembers others space site declared = .ok (members.relocate σ) := by
  simp only [resolveMembers, bind_eq_ok_iff, pure_eq_ok_iff] at resolved ⊢
  obtain ⟨entries, traversed, rfl⟩ := resolved
  refine ⟨_, mapM_ok_of_map ?_ traversed, (Members.relocate_ofDeclared entries).symm⟩
  intro entry value known
  obtain ⟨type, found, made⟩ := bind_eq_ok_iff.mp known
  cases made
  exact bind_eq_ok_iff.mpr ⟨_, resolve_moved moved _ type found, rfl⟩

theorem TypeDefinition.resolve_moved (d : TypeDefinition) (t : SchemaType)
    (resolved : d.resolve names = .ok t) : d.resolve others = .ok (t.relocate σ) := by
  obtain ⟨base, properties, navigation, based, proper, navigable, rfl⟩ :=
    TypeDefinition.resolve_eq_ok_iff.mp resolved
  refine TypeDefinition.resolve_eq_ok_iff.mpr
    ⟨_, _, _, optionMapM_ok_of_map (Schema.resolve_moved moved) based,
      resolveMembers_moved moved proper, resolveMembers_moved moved navigable, ?_⟩
  rw [SchemaType.relocate, Option.map_map, Option.map_map]
  rfl

theorem OperationDefinition.resolve_moved (d : OperationDefinition) (o : Operation)
    (resolved : d.resolve names = .ok o) : d.resolve others = .ok (o.relocate σ) := by
  simp only [OperationDefinition.resolve, bind_eq_ok_iff, pure_eq_ok_iff] at resolved ⊢
  obtain ⟨binding, bound, parameters, passed, returns, returned, rfl⟩ := resolved
  exact ⟨_, Schema.resolve_moved moved _ binding bound, _, resolveMembers_moved moved passed, _,
    optionMapM_ok_of_map (Schema.resolve_moved moved) returned, rfl⟩

end Resolve

theorem RootDefinition.resolve_moved {σ : Nat → Nat} {names others : List String}
    (moved : ∀ name, others.idxOf? name = (names.idxOf? name).map σ) (d : RootDefinition) (r : Root)
    (resolved : d.resolve names = .ok r) : d.resolve others = .ok (r.relocate σ) := by
  obtain ⟨type, found, rfl⟩ := map_eq_ok_iff.mp resolved
  exact map_eq_ok_iff.mpr ⟨_, Schema.resolve_moved moved _ type found, rfl⟩

section Tables

variable {g h : Graph} {σ : Nat → Nat}

theorem types_at_place (names : g.typeNames.Nodup)
    (types : h.types.Perm (g.types.map (·.relocate σ))) (index : Nat) :
    h.types[place g.typeNames h.typeNames index]? = (g.types[index]?).map (·.relocate σ) := by
  have same : h.typeNames.Perm g.typeNames := by
    have mapped := types.map (·.qualifiedName)
    rwa [List.map_map] at mapped
  cases found : g.types[index]? with
  | none =>
    have past := List.getElem?_eq_none_iff.mp found
    rw [place_of_length_le (by rwa [Graph.typeNames, List.length_map]), Option.map_none,
      List.getElem?_eq_none_iff, types.length_eq, List.length_map]
    exact past
  | some t =>
    have named : g.typeNames[index]? = some t.qualifiedName := by
      rw [Graph.typeNames, List.getElem?_map, found, Option.map_some]
    have member : t.relocate σ ∈ h.types :=
      types.mem_iff.mpr (List.mem_map_of_mem (List.mem_of_getElem? found))
    obtain ⟨other, there⟩ := List.mem_iff_getElem?.mp member
    have otherNamed : h.typeNames[other]? = some t.qualifiedName := by
      rw [Graph.typeNames, List.getElem?_map, there]
      rfl
    rw [place_eq (same.nodup_iff.mpr names) named otherNamed, there, Option.map_some]

theorem root?_of_perm (once : (g.roots.map (·.name)).Nodup)
    (roots : h.roots.Perm (g.roots.map (·.relocate σ))) (name : String) :
    h.root? name = (g.root? name).map (·.relocate σ) := by
  have otherOnce : (h.roots.map (·.name)).Nodup := by
    have mapped := roots.map (·.name)
    rw [List.map_map] at mapped
    exact mapped.nodup_iff.mpr once
  refine Option.ext fun r => ?_
  rw [Graph.root?_eq_some_iff otherOnce, roots.mem_iff, List.mem_map, Option.map_eq_some_iff]
  constructor
  · rintro ⟨⟨original, member, rfl⟩, named⟩
    exact ⟨original, (Graph.root?_eq_some_iff once).mpr ⟨member, named⟩, rfl⟩
  · rintro ⟨original, found, rfl⟩
    obtain ⟨member, named⟩ := (Graph.root?_eq_some_iff once).mp found
    exact ⟨⟨original, member, rfl⟩, named⟩

end Tables

namespace Definitions

/-- The same definitions, their types and their roots perhaps in another order. -/
structure Reordered (d other : Definitions) : Prop where
  types : d.types.Perm other.types
  roots : d.roots.Perm other.roots
  operations : d.operations = other.operations

section Moved

variable {d other : Definitions} {types otherTypes : List SchemaType} {roots otherRoots : List Root}
  {σ : Nat → Nat} (moved : ∀ name, other.typeNames.idxOf? name = (d.typeNames.idxOf? name).map σ)
include moved

theorem types_perm (order : d.types.Perm other.types) (typed : d.resolveTypes = .ok types)
    (otherTyped : other.resolveTypes = .ok otherTypes) :
    otherTypes.Perm (types.map (·.relocate σ)) := by
  obtain ⟨defined, rfl, each⟩ := resolveTypes_eq_ok_iff.mp typed
  obtain ⟨otherDefined, rfl, otherEach⟩ := resolveTypes_eq_ok_iff.mp otherTyped
  have same := mapM_ok_of_map (TypeDefinition.resolve_moved moved) (mapM_eq_ok_iff.mpr each)
  obtain ⟨values, traversed, permuted⟩ := mapM_perm order (mapM_eq_ok_iff.mpr otherEach)
  cases Except.ok.inj (traversed.symm.trans same)
  -- The primitive types refer to no other type, so they are the same in both tables.
  have primitive : primitiveTypes.map (·.relocate σ) = primitiveTypes := by
    rw [primitiveTypes, List.map_map]
    rfl
  rw [List.map_append, primitive]
  exact permuted.symm.append_left primitiveTypes

theorem roots_perm (order : d.roots.Perm other.roots)
    (rooted : resolveRoots d.typeNames [] d.roots = .ok roots)
    (otherRooted : resolveRoots other.typeNames [] other.roots = .ok otherRoots) :
    otherRoots.Perm (roots.map (·.relocate σ)) := by
  have same := mapM_ok_of_map (RootDefinition.resolve_moved moved) (mapM_of_resolveRoots rooted)
  obtain ⟨values, traversed, permuted⟩ := mapM_perm order (mapM_of_resolveRoots otherRooted)
  cases Except.ok.inj (traversed.symm.trans same)
  exact permuted.symm

end Moved

namespace Reordered

variable {d other : Definitions} {g h : Graph} (reordered : Reordered d other)
include reordered

theorem symm : Reordered other d :=
  ⟨reordered.types.symm, reordered.roots.symm, reordered.operations.symm⟩

theorem typeNames : d.typeNames.Perm other.typeNames := (reordered.types.map _).append_left _

theorem written : d.written.Perm other.written := by
  rw [Definitions.written, Definitions.written, reordered.operations]
  exact (reordered.types.flatMap_right _).append ((reordered.roots.map _).append_right _)

/-- Consistency does not know the order. -/
theorem consistent (consistent : d.Consistent) : other.Consistent where
  types_once := reordered.typeNames.nodup_iff.mp consistent.types_once
  references_mean w member := by
    obtain ⟨r, parsed, known⟩ := consistent.references_mean w (reordered.written.mem_iff.mpr member)
    exact ⟨r, parsed, reordered.typeNames.mem_iff.mp known⟩
  bases_end name cycle := by
    refine consistent.bases_end name (TransGen.mono ?_ name name cycle)
    rintro _ _ ⟨t, member, derived⟩
    exact ⟨t, reordered.types.mem_iff.mpr member, derived⟩
  roots_once := (reordered.roots.map _).nodup_iff.mp consistent.roots_once

theorem exists_build (built : d.build = .ok g) : ∃ h, other.build = .ok h := by
  have consistent := reordered.consistent (consistent_of_built (build_eq_ok_iff.mp built))
  cases outcome : other.build with
  | ok h => exact ⟨h, rfl⟩
  | error e => exact absurd consistent (build_error_holds outcome).not_consistent

/-- Types and roots are moved with their definitions. -/
theorem relocated (first : Built d g) (second : Built other h) :
    Relocated (place g.typeNames h.typeNames) g h := by
  have names : g.typeNames.Nodup := first.typeNames_nodup
  have order : g.typeNames.Perm h.typeNames := by
    rw [first.typeNames, second.typeNames]
    exact reordered.typeNames
  have moved (name : String) : other.typeNames.idxOf? name =
      (d.typeNames.idxOf? name).map (place g.typeNames h.typeNames) := by
    rw [← first.typeNames, ← second.typeNames]
    exact idxOf?_place names order name
  have types := types_perm moved reordered.types first.types second.types
  have roots := roots_perm moved reordered.roots first.roots second.roots
  have operations := mapM_ok_of_map (OperationDefinition.resolve_moved moved) first.operations
  rw [reordered.operations, second.operations] at operations
  exact {
    injective := place_injective names order
    size := by rw [types.length_eq, List.length_map]
    types := types_at_place names types
    names := idxOf?_place names order
    roots := root?_of_perm first.roots_once roots
    operations := Except.ok.inj operations }

end Reordered
end Definitions
end EntityService.Schema
