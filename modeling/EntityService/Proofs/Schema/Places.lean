import EntityService.Proofs.Schema.Contents

/-! Places in the table of types. In a graph that was built, everything that refers to a type refers
to one of the table: bases, members, roots, and all that an operation takes and returns. -/
namespace EntityService.Schema

open Outcome

namespace Graph

/-- The type that is referred to has a place in the table. -/
def Knows (g : Graph) (type : TypeRef) : Prop := type.index < g.types.length

variable {g : Graph} {space reference name : String} {declared : List (String × String)}
  {m : Members} {type : TypeRef}

theorem Knows.typeName_mem (known : g.Knows type) : g.typeName type.index ∈ g.typeNames := by
  have bound : type.index < g.typeNames.length := by
    rw [typeNames, List.length_map]
    exact known
  rw [typeName, List.getElem?_eq_getElem bound, Option.getD_some]
  exact List.getElem_mem bound

theorem Denotes.known (denotes : g.Denotes space reference type) : g.Knows type := by
  obtain ⟨r, _, here, _⟩ := denotes
  exact bounded_of_name here

theorem known_of_rel {given : Option String} (related : Option.Rel (g.Denotes space) given
    (some type)) : g.Knows type := by
  cases related with
  | some denotes => exact denotes.known

theorem HoldsMembers.known (holds : g.HoldsMembers space declared m)
    (found : m.find? name = some type) : g.Knows type := by
  have related := holds.types name
  rw [found] at related
  exact known_of_rel related

end Graph

namespace Built

variable {d : Definitions} {g : Graph} (built : Built d g)
include built

/-- A primitive type has no members, and every other type holds those of its definition. -/
theorem known_of_member {t : SchemaType} (member : t ∈ g.types) {name : String} {type : TypeRef}
    (found : t.navigation.find? name = some type ∨ t.properties.find? name = some type) :
    g.Knows type := by
  obtain ⟨defined, table, each⟩ := built.holds.types
  rw [table] at member
  rcases List.mem_append.mp member with primitive | defines
  · obtain ⟨_, _, rfl⟩ := List.mem_map.mp primitive
    rcases found with found | found
    · cases found
    · cases found
  · obtain ⟨definition, _, holds⟩ := exists_part_of_mem each defines
    rcases found with found | found
    · exact holds.navigation.known found
    · exact holds.properties.known found

theorem known_of_navigation {index : Nat} {name : String} {type : TypeRef}
    (found : g.navigation? index name = some type) : g.Knows type := by
  obtain ⟨owner, _, own⟩ := List.exists_of_findSome?_eq_some found
  obtain ⟨t, here, declared⟩ := Option.bind_eq_some_iff.mp own
  exact built.known_of_member (List.mem_of_getElem? here) (.inl declared)

theorem known_of_property {index : Nat} {name : String} {type : TypeRef}
    (found : g.property? index name = some type) : g.Knows type := by
  obtain ⟨owner, _, own⟩ := List.exists_of_findSome?_eq_some found
  obtain ⟨t, here, declared⟩ := Option.bind_eq_some_iff.mp own
  exact built.known_of_member (List.mem_of_getElem? here) (.inr declared)

theorem known_of_memberOrDerived {index : Nat} {name : String} {type : TypeRef}
    (found : g.memberOrDerived? index name = some type) : g.Knows type := by
  have known {other : Nat} (seen : g.member? other name = some type) : g.Knows type := by
    rcases Option.or_eq_some_iff.mp seen with navigation | ⟨_, property⟩
    · exact built.known_of_navigation navigation
    · exact built.known_of_property property
  rcases Option.or_eq_some_iff.mp found with seen | ⟨_, below⟩
  · exact known seen
  · obtain ⟨derived, _, seen⟩ := List.exists_of_findSome?_eq_some below
    exact known seen

theorem known_of_root {name : String} {r : Root} (found : g.root? name = some r) :
    g.Knows r.typeRef := by
  obtain ⟨definition, _, holds⟩ :=
    exists_part_of_mem built.holdsRoots (List.mem_of_find?_eq_some found)
  obtain ⟨collection, denotes⟩ := holds.type
  have known : g.Knows ⟨r.type, collection⟩ := denotes.known
  exact known

theorem known_of_operation {o : Operation} (member : o ∈ g.operations) : g.Knows o.binding ∧
    (∀ name type, o.parameters.find? name = some type → g.Knows type) ∧
    ∀ type, o.returns = some type → g.Knows type := by
  obtain ⟨definition, _, holds⟩ := exists_part_of_mem built.holds.operations member
  refine ⟨holds.binding.known, fun name type => holds.parameters.known, ?_⟩
  intro type returned
  have related := holds.returns
  rw [returned] at related
  exact Graph.known_of_rel related

end Built
end EntityService.Schema
