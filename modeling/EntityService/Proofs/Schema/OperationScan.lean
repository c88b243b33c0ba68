import EntityService.Proofs.Schema.BoundOperations
import EntityService.Proofs.Schema.Subtyping

/-! The look-up of operations by name against the list of all operations. What the look-up finds is
in order and complete, except for operations with a dot in their simple name: these go by names too,
but the index is never asked for a name with a dot. -/
namespace EntityService.Schema

open Naming Relation

namespace Graph

/-- The operation goes by the identifier and takes a value of the type: it is bound to the type or
to one of its bases. -/
structure Takes (g : Graph) (identifier : String) (type : TypeRef) (o : Operation) : Prop where
  named : identifier = o.name ∨ identifier = qualify o.space o.name
  collection : o.binding.collection = type.collection
  derived : ReflTransGen g.Link type.index o.binding.index

/-- All operations with a property in the order of their definitions, each of them once and with its
place. -/
structure Scan (g : Graph) (p : Operation → Prop) (found : List (Operation × Nat)) : Prop where
  ascending : found.Pairwise (·.2 < ·.2)
  members : ∀ o index, (o, index) ∈ found ↔ g.operations[index]? = some o ∧ p o

variable {d : Definitions} {g : Graph} {identifier : String} {type : TypeRef} {o : Operation}

theorem isNamed_iff : o.isNamed identifier = true ↔
    identifier = o.name ∨ identifier = qualify o.space o.name := by
  rw [Operation.isNamed, Bool.or_eq_true, beq_iff_eq, beq_iff_eq, Operation.qualifiedName]

theorem offers_iff (acyclic : ∀ index, ¬ TransGen g.Link index index) :
    g.offers identifier type o = true ↔ g.Takes identifier type o := by
  simp only [offers, Bool.and_eq_true, isNamed_iff, beq_iff_eq, sameOrDerived_iff acyclic]
  constructor
  · rintro ⟨⟨named, collection⟩, derived⟩
    exact ⟨named, collection, derived⟩
  · rintro ⟨named, collection, derived⟩
    exact ⟨⟨named, collection⟩, derived⟩

theorem scan_filter (g : Graph) (p : Operation → Bool) :
    g.Scan (p · = true) (g.operations.zipIdx.filter (p ·.1)) where
  ascending := by
    have places : (g.operations.zipIdx.map (·.2)).Pairwise (· < ·) := by
      rw [List.zipIdx_map_snd]
      exact List.pairwise_lt_range'
    exact (List.pairwise_map.mp places).filter _
  members := by
    intro o index
    rw [List.mem_filter, List.mem_zipIdx_iff_getElem?]

/-- The look-up agrees with the list of all operations exactly if none of those that it should find
has a dot in its simple name. Whatever it finds is right, and it misses nothing else. -/
theorem boundOperations_scan_iff (built : d.build = .ok g) (identifier : String) (type : TypeRef) :
    g.Scan (fun o => g.Takes identifier type o ∧ isQualified o.name = false)
      (g.boundOperations identifier type) ∧
    (g.Scan (g.Takes identifier type) (g.boundOperations identifier type) ↔
      ∀ o ∈ g.operations, g.Takes identifier type o → isQualified o.name = false) := by
  have acyclic := (Definitions.build_eq_ok_iff.mp built).acyclic
  have simple : g.Scan (fun o => g.Takes identifier type o ∧ isQualified o.name = false)
      (g.boundOperations identifier type) := by
    have scanned := scan_filter g fun o => !isQualified o.name && g.offers identifier type o
    rw [← boundOperations_eq] at scanned
    simpa only [Bool.and_eq_true, Bool.not_eq_true', offers_iff acyclic, and_comm] using scanned
  refine ⟨simple, ?_⟩
  constructor
  · intro whole o member takes
    obtain ⟨index, here⟩ := List.mem_iff_getElem?.mp member
    have found := (whole.members o index).mpr ⟨here, takes⟩
    exact ((simple.members o index).mp found).2.2
  · intro undotted
    refine ⟨simple.ascending, fun o index => ?_⟩
    rw [simple.members]
    constructor
    · rintro ⟨here, takes, _⟩
      exact ⟨here, takes⟩
    · rintro ⟨here, takes⟩
      exact ⟨here, takes, undotted o (List.mem_of_getElem? here) takes⟩

/-- A depot and a yard that both check trucks. One action of the depot has a dot in its own name,
which makes it the name of an action of the yard. -/
def yard : Definitions := .ofDeclarations [
  .inNamespace "depot",
  .entityType "truck" [],
  .entityType "tanker" [.base "truck"],
  .action "yard.check" "truck" [],
  .action "check" "truck" [],
  .function "check" "Collection(truck)" [],
  .inNamespace "yard",
  .action "check" "depot.tanker" []]

def yardGraph : Graph := yard.build.toOption.getD { types := [] }

theorem yard_built : yard.build = .ok yardGraph := by decide

/-- Under a simple name a tanker has the actions of both namespaces, one through its base. -/
theorem boundOperations_scan_iff_check : yard.build = .ok yardGraph ∧
    (yardGraph.boundOperations "check" ⟨18, false⟩).map (·.2) = [1, 3] ∧
    yardGraph.Scan (yardGraph.Takes "check" ⟨18, false⟩)
      (yardGraph.boundOperations "check" ⟨18, false⟩) := by
  have undotted : ∀ o ∈ yardGraph.operations, o.isNamed "check" = true →
      isQualified o.name = false := by
    decide
  have agrees := (boundOperations_scan_iff yard_built "check" ⟨18, false⟩).2
  refine ⟨yard_built, by decide, agrees.mpr ?_⟩
  intro o member takes
  exact undotted o member (isNamed_iff.mpr takes.named)

/-- Under the name that two actions share, only the one of the yard is found. -/
theorem boundOperations_misses_dotted_name : yard.build = .ok yardGraph ∧
    (yardGraph.boundOperations "yard.check" ⟨18, false⟩).map (·.2) = [3] ∧
    (∃ o, yardGraph.operations[0]? = some o ∧ yardGraph.Takes "yard.check" ⟨18, false⟩ o) ∧
    ¬ yardGraph.Scan (yardGraph.Takes "yard.check" ⟨18, false⟩)
      (yardGraph.boundOperations "yard.check" ⟨18, false⟩) := by
  have found : (yardGraph.boundOperations "yard.check" ⟨18, false⟩).map (·.2) = [3] := by decide
  have first : yardGraph.operations[0]? = some
      { space := "depot", name := "yard.check", kind := .action, binding := ⟨17, false⟩ } := by
    decide
  have link : yardGraph.Link 18 17 := by
    show yardGraph.base? 18 = some 17
    decide
  have takes : yardGraph.Takes "yard.check" ⟨18, false⟩
      { space := "depot", name := "yard.check", kind := .action, binding := ⟨17, false⟩ } :=
    ⟨.inl rfl, rfl, .single link⟩
  refine ⟨yard_built, found, ⟨_, first, takes⟩, ?_⟩
  intro scanned
  have place := List.mem_map_of_mem (f := (·.2)) ((scanned.members _ 0).mpr ⟨first, takes⟩)
  rw [found] at place
  contradiction

end Graph
end EntityService.Schema
