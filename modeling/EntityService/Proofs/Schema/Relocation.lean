import EntityService.Proofs.Schema.BoundOperations
import Mathlib.Data.List.Basic
import Mathlib.Logic.Function.Basic

/-! Graphs that differ only in the places of their types. Every look-up in one of them is the
relocated look-up in the other. -/
namespace EntityService.Schema

section Relocate

variable (σ : Nat → Nat)

def TypeRef.relocate (t : TypeRef) : TypeRef := ⟨σ t.index, t.collection⟩

def Members.relocate (m : Members) : Members := ⟨m.entries.map fun e => (e.1, e.2.relocate σ)⟩

def SchemaType.relocate (t : SchemaType) : SchemaType :=
  { t with
    base := t.base.map σ
    properties := t.properties.relocate σ
    navigation := t.navigation.relocate σ }

def Root.relocate (r : Root) : Root := { r with type := σ r.type }

def Operation.relocate (o : Operation) : Operation :=
  { o with
    binding := o.binding.relocate σ
    parameters := o.parameters.relocate σ
    returns := o.returns.map (·.relocate σ) }

/-- An operation keeps its place. -/
def Operation.relocateEntry (entry : Operation × Nat) : Operation × Nat :=
  (entry.1.relocate σ, entry.2)

/-- The second graph is the first one with its types moved to other places. -/
structure Relocated (g h : Graph) : Prop where
  injective : Function.Injective σ
  size : h.types.length = g.types.length
  types : ∀ i, h.types[σ i]? = (g.types[i]?).map (·.relocate σ)
  names : ∀ name, h.typeByName? name = (g.typeByName? name).map σ
  roots : ∀ name, h.root? name = (g.root? name).map (·.relocate σ)
  operations : h.operations = g.operations.map (·.relocate σ)

end Relocate

variable {σ : Nat → Nat} {g h : Graph}

@[simp] theorem TypeRef.relocate_index (t : TypeRef) : (t.relocate σ).index = σ t.index := rfl

@[simp] theorem TypeRef.relocate_collection (t : TypeRef) :
    (t.relocate σ).collection = t.collection := rfl

@[simp] theorem Operation.relocate_isNamed (o : Operation) (identifier : String) :
    (o.relocate σ).isNamed identifier = o.isNamed identifier := rfl

theorem Members.relocate_find? (m : Members) (name : String) :
    (m.relocate σ).find? name = (m.find? name).map (·.relocate σ) := by
  obtain ⟨entries⟩ := m
  change (entries.map _).lookup name = (entries.lookup name).map _
  induction entries with
  | nil => rfl
  | cons e entries ih =>
    rw [List.map_cons, List.lookup_cons, List.lookup_cons, ih]
    cases name == e.1 <;> rfl

theorem Members.relocate_put (m : Members) (name : String) (type : TypeRef) :
    (m.put name type).relocate σ = (m.relocate σ).put name (type.relocate σ) := by
  obtain ⟨entries⟩ := m
  refine congrArg Members.mk ?_
  change (putEntry name type entries).map _ = putEntry name (type.relocate σ) (entries.map _)
  induction entries with
  | nil => rfl
  | cons entry entries ih =>
    by_cases same : entry.1 = name
    · simp only [putEntry, List.map_cons, same, if_true]
    · simp only [putEntry, List.map_cons, same, if_false, ih]

theorem Members.relocate_ofDeclared (declared : List (String × TypeRef)) :
    (ofDeclared declared).relocate σ =
      ofDeclared (declared.map fun entry => (entry.1, entry.2.relocate σ)) := by
  rw [ofDeclared, ofDeclared, List.foldl_map]
  refine (List.foldl_hom (Members.relocate σ) ?_).symm
  intro m entry
  exact (m.relocate_put entry.1 entry.2).symm

namespace Relocated

variable (relocated : Relocated σ g h)
include relocated

theorem typeName (index : Nat) : h.typeName (σ index) = g.typeName index := by
  rw [Graph.typeName, Graph.typeName, Graph.typeNames, Graph.typeNames, List.getElem?_map,
    List.getElem?_map, relocated.types, Option.map_map]
  rfl

theorem base? (index : Nat) : h.base? (σ index) = (g.base? index).map σ := by
  rw [Graph.base?, Graph.base?, relocated.types]
  cases g.types[index]? <;> rfl

theorem climb (steps index : Nat) : h.climb steps (σ index) = (g.climb steps index).map σ := by
  induction steps generalizing index with
  | zero => rfl
  | succ steps ih =>
    rw [Graph.climb, Graph.climb, relocated.base?]
    cases g.base? index with
    | none => rfl
    | some base => exact congrArg (σ index :: ·) (ih base)

theorem baseChain (index : Nat) : h.baseChain (σ index) = (g.baseChain index).map σ := by
  rw [Graph.baseChain, Graph.baseChain, relocated.size, relocated.climb]

/-- Here it matters that no two types are moved to the same place. -/
theorem sameOrDerived (candidate base : Nat) :
    h.sameOrDerived (σ candidate) (σ base) = g.sameOrDerived candidate base := by
  rw [Graph.sameOrDerived, Graph.sameOrDerived, relocated.baseChain, Bool.eq_iff_iff,
    List.contains_iff_mem, List.contains_iff_mem, List.mem_map_of_injective relocated.injective]

/-- A look-up in own members that are moved with their type. -/
theorem ownMember? {members : SchemaType → Members}
    (moved : ∀ t : SchemaType, members (t.relocate σ) = (members t).relocate σ) (name : String)
    (index : Nat) : (h.types[σ index]?).bind (fun t => (members t).find? name) =
      ((g.types[index]?).bind fun t => (members t).find? name).map (·.relocate σ) := by
  rw [relocated.types]
  cases g.types[index]? with
  | none => rfl
  | some t =>
    rw [Option.map_some, Option.bind_some, Option.bind_some, moved, Members.relocate_find?]

theorem findSome?_baseChain {own moved : Nat → Option TypeRef}
    (each : ∀ index, moved (σ index) = (own index).map (·.relocate σ)) (index : Nat) :
    (h.baseChain (σ index)).findSome? moved =
      ((g.baseChain index).findSome? own).map (·.relocate σ) := by
  rw [relocated.baseChain, List.findSome?_map, List.map_findSome?]
  exact congrArg (List.findSome? · _) (funext each)

theorem navigation? (index : Nat) (name : String) :
    h.navigation? (σ index) name = (g.navigation? index name).map (·.relocate σ) :=
  relocated.findSome?_baseChain (relocated.ownMember? (fun _ => rfl) name) index

theorem property? (index : Nat) (name : String) :
    h.property? (σ index) name = (g.property? index name).map (·.relocate σ) :=
  relocated.findSome?_baseChain (relocated.ownMember? (fun _ => rfl) name) index

theorem operationsNamed (name : String) : h.operationsNamed name =
    (g.operationsNamed name).map (Operation.relocateEntry σ) := by
  rw [Graph.operationsNamed_eq, Graph.operationsNamed_eq, relocated.operations, List.zipIdx_map,
    List.filter_map]
  rfl

theorem offers (identifier : String) (binding : TypeRef) (o : Operation) :
    h.offers identifier (binding.relocate σ) (o.relocate σ) = g.offers identifier binding o := by
  rw [Graph.offers, Graph.offers, Operation.relocate_isNamed]
  exact congrArg _ (relocated.sameOrDerived binding.index o.binding.index)

theorem boundOperations (identifier : String) (binding : TypeRef) :
    h.boundOperations identifier (binding.relocate σ) =
      (g.boundOperations identifier binding).map (Operation.relocateEntry σ) := by
  rw [Graph.boundOperations, Graph.boundOperations, relocated.operationsNamed, List.filter_map]
  refine congrArg _ (List.filter_congr fun entry _ => ?_)
  exact relocated.offers identifier binding entry.1

end Relocated
end EntityService.Schema
