import EntityService.Proofs.Schema.Consistency

/-! The order of types by derivation. In a graph that was built, base links lead to types of the
table and never back, so each type has one finite chain of bases, and whether a type stands for
another one is whether the base links lead there. -/
namespace EntityService.Schema

open Relation

namespace Graph

variable {g : Graph} {steps index candidate base other : Nat}

theorem climb_first (g : Graph) (steps index : Nat) : (g.climb steps index).head? = some index := by
  obtain ⟨bases, same⟩ := exists_climb g steps index
  rw [same, List.head?_cons]

/-- A climb that ends has met every type to which the base links lead. -/
theorem mem_climb_of_reached (ends : g.endsWithin steps index = true)
    (path : ReflTransGen g.Link index other) : other ∈ g.climb steps index := by
  induction steps generalizing index with
  | zero =>
    have root : g.base? index = none := Option.isNone_iff_eq_none.mp ends
    rcases path.cases_head with rfl | ⟨base, link, _⟩
    · exact List.mem_singleton_self _
    · exact absurd (root.symm.trans link) nofun
  | succ steps ih =>
    rcases path.cases_head with rfl | ⟨base, link, onward⟩
    · exact List.mem_of_mem_head? (climb_first ..)
    · rw [endsWithin, show g.base? index = some base from link] at ends
      rw [climb, show g.base? index = some base from link]
      exact List.mem_cons_of_mem index (ih ends onward)

theorem climb_last (ends : g.endsWithin steps index = true) :
    ∀ last ∈ (g.climb steps index).getLast?, g.base? last = none := by
  induction steps generalizing index with
  | zero =>
    rintro last ⟨⟩
    exact Option.isNone_iff_eq_none.mp ends
  | succ steps ih =>
    cases link : g.base? index with
    | none =>
      rw [climb, link]
      rintro last ⟨⟩
      exact link
    | some base =>
      obtain ⟨bases, same⟩ := exists_climb g steps base
      simp only [endsWithin, link] at ends
      have later := ih ends
      simp only [climb, link]
      rw [same] at later ⊢
      rwa [List.getLast?_cons_cons]

section Acyclic

variable (acyclic : ∀ index, ¬ TransGen g.Link index index)
include acyclic

theorem mem_baseChain_iff : other ∈ g.baseChain index ↔ ReflTransGen g.Link index other :=
  ⟨climb_reached, mem_climb_of_reached (ends_of_acyclic fun other _ => acyclic other)⟩

theorem sameOrDerived_iff :
    g.sameOrDerived candidate base = true ↔ ReflTransGen g.Link candidate base := by
  rw [sameOrDerived, List.contains_iff_mem, mem_baseChain_iff acyclic]

theorem baseChain_nodup (index : Nat) : (g.baseChain index).Nodup := by
  refine (climb_ordered g _ index).imp fun path same => ?_
  subst same
  exact acyclic _ path

theorem baseChain_last : ∀ last ∈ (g.baseChain index).getLast?, g.base? last = none :=
  climb_last (ends_of_acyclic fun other _ => acyclic other)

/-- A type that is derived from a type which is derived from it is that type. -/
theorem eq_of_reached (there : ReflTransGen g.Link index other)
    (back : ReflTransGen g.Link other index) : index = other := by
  rcases there.cases_head with same | ⟨base, link, onward⟩
  · exact same
  · exact absurd (TransGen.head' link (onward.trans back)) (acyclic index)

end Acyclic

theorem mem_derivedTypes_iff : candidate ∈ g.derivedTypes base ↔
    candidate < g.types.length ∧ candidate ≠ base ∧ g.sameOrDerived candidate base = true := by
  simp only [derivedTypes, List.mem_filter, List.mem_range, Bool.and_eq_true, bne_iff_ne]

theorem derivedTypes_increasing (g : Graph) (base : Nat) :
    (g.derivedTypes base).Pairwise (· < ·) :=
  List.pairwise_lt_range.filter _

/-- A type followed by its bases, each one the base of the one before it. The last has no base, so
none is missing. -/
structure IsChain (g : Graph) (index : Nat) (chain : List Nat) : Prop where
  first : chain.head? = some index
  linked : chain.IsChain g.Link
  last : ∀ last ∈ chain.getLast?, g.base? last = none
  once : chain.Nodup
  members : ∀ other, other ∈ chain ↔ other < g.types.length ∧ g.sameOrDerived index other = true
  size : chain.length ≤ g.types.length

/-- The types that derive from another one, in the order of the table. -/
structure IsDerived (g : Graph) (base : Nat) (derived : List Nat) : Prop where
  increasing : derived.Pairwise (· < ·)
  once : derived.Nodup
  members : ∀ other, other ∈ derived ↔
    other < g.types.length ∧ other ≠ base ∧ g.sameOrDerived other base = true
  irreflexive : base ∉ derived

/-- To stand for a type is a partial order, and it is what base links say. Both lists of types are
read off this order. -/
structure Ordered (g : Graph) : Prop where
  links : ∀ candidate base,
    g.sameOrDerived candidate base = true ↔ ReflTransGen g.Link candidate base
  refl : ∀ index, g.sameOrDerived index index = true
  trans : ∀ index other base, g.sameOrDerived index other = true →
    g.sameOrDerived other base = true → g.sameOrDerived index base = true
  antisymm : ∀ index other, g.sameOrDerived index other = true →
    g.sameOrDerived other index = true → index = other
  chains : ∀ index < g.types.length, g.IsChain index (g.baseChain index)
  derived : ∀ index < g.types.length, g.IsDerived index (g.derivedTypes index)

theorem isDerived (g : Graph) (base : Nat) : g.IsDerived base (g.derivedTypes base) where
  increasing := derivedTypes_increasing g base
  once := (derivedTypes_increasing g base).imp Nat.ne_of_lt
  members _ := mem_derivedTypes_iff
  irreflexive member := (mem_derivedTypes_iff.mp member).2.1 rfl

end Graph

namespace Built

variable {d : Definitions} {g : Graph} {index base : Nat}

theorem acyclic (built : Built d g) (index : Nat) : ¬ TransGen g.Link index index :=
  Graph.checkBases_eq_ok_iff.mp built.bases index

/-- A base is found among the names of the table, so it is one of its types. -/
theorem base_bounded (built : Built d g) (link : g.Link index base) : base < g.types.length := by
  obtain ⟨defined, table, each⟩ := Definitions.resolveTypes_eq_ok_iff.mp built.types
  obtain ⟨s, found, based⟩ := Option.bind_eq_some_iff.mp link
  have member := List.mem_of_getElem? found
  rw [table] at member
  rcases List.mem_append.mp member with primitive | defines
  · obtain ⟨_, _, rfl⟩ := List.mem_map.mp primitive
    cases based
  · obtain ⟨t, _, resolved⟩ := Outcome.exists_part_of_mem each defines
    obtain ⟨_, _, r, _, place⟩ := (Definitions.link_iff resolved).mp based
    have here := (idxOf?_eq_some_iff_of_nodup built.names).mp place
    exact Graph.bounded_of_name (built.typeNames ▸ here)

theorem reached_bounded (built : Built d g) (bound : index < g.types.length)
    (path : ReflTransGen g.Link index base) : base < g.types.length := by
  cases path with
  | refl => exact bound
  | tail _ link => exact built.base_bounded link

theorem isChain (built : Built d g) (bound : index < g.types.length) :
    g.IsChain index (g.baseChain index) := by
  have once := Graph.baseChain_nodup built.acyclic index
  have inside : ∀ other ∈ g.baseChain index, other < g.types.length := fun other member =>
    built.reached_bounded bound ((Graph.mem_baseChain_iff built.acyclic).mp member)
  refine ⟨Graph.climb_first .., Graph.climb_linked .., Graph.baseChain_last built.acyclic, once,
    fun other => ?_, length_le_of_bounded once inside⟩
  rw [Graph.sameOrDerived_iff built.acyclic, Graph.mem_baseChain_iff built.acyclic]
  exact ⟨fun path => ⟨built.reached_bounded bound path, path⟩, And.right⟩

end Built

namespace Graph

variable {d : Definitions} {g : Graph}

/-- In every graph that is built, derivation is a partial order of finite chains. -/
theorem ordered_of_build (built : d.build = .ok g) : g.Ordered := by
  have built := Definitions.build_eq_ok_iff.mp built
  have links (candidate base : Nat) :
      g.sameOrDerived candidate base = true ↔ ReflTransGen g.Link candidate base :=
    sameOrDerived_iff built.acyclic
  refine ⟨links, fun index => (links _ _).mpr .refl, fun index other base first second => ?_,
    fun index other there back => ?_, fun index bound => built.isChain bound,
    fun index _ => isDerived g index⟩
  · exact (links _ _).mpr (((links _ _).mp first).trans ((links _ _).mp second))
  · exact eq_of_reached built.acyclic ((links _ _).mp there) ((links _ _).mp back)

/-- A tanker is a truck and a truck is a vehicle, which is defined after both. -/
theorem ordered_of_build_fleet :
    (Definitions.ofDeclarations fleet).build = .ok fleetGraph ∧ fleetGraph.Ordered ∧
      fleetGraph.baseChain 18 = [18, 17, 19] ∧ fleetGraph.derivedTypes 19 = [17, 18] :=
  ⟨fleet_built, ordered_of_build fleet_built, by decide, by decide⟩

end Graph
end EntityService.Schema
