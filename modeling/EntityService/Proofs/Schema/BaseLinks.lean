import EntityService.Schema.Build
import Mathlib.Data.List.Chain
import Mathlib.Data.List.Perm.Subperm
import Mathlib.Logic.Relation

/-! Base links and the search for a cycle among them. A climb that is longer than the table meets a
type twice, so as many steps as there are types decide whether the links of a type ever end. -/
namespace EntityService.Schema

/-- Places in a table that are all different are at most as many as the table has. -/
theorem length_le_of_bounded {places : List Nat} {size : Nat} (once : places.Nodup)
    (inside : ∀ index ∈ places, index < size) : places.length ≤ size := by
  have subset : places ⊆ List.range size := fun index member =>
    List.mem_range.mpr (inside index member)
  have bound := (List.subperm_of_subset once subset).length_le
  rwa [List.length_range] at bound

namespace Graph

open Relation

variable {g : Graph} {steps index base other cyclic : Nat}

def Link (g : Graph) (index base : Nat) : Prop := g.base? index = some base

theorem Link.bounded (link : g.Link index base) : index < g.types.length := by
  obtain ⟨t, found, _⟩ := Option.bind_eq_some_iff.mp link
  exact (List.getElem?_eq_some_iff.mp found).1

/-- The base links of a type never end, as they lead into a cycle. -/
def Endless (g : Graph) (index : Nat) : Prop :=
  ∃ cyclic, ReflTransGen g.Link index cyclic ∧ TransGen g.Link cyclic cyclic

theorem Endless.bounded (endless : g.Endless index) : index < g.types.length := by
  obtain ⟨cyclic, path, cycle⟩ := endless
  obtain ⟨base, link, _⟩ := TransGen.head'_iff.mp (TransGen.trans_right path cycle)
  exact link.bounded

theorem exists_climb (g : Graph) (steps index : Nat) :
    ∃ bases, g.climb steps index = index :: bases := by
  cases steps with
  | zero => exact ⟨[], rfl⟩
  | succ steps =>
    cases link : g.base? index with
    | none => exact ⟨[], by simp only [climb, link]⟩
    | some base => exact ⟨g.climb steps base, by simp only [climb, link]⟩

theorem climb_linked (g : Graph) (steps index : Nat) : (g.climb steps index).IsChain g.Link := by
  induction steps generalizing index with
  | zero => exact .singleton index
  | succ steps ih =>
    cases link : g.base? index with
    | none =>
      simp only [climb, link]
      exact .singleton index
    | some base =>
      obtain ⟨bases, same⟩ := exists_climb g steps base
      have rest := ih base
      simp only [climb, link, same] at rest ⊢
      exact .cons_cons link rest

theorem climb_ordered (g : Graph) (steps index : Nat) :
    (g.climb steps index).Pairwise (TransGen g.Link) :=
  ((climb_linked g steps index).imp fun _ _ link => .single link).pairwise

theorem climb_reached (member : other ∈ g.climb steps index) : ReflTransGen g.Link index other := by
  obtain ⟨bases, same⟩ := exists_climb g steps index
  have ordered := climb_ordered g steps index
  rw [same] at member ordered
  rcases List.mem_cons.mp member with rfl | later
  · exact .refl
  · exact (List.rel_of_pairwise_cons ordered later).to_reflTransGen

/-- Base links that have not ended after some steps have led from type to type all the way. -/
theorem climb_endless (endless : g.endsWithin steps index = false) :
    (g.climb steps index).length = steps + 1 ∧
      ∀ other ∈ g.climb steps index, other < g.types.length := by
  induction steps generalizing index with
  | zero =>
    cases link : g.base? index with
    | none => simp [endsWithin, link] at endless
    | some base =>
      refine ⟨rfl, fun other member => ?_⟩
      cases List.mem_singleton.mp member
      exact Link.bounded link
  | succ steps ih =>
    cases link : g.base? index with
    | none => simp [endsWithin, link] at endless
    | some base =>
      simp only [endsWithin, link] at endless
      obtain ⟨length, bounded⟩ := ih endless
      simp only [climb, link, List.length_cons, length, List.forall_mem_cons, true_and]
      exact ⟨Link.bounded link, bounded⟩

/-- A climb that returns to no type is at most as long as the table. -/
theorem ends_of_acyclic (acyclic : ∀ other, ReflTransGen g.Link index other →
    ¬ TransGen g.Link other other) : g.endsWithin g.types.length index = true := by
  by_contra endless
  obtain ⟨length, bounded⟩ := climb_endless (Bool.not_eq_true _ ▸ endless)
  have nodup : (g.climb g.types.length index).Nodup := by
    refine (climb_ordered g _ index).imp_of_mem fun member _ path same => ?_
    subst same
    exact acyclic _ (climb_reached member) path
  have bound := length_le_of_bounded nodup bounded
  omega

theorem acyclic_of_ends (ends : g.endsWithin steps index = true)
    (path : ReflTransGen g.Link index cyclic) : ¬ TransGen g.Link cyclic cyclic := by
  induction steps generalizing index cyclic with
  | zero =>
    intro cycle
    obtain ⟨base, link, _⟩ := TransGen.head'_iff.mp (TransGen.trans_right path cycle)
    simp [endsWithin, Link] at ends link
    simp [ends] at link
  | succ steps ih =>
    intro cycle
    obtain ⟨base, link, back⟩ := TransGen.head'_iff.mp (TransGen.trans_right path cycle)
    rw [endsWithin, show g.base? index = some base from link] at ends
    exact ih ends back cycle

/-- The search finds exactly the types from which the base links run into a cycle. -/
theorem endless_iff : g.endsWithin g.types.length index = false ↔ g.Endless index := by
  constructor
  · intro endless
    by_contra none
    unfold Endless at none
    push Not at none
    simp [ends_of_acyclic none] at endless
  · rintro ⟨cyclic, path, cycle⟩
    by_contra ends
    exact acyclic_of_ends (Bool.not_eq_false _ ▸ ends) path cycle

theorem checkBases_eq_ok_iff : g.checkBases = .ok () ↔ ∀ index, ¬ TransGen g.Link index index := by
  unfold checkBases firstEndless?
  constructor
  · intro checked index cycle
    obtain ⟨base, link, _⟩ := TransGen.head'_iff.mp cycle
    split at checked
    · contradiction
    · rename_i none
      have ends := List.find?_eq_none.mp none index (List.mem_range.mpr link.bounded)
      have endless := endless_iff.mpr ⟨index, .refl, cycle⟩
      simp [endless] at ends
  · intro acyclic
    have none : (List.range g.types.length).find? (!g.endsWithin g.types.length ·) = none := by
      refine List.find?_eq_none.mpr fun index _ => ?_
      simp [ends_of_acyclic fun other _ => acyclic other]
    rw [none]

/-- The search goes through the table from its beginning. -/
theorem checkBases_eq_error (failed : g.checkBases = .error e) :
    ∃ index, e = .inheritanceCycle (g.typeName index) ∧ g.Endless index ∧
      ∀ earlier < index, ¬ g.Endless earlier := by
  unfold checkBases firstEndless? at failed
  split at failed
  · rename_i index found
    cases failed
    obtain ⟨endless, _, before⟩ := List.find?_range_eq_some.mp found
    refine ⟨index, rfl, endless_iff.mp (by simpa using endless), ?_⟩
    intro earlier less again
    have ends := before earlier less
    rw [endless_iff.mpr again] at ends
    contradiction
  · contradiction

end Graph
end EntityService.Schema
