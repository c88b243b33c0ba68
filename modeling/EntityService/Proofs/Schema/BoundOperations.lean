import EntityService.Schema.Hierarchy
import Mathlib.Data.List.Basic
import Mathlib.Data.List.TakeWhile

/-! Operations by name. They are looked up under the simple part of a name, which is all that
follows its last dot, so the look-up agrees with a scan of all operations except for those whose own
simple name has a dot: it never finds them. -/
namespace EntityService

namespace Naming

theorem takeWhile_append_stop {α : Type} {p : α → Bool} {stop : α} (stops : p stop = false)
    (before after : List α) : (before ++ stop :: after).takeWhile p = before.takeWhile p := by
  induction before with
  | nil => simp [stops]
  | cons a before ih =>
    rw [List.cons_append, List.takeWhile_cons, List.takeWhile_cons, ih]

/-- Only what follows a dot matters. -/
theorem afterLastDot_append (before after : List Char) :
    afterLastDot (before ++ '.' :: after) = afterLastDot after := by
  rw [afterLastDot, List.reverse_append, List.reverse_cons, List.append_assoc,
    List.singleton_append, takeWhile_append_stop rfl, afterLastDot]

theorem unqualified_qualify (space name : String) :
    unqualified (qualify space name) = unqualified name := by
  have text : (qualify space name).toList = space.toList ++ '.' :: name.toList := by
    simp [qualify]
  rw [unqualified, text, afterLastDot_append, unqualified]

theorem unqualified_eq_self_iff {name : String} :
    unqualified name = name ↔ isQualified name = false := by
  rw [← String.toList_inj, unqualified, String.toList_ofList, afterLastDot, List.reverse_eq_iff,
    List.takeWhile_eq_self_iff, isQualified, List.contains_eq_mem, decide_eq_false_iff_not]
  constructor
  · intro plain dotted
    simpa using plain '.' (List.mem_reverse.mpr dotted)
  · intro plain c member
    exact bne_iff_ne.mpr fun same => plain (same ▸ List.mem_reverse.mp member)

end Naming

namespace Schema

open Naming

theorem Operation.unqualified_of_isNamed {o : Operation} {identifier : String}
    (named : o.isNamed identifier = true) : unqualified identifier = unqualified o.name := by
  rcases Bool.or_eq_true_iff.mp named with simple | qualified
  · rw [beq_iff_eq.mp simple]
  · rw [beq_iff_eq.mp qualified, Operation.qualifiedName, unqualified_qualify]

namespace Graph

variable {g : Graph} {identifier : String} {type : TypeRef} {p : Operation → Bool} {o : Operation}
  {index : Nat}

/-- The index knows every operation under its simple name. -/
theorem operationsNamed_eq (g : Graph) (name : String) :
    g.operationsNamed name = g.operations.zipIdx.filter (·.1.name == name) := by
  rw [operationsNamed, OperationIndex.places_ofOperations, List.filterMap_map]
  conv_rhs => rw [← List.filterMap_some (l := g.operations.zipIdx.filter _)]
  refine List.filterMap_congr fun entry member => ?_
  have here := List.mem_zipIdx_iff_getElem?.mp (List.mem_of_mem_filter member)
  rw [Function.comp_apply, here, Option.map_some]

/-- The operations that a name and a type give are those of a scan whose simple names have no
dot. -/
theorem boundOperations_eq (g : Graph) (identifier : String) (type : TypeRef) :
    g.boundOperations identifier type =
      g.operations.zipIdx.filter fun entry =>
        !isQualified entry.1.name && g.offers identifier type entry.1 := by
  rw [boundOperations, operationsNamed_eq, List.filter_filter]
  apply List.filter_congr
  rintro ⟨o, index⟩ _
  cases offered : g.offers identifier type o with
  | false => simp
  | true =>
    have named : o.isNamed identifier = true := by
      simp only [offers, Bool.and_eq_true] at offered
      exact offered.1.1
    rw [Operation.unqualified_of_isNamed named, Bool.true_and, Bool.and_true, Bool.eq_iff_iff,
      beq_iff_eq, eq_comm, unqualified_eq_self_iff, Bool.not_eq_true']

theorem find?_zipIdx_eq_some_iff {α : Type} {as : List α} {p : α → Bool} {a : α} :
    as.zipIdx.find? (p ·.1) = some (a, index) ↔ as[index]? = some a ∧ p a = true ∧
      ∀ earlier < index, ∀ other, as[earlier]? = some other → p other = false := by
  rw [List.find?_eq_some_iff_getElem]
  constructor
  · rintro ⟨holds, place, bound, here, before⟩
    rw [List.getElem_zipIdx, Nat.zero_add] at here
    cases here
    refine ⟨List.getElem?_eq_getElem _, holds, ?_⟩
    intro earlier early other there
    obtain ⟨_, rfl⟩ := List.getElem?_eq_some_iff.mp there
    simpa using before earlier early
  · rintro ⟨here, holds, before⟩
    obtain ⟨bound, rfl⟩ := List.getElem?_eq_some_iff.mp here
    refine ⟨holds, index, by rwa [List.length_zipIdx], ?_, ?_⟩
    · rw [List.getElem_zipIdx, Nat.zero_add]
    · intro earlier early
      have there := before earlier early _ (List.getElem?_eq_getElem (Nat.lt_trans early bound))
      rw [List.getElem_zipIdx, there, Bool.not_false]

/-- The first operation with some property that a name and a type give. Before it in the graph
stand, of those that the name means at the type, only such that have a dot in their simple name. -/
theorem find?_boundOperations_eq_some_iff :
    (g.boundOperations identifier type).find? (p ·.1) = some (o, index) ↔
      g.operations[index]? = some o ∧
      (isQualified o.name = false ∧ g.offers identifier type o = true ∧ p o = true) ∧
      ∀ earlier < index, ∀ other, g.operations[earlier]? = some other →
        g.offers identifier type other = true → p other = true → isQualified other.name = true := by
  have passed (other : Operation) : ¬ (isQualified other.name = false ∧
      g.offers identifier type other = true ∧ p other = true) ↔
        (g.offers identifier type other = true → p other = true →
          isQualified other.name = true) := by
    cases isQualified other.name <;> simp
  rw [boundOperations_eq, List.find?_filter]
  simp only [Bool.and_eq_true, Bool.not_eq_true', and_assoc]
  rw [find?_zipIdx_eq_some_iff (p := fun o => decide (isQualified o.name = false ∧
    g.offers identifier type o = true ∧ p o = true))]
  simp only [decide_eq_true_eq, decide_eq_false_iff_not, passed, and_assoc]

end Graph
end Schema
end EntityService
