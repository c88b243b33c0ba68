import EntityService.Proofs.Schema.Building
import EntityService.Proofs.Schema.Namespaces

/-! Definitions make a graph exactly when they are consistent, and the reason that is given when
they make none is true of them. Consistency speaks of the definitions alone: it knows nothing of
tables, places in them or the order in which they are checked. -/
namespace EntityService.Schema

open Outcome Relation

namespace Definitions

/-- The type of a name is declared to have the type of another name as its base. -/
def Derives (d : Definitions) (name base : String) : Prop :=
  ∃ t ∈ d.types, t.qualifiedName = name ∧ ∃ reference ∈ t.base, ∃ r,
    Reference.parse? reference = some r ∧ r.qualifiedIn t.space = base

/-- The bases of the type of a name never end, as they lead into a cycle. -/
def Endless (d : Definitions) (name : String) : Prop :=
  ∃ cyclic, ReflTransGen d.Derives name cyclic ∧ TransGen d.Derives cyclic cyclic

structure Consistent (d : Definitions) : Prop where
  types_once : d.typeNames.Nodup
  references_mean : ∀ w ∈ d.written, w.Means d.typeNames
  bases_end : ∀ name, ¬ TransGen d.Derives name name
  roots_once : (d.roots.map (·.name)).Nodup

end Definitions

/-- What an error says about the definitions. -/
def SchemaError.Holds (d : Definitions) : SchemaError → Prop
  | .duplicateType name => 2 ≤ d.typeNames.count name
  | .duplicateRoot name => 2 ≤ (d.roots.map (·.name)).count name
  | .invalidTypeReference reference =>
    ∃ w ∈ d.written, w.reference = reference ∧ Reference.parse? reference = none
  | .unknownType reference site =>
    ∃ w ∈ d.written, w.reference = reference ∧ w.site = site ∧
      ∃ r, Reference.parse? reference = some r ∧ r.qualifiedIn w.space ∉ d.typeNames
  | .inheritanceCycle name =>
    ∃ cyclic, ReflTransGen d.Derives name cyclic ∧ TransGen d.Derives cyclic cyclic

theorem Written.Blamed.holds {d : Definitions} {w : Written} {e : SchemaError}
    (member : w ∈ d.written) (blamed : w.Blamed d.typeNames e) : e.Holds d := by
  cases blamed with
  | malformed failed => exact ⟨w, member, rfl, failed⟩
  | unknown parsed missing => exact ⟨w, member, rfl, rfl, _, parsed, missing⟩

/-- Two of the conditions on roots are checked in one pass over them. -/
theorem resolveRoots_outcome (names seen : List String) (roots : List RootDefinition) :
    match resolveRoots names seen roots with
    | .ok _ => (∀ root ∈ roots, root.written.Means names) ∧ (roots.map (·.name)).Nodup ∧
        ∀ root ∈ roots, root.name ∉ seen
    | .error e => (∃ root ∈ roots, root.written.Blamed names e) ∨ ∃ name,
        e = .duplicateRoot name ∧ 2 ≤ seen.count name + (roots.map (·.name)).count name := by
  induction roots generalizing seen with
  | nil => simp [resolveRoots]
  | cons root roots ih =>
    have head : Depends names (resolve names root.space (.root root.name) root.reference)
        [root.written] := Depends.resolve root.written
    cases resolved : resolve names root.space (.root root.name) root.reference with
    | error e =>
      simp only [resolved, Depends, List.mem_singleton, exists_eq_left] at head
      simp only [resolveRoots, resolved, bind, Except.bind]
      exact .inl ⟨root, List.mem_cons_self, head⟩
    | ok type =>
      simp only [resolved, Depends, List.mem_singleton, forall_eq] at head
      by_cases member : root.name ∈ seen
      · simp only [resolveRoots, resolved, bind, Except.bind, List.contains_eq_mem, member,
          decide_true, if_true, List.map_cons]
        have early := List.count_pos_iff.mpr member
        refine .inr ⟨root.name, rfl, ?_⟩
        rw [List.count_cons_self]
        omega
      · have tail := ih (root.name :: seen)
        simp only [resolveRoots, resolved, bind, Except.bind, List.contains_eq_mem, member,
          decide_false, Bool.false_eq_true, if_false]
        cases rest : resolveRoots names (root.name :: seen) roots with
        | error e =>
          rw [rest] at tail
          rcases tail with ⟨other, late, blamed⟩ | ⟨name, same, count⟩
          · exact .inl ⟨other, List.mem_cons_of_mem root late, blamed⟩
          · refine .inr ⟨name, same, ?_⟩
            simp only [List.map_cons, List.count_cons] at count ⊢
            omega
        | ok others =>
          rw [rest] at tail
          obtain ⟨means, nodup, fresh⟩ := tail
          simp only [pure, Except.pure, List.forall_mem_cons, List.map_cons, List.nodup_cons]
          refine ⟨⟨head, means⟩, ⟨?_, nodup⟩, member, fun other late again => ?_⟩
          · intro again
            obtain ⟨other, late, same⟩ := List.mem_map.mp again
            exact fresh other late (same ▸ List.mem_cons_self)
          · exact fresh other late (List.mem_cons_of_mem root.name again)

namespace Definitions

variable {d : Definitions} {types : List SchemaType}

theorem resolveTypes_depends (d : Definitions) :
    Depends d.typeNames d.resolveTypes (d.types.flatMap (·.written)) :=
  (Depends.mapM d.types fun t => t.resolve_depends).map

theorem resolveOperations_depends (d : Definitions) :
    Depends d.typeNames (d.operations.mapM (·.resolve d.typeNames))
      (d.operations.flatMap (·.written)) :=
  Depends.mapM d.operations fun o => o.resolve_depends

/-- The base link of a type leads to the type whose name its definition gives. -/
theorem link_iff {s : SchemaType} {t : TypeDefinition} {base : Nat}
    (resolved : t.resolve d.typeNames = .ok s) : s.base = some base ↔
      ∃ reference ∈ t.base, ∃ r, Reference.parse? reference = some r ∧
        d.typeNames.idxOf? (r.qualifiedIn t.space) = some base := by
  obtain ⟨link, _, _, linked, _, _, rfl⟩ := TypeDefinition.resolve_eq_ok_iff.mp resolved
  cases given : t.base with
  | none =>
    rw [given] at linked
    cases linked
    simp
  | some reference =>
    rw [given] at linked
    change some <$> resolve d.typeNames t.space _ reference = .ok link at linked
    cases found : resolve d.typeNames t.space (.base t.qualifiedName) reference with
    | error e => rw [found] at linked; cases linked
    | ok type =>
      rw [found] at linked
      cases linked
      obtain ⟨r, parsed, place, _⟩ := resolve_eq_ok_iff.mp found
      simp [parsed, place]

/-- A base link joins types whose names are declared that way. -/
theorem derives_of_link (names : d.typeNames.Nodup) (typed : d.resolveTypes = .ok types)
    {index place : Nat} (link : ({ types } : Graph).Link index place) :
    d.Derives (({ types } : Graph).typeName index) (({ types } : Graph).typeName place) := by
  have tableNames := typeNames_of_resolveTypes typed
  obtain ⟨defined, rfl, each⟩ := resolveTypes_eq_ok_iff.mp typed
  obtain ⟨s, found, based⟩ := Option.bind_eq_some_iff.mp link
  rcases List.mem_append.mp (List.mem_of_getElem? found) with primitive | defines
  · obtain ⟨_, _, rfl⟩ := List.mem_map.mp primitive
    cases based
  · obtain ⟨t, member, resolved⟩ := exists_part_of_mem each defines
    obtain ⟨reference, given, r, parsed, means⟩ := (link_iff resolved).mp based
    have here := (idxOf?_eq_some_iff_of_nodup names).mp means
    refine ⟨t, member, ?_, reference, given, r, parsed, ?_⟩
    · simp only [Graph.typeName, Graph.typeNames, List.getElem?_map, found, Option.map_some,
        Option.getD_some]
      exact (TypeDefinition.resolve_name resolved).symm
    · simp only [Graph.typeName, Graph.typeNames, tableNames, here, Option.getD_some]

theorem link_of_derives (names : d.typeNames.Nodup) (typed : d.resolveTypes = .ok types)
    {name base : String} (derives : d.Derives name base) :
    ∃ index place, d.typeNames[index]? = some name ∧ d.typeNames[place]? = some base ∧
      ({ types } : Graph).Link index place := by
  have tableNames := typeNames_of_resolveTypes typed
  obtain ⟨defined, rfl, each⟩ := resolveTypes_eq_ok_iff.mp typed
  obtain ⟨t, member, rfl, reference, given, r, parsed, rfl⟩ := derives
  obtain ⟨s, defines, resolved⟩ := exists_value_of_mem each member
  obtain ⟨index, found⟩ := List.mem_iff_getElem?.mp (List.mem_append_right primitiveTypes defines)
  have known : r.qualifiedIn t.space ∈ d.typeNames := by
    have all : Depends d.typeNames (t.resolve d.typeNames) t.written := t.resolve_depends
    rw [resolved] at all
    obtain ⟨again, parsedAgain, known⟩ := all ⟨.base t.qualifiedName, t.space, reference⟩
      (List.mem_append_left _ (List.mem_map.mpr ⟨reference, Option.mem_toList.mpr given, rfl⟩))
    cases Option.some.inj (parsed.symm.trans parsedAgain)
    exact known
  obtain ⟨place, here⟩ := List.mem_iff_getElem?.mp known
  refine ⟨index, place, ?_, here, Option.bind_eq_some_iff.mpr ⟨s, found, ?_⟩⟩
  · rw [← tableNames, List.getElem?_map, found, ← TypeDefinition.resolve_name resolved]
    rfl
  · exact (link_iff resolved).mpr
      ⟨reference, given, r, parsed, (idxOf?_eq_some_iff_of_nodup names).mpr here⟩

/-- A name stands at one place only. -/
theorem place_unique (names : d.typeNames.Nodup) {index place : Nat} {name : String}
    (here : d.typeNames[index]? = some name) (there : d.typeNames[place]? = some name) :
    index = place := by
  have bound := (List.getElem?_eq_some_iff.mp here).1
  exact (List.getElem?_inj bound names).mp (here.trans there.symm)

/-- Names stand once, so steps between names that meet are base links that meet. -/
theorem links_of_derives (names : d.typeNames.Nodup) (typed : d.resolveTypes = .ok types)
    {name base : String} (path : TransGen d.Derives name base) :
    ∃ index place, d.typeNames[index]? = some name ∧ d.typeNames[place]? = some base ∧
      TransGen ({ types } : Graph).Link index place := by
  induction path with
  | single step =>
    obtain ⟨index, place, first, last, link⟩ := link_of_derives names typed step
    exact ⟨index, place, first, last, .single link⟩
  | tail _ step ih =>
    obtain ⟨index, middle, first, here, links⟩ := ih
    obtain ⟨again, place, there, last, link⟩ := link_of_derives names typed step
    obtain rfl := place_unique names here there
    exact ⟨index, place, first, last, links.tail link⟩

theorem bases_end_iff (names : d.typeNames.Nodup) (typed : d.resolveTypes = .ok types) :
    (∀ name, ¬ TransGen d.Derives name name) ↔
      ({ types } : Graph).checkBases = .ok () := by
  rw [Graph.checkBases_eq_ok_iff]
  constructor
  · intro acyclic index cycle
    exact acyclic _ (cycle.lift _ fun _ _ link => derives_of_link names typed link)
  · intro acyclic name cycle
    obtain ⟨index, place, first, last, links⟩ := links_of_derives names typed cycle
    obtain rfl := place_unique names first last
    exact acyclic index links

theorem consistent_of_built (built : Built d g) : d.Consistent := by
  have types := d.resolveTypes_depends
  have roots := resolveRoots_outcome d.typeNames [] d.roots
  have operations := d.resolveOperations_depends
  rw [built.types] at types
  rw [built.roots] at roots
  rw [built.operations] at operations
  obtain ⟨rooted, once, _⟩ := roots
  refine ⟨built.names, fun w member => ?_, (bases_end_iff built.names built.types).mpr built.bases,
    once⟩
  rcases List.mem_append.mp member with inTypes | other
  · exact types w inTypes
  rcases List.mem_append.mp other with inRoots | inOperations
  · obtain ⟨root, listed, rfl⟩ := List.mem_map.mp inRoots
    exact rooted root listed
  · exact operations w inOperations

theorem endless_of_place (names : d.typeNames.Nodup) (typed : d.resolveTypes = .ok types)
    {index : Nat} (endless : ({ types } : Graph).Endless index) :
    d.Endless (({ types } : Graph).typeName index) := by
  obtain ⟨cyclic, path, cycle⟩ := endless
  exact ⟨_, path.lift _ fun _ _ link => derives_of_link names typed link,
    cycle.lift _ fun _ _ link => derives_of_link names typed link⟩

theorem checkBases_error_holds {e : SchemaError} (names : d.typeNames.Nodup)
    (typed : d.resolveTypes = .ok types)
    (failed : ({ types } : Graph).checkBases = .error e) : e.Holds d := by
  obtain ⟨index, rfl, endless, _⟩ := Graph.checkBases_eq_error failed
  exact endless_of_place names typed endless

/-- What the checks come upon in definitions that make no graph. Bases are only followed where every
name stands once and every reference means a type. -/
inductive Failure (d : Definitions) : SchemaError → Prop where
  | repeatedType {name : String} : 2 ≤ d.typeNames.count name → Failure d (.duplicateType name)
  | repeatedRoot {name : String} : 2 ≤ (d.roots.map (·.name)).count name →
      Failure d (.duplicateRoot name)
  | reference {w : Written} {e : SchemaError} : w ∈ d.written → w.Blamed d.typeNames e → Failure d e
  | bases {types : List SchemaType} {e : SchemaError} : d.typeNames.Nodup →
      d.resolveTypes = .ok types → ({ types } : Graph).checkBases = .error e → Failure d e

theorem checkNames_failure {e : SchemaError} (failed : d.checkNames = .error e) : d.Failure e := by
  unfold checkNames at failed
  split at failed
  · rename_i name found
    cases failed
    exact .repeatedType (by simpa using two_le_count_of_firstRepeated? found)
  · contradiction

theorem resolveRoots_failure {e : SchemaError}
    (failed : resolveRoots d.typeNames [] d.roots = .error e) : d.Failure e := by
  have roots := resolveRoots_outcome d.typeNames [] d.roots
  rw [failed] at roots
  rcases roots with ⟨root, member, blamed⟩ | ⟨name, rfl, count⟩
  · refine .reference (List.mem_append_right _ (List.mem_append_left _ ?_)) blamed
    exact List.mem_map_of_mem member
  · exact .repeatedRoot (by simpa using count)

theorem build_failure {e : SchemaError} (failed : d.build = .error e) : d.Failure e := by
  simp only [build, bind_eq_error_iff] at failed
  rcases failed with failed | ⟨_, checked, failed | ⟨types, typed, failed⟩⟩
  · exact checkNames_failure failed
  · have written := d.resolveTypes_depends
    rw [failed] at written
    obtain ⟨w, member, blamed⟩ := written
    exact .reference (List.mem_append_left _ member) blamed
  have names := checkNames_eq_ok_iff.mp checked
  rcases failed with failed | ⟨_, _, failed | ⟨roots, _, failed | ⟨operations, _, failed⟩⟩⟩
  · exact .bases names typed failed
  · exact resolveRoots_failure failed
  · have written := d.resolveOperations_depends
    rw [failed] at written
    obtain ⟨w, member, blamed⟩ := written
    exact .reference (List.mem_append_right _ (List.mem_append_right _ member)) blamed
  · cases failed

theorem build_error_holds {e : SchemaError} (failed : d.build = .error e) : e.Holds d := by
  cases build_failure failed with
  | repeatedType count => exact count
  | repeatedRoot count => exact count
  | reference member blamed => exact blamed.holds member
  | bases names typed failed => exact checkBases_error_holds names typed failed

end Definitions

/-- What an error says is a breach of consistency. -/
theorem SchemaError.Holds.not_consistent {d : Definitions} {e : SchemaError} (holds : e.Holds d) :
    ¬ d.Consistent := by
  intro consistent
  cases e with
  | duplicateType name =>
    have once := List.nodup_iff_count.mp consistent.types_once name
    have : 2 ≤ d.typeNames.count name := holds
    omega
  | duplicateRoot name =>
    have once := List.nodup_iff_count.mp consistent.roots_once name
    have : 2 ≤ (d.roots.map (·.name)).count name := holds
    omega
  | invalidTypeReference reference =>
    obtain ⟨w, member, rfl, failed⟩ := holds
    exact (Written.Blamed.malformed failed).not_means (consistent.references_mean w member)
  | unknownType reference site =>
    obtain ⟨w, member, rfl, rfl, r, parsed, missing⟩ := holds
    exact (Written.Blamed.unknown parsed missing).not_means (consistent.references_mean w member)
  | inheritanceCycle name =>
    obtain ⟨cyclic, _, cycle⟩ := holds
    exact consistent.bases_end cyclic cycle

end EntityService.Schema
