import EntityService.Proofs.Schema.Namespaces
import EntityService.Proofs.Schema.Roots

/-! What a graph holds. Every type, root and operation of it says what its definition says, with
each reference replaced by the type that has the qualified name; nothing is left out, and nothing
is added but the primitive types. -/
namespace EntityService.Schema

open Outcome

namespace Members

theorem map_fst_putEntry (name : String) (type : TypeRef) (entries : List (String × TypeRef)) :
    (putEntry name type entries).map (·.1) =
      if name ∈ entries.map (·.1) then entries.map (·.1) else entries.map (·.1) ++ [name] := by
  induction entries with
  | nil => rfl
  | cons entry entries ih =>
    by_cases same : entry.1 = name
    · simp [putEntry, same]
    · rw [putEntry, if_neg same, List.map_cons, ih, List.map_cons]
      by_cases later : name ∈ entries.map (·.1)
      · rw [if_pos later, if_pos (List.mem_cons_of_mem _ later)]
      · have missing : name ∉ entry.1 :: entries.map (·.1) :=
          List.not_mem_cons_of_ne_of_not_mem (Ne.symm same) later
        rw [if_neg later, if_neg missing, List.cons_append]

theorem ofDeclared_snoc (declared : List (String × TypeRef)) (entry : String × TypeRef) :
    ofDeclared (declared ++ [entry]) = (ofDeclared declared).put entry.1 entry.2 := by
  rw [ofDeclared, List.foldl_append]
  rfl

/-- Names stand once, where they are first declared. -/
theorem map_fst_ofDeclared (declared : List (String × TypeRef)) :
    (ofDeclared declared).entries.map (·.1) = (declared.map (·.1)).eraseDups := by
  induction declared using List.reverseRecOn with
  | nil => rfl
  | append_singleton declared entry ih =>
    rw [ofDeclared_snoc, put, map_fst_putEntry, ih, List.map_append, List.map_singleton,
      List.eraseDups_append, List.removeAll]
    by_cases again : entry.1 ∈ declared.map (·.1)
    · rw [if_pos (List.mem_eraseDups.mpr again)]
      simp [again]
    · rw [if_neg (fun member => again (List.mem_eraseDups.mp member))]
      simp [again, List.eraseDups_cons]

/-- The last declaration of a name decides. -/
theorem find?_ofDeclared (declared : List (String × TypeRef)) (name : String) :
    (ofDeclared declared).find? name = declared.reverse.lookup name := by
  induction declared using List.reverseRecOn with
  | nil => rfl
  | append_singleton declared entry ih =>
    rw [ofDeclared_snoc, find?_put, ih, List.reverse_append, List.reverse_singleton,
      List.singleton_append, List.lookup_cons]
    by_cases same : name = entry.1
    · simp [same]
    · rw [if_neg same, beq_false_of_ne same]

theorem nodup_ofDeclared (declared : List (String × TypeRef)) :
    ((ofDeclared declared).entries.map (·.1)).Nodup := by
  induction declared using List.reverseRecOn with
  | nil => exact .nil
  | append_singleton declared entry ih =>
    rw [ofDeclared_snoc, put, map_fst_putEntry]
    split
    · exact ih
    · rename_i missing
      exact List.nodup_append.mpr ⟨ih, List.nodup_singleton _, fun a member b last same =>
        missing (List.mem_singleton.mp last ▸ same ▸ member)⟩

/-- Where names stand once, a member is found by its name. -/
theorem find?_of_mem {m : Members} (once : (m.entries.map (·.1)).Nodup) {entry : String × TypeRef}
    (member : entry ∈ m.entries) : m.find? entry.1 = some entry.2 := by
  obtain ⟨before, after, split⟩ := List.mem_iff_append.mp member
  rw [split, List.map_append, List.map_cons] at once
  refine List.lookup_eq_some_iff.mpr ⟨before, after, split, fun other early => ?_⟩
  have apart := (List.nodup_append.mp once).2.2 other.1 (List.mem_map_of_mem early) entry.1
    List.mem_cons_self
  rw [bne_iff_ne]
  exact apart.symm

end Members

theorem rel_lookup {α β : Type} {R : α → β → Prop} {as : List (String × α)}
    {bs : List (String × β)} (each : List.Forall₂ (fun a b => a.1 = b.1 ∧ R a.2 b.2) as bs)
    (name : String) : Option.Rel R (as.lookup name) (bs.lookup name) := by
  induction each with
  | nil => exact .none
  | @cons a b as bs head _ ih =>
    obtain ⟨same, related⟩ := head
    rw [List.lookup_cons, List.lookup_cons, same]
    cases name == b.1 with
    | true => exact .some related
    | false => exact ih

namespace Graph

/-- What a reference means that is written in a namespace: the type of its qualified name, in a
collection or not. -/
def Denotes (g : Graph) (space reference : String) (type : TypeRef) : Prop :=
  ∃ r, Reference.parse? reference = some r ∧
    g.typeNames[type.index]? = some (r.qualifiedIn space) ∧ type.collection = r.collection

/-- Members in the order of their first declarations, each with the type that its last declaration
gives to it. -/
structure HoldsMembers (g : Graph) (space : String) (declared : List (String × String))
    (m : Members) : Prop where
  names : m.entries.map (·.1) = (declared.map (·.1)).eraseDups
  once : (m.entries.map (·.1)).Nodup
  entries : ∀ entry ∈ m.entries, m.find? entry.1 = some entry.2
  types : ∀ name, Option.Rel (g.Denotes space) (declared.reverse.lookup name) (m.find? name)

/-- Whether the reference to a base is a collection does not matter. -/
structure HoldsType (g : Graph) (d : TypeDefinition) (t : SchemaType) : Prop where
  space : t.space = d.space
  name : t.name = d.name
  kind : t.kind = d.kind
  base : Option.Rel (fun reference index => ∃ collection, g.Denotes d.space reference
    ⟨index, collection⟩) d.base t.base
  properties : g.HoldsMembers d.space d.properties t.properties
  navigation : g.HoldsMembers d.space d.navigation t.navigation

structure HoldsRoot (g : Graph) (d : RootDefinition) (r : Root) : Prop where
  name : r.name = d.name
  kind : r.kind = d.kind
  type : ∃ collection, g.Denotes d.space d.reference ⟨r.type, collection⟩

structure HoldsOperation (g : Graph) (d : OperationDefinition) (o : Operation) : Prop where
  space : o.space = d.space
  name : o.name = d.name
  kind : o.kind = d.kind
  binding : g.Denotes d.space d.binding o.binding
  parameters : g.HoldsMembers d.space d.parameters o.parameters
  returns : Option.Rel (g.Denotes d.space) d.returns o.returns

/-- A graph with the content of definitions. Each type is found by its qualified name and by no
other one, and each root by its name. -/
structure Holds (g : Graph) (d : Definitions) : Prop where
  types : ∃ defined, g.types = primitiveTypes ++ defined ∧
    List.Forall₂ g.HoldsType d.types defined
  place : ∀ index t, g.types[index]? = some t → g.typeByName? t.qualifiedName = some index
  found : ∀ name index, g.typeByName? name = some index →
    ∃ t, g.types[index]? = some t ∧ t.qualifiedName = name
  operations : List.Forall₂ g.HoldsOperation d.operations g.operations
  roots : ∀ name, (∃ r, g.root? name = some r) ↔ ∃ definition ∈ d.roots, definition.name = name
  root : ∀ definition ∈ d.roots, ∀ r, g.root? definition.name = some r → g.HoldsRoot definition r

end Graph

namespace Built

variable {d : Definitions} {g : Graph} {space reference : String} {site : Site} {type : TypeRef}

theorem denotes (built : Built d g)
    (resolved : resolve d.typeNames space site reference = .ok type) :
    g.Denotes space reference type := by
  obtain ⟨r, parsed, place, collection⟩ := resolve_eq_ok_iff.mp resolved
  have here := (idxOf?_eq_some_iff_of_nodup built.names).mp place
  rw [← built.typeNames] at here
  exact ⟨r, parsed, here, collection⟩

theorem rel_denotes (built : Built d g) {given : Option String} {types : Option TypeRef}
    (resolved : given.mapM (resolve d.typeNames space site) = .ok types) :
    Option.Rel (g.Denotes space) given types := by
  cases given with
  | none =>
    cases resolved
    exact .none
  | some reference =>
    obtain ⟨type, found, rfl⟩ := map_eq_ok_iff.mp
      (show (resolve d.typeNames space site reference).map some = .ok types from resolved)
    exact .some (built.denotes found)

theorem holdsMembers (built : Built d g) {site : String → Site} {declared : List (String × String)}
    {m : Members} (resolved : resolveMembers d.typeNames space site declared = .ok m) :
    g.HoldsMembers space declared m := by
  simp only [resolveMembers, bind_eq_ok_iff, pure_eq_ok_iff, mapM_eq_ok_iff] at resolved
  obtain ⟨values, each, rfl⟩ := resolved
  have denoted : List.Forall₂ (fun a b => a.1 = b.1 ∧ g.Denotes space a.2 b.2) declared values := by
    refine each.imp fun entry value known => ?_
    obtain ⟨type, found, made⟩ := known
    subst made
    exact ⟨rfl, built.denotes found⟩
  have names : declared.map (·.1) = values.map (·.1) :=
    map_eq_of_forall₂ denoted fun _ _ => And.left
  have once := Members.nodup_ofDeclared values
  refine ⟨by rw [Members.map_fst_ofDeclared, names], once,
    fun entry member => Members.find?_of_mem once member, fun name => ?_⟩
  rw [Members.find?_ofDeclared]
  exact rel_lookup (List.forall₂_reverse_iff.mpr denoted) name

theorem holdsType (built : Built d g) {definition : TypeDefinition} {t : SchemaType}
    (resolved : definition.resolve d.typeNames = .ok t) : g.HoldsType definition t := by
  obtain ⟨base, properties, navigation, based, proper, navigable, rfl⟩ :=
    TypeDefinition.resolve_eq_ok_iff.mp resolved
  refine ⟨rfl, rfl, rfl, ?_, built.holdsMembers proper, built.holdsMembers navigable⟩
  have denoted := built.rel_denotes based
  generalize definition.base = given at denoted ⊢
  cases denoted with
  | none => exact .none
  | some denotes => exact .some ⟨_, denotes⟩

theorem holdsOperation (built : Built d g) {definition : OperationDefinition} {o : Operation}
    (resolved : definition.resolve d.typeNames = .ok o) : g.HoldsOperation definition o := by
  simp only [OperationDefinition.resolve, bind_eq_ok_iff, pure_eq_ok_iff] at resolved
  obtain ⟨binding, bound, parameters, passed, returns, returned, rfl⟩ := resolved
  exact ⟨rfl, rfl, rfl, built.denotes bound, built.holdsMembers passed, built.rel_denotes returned⟩

theorem holdsRoots (built : Built d g) : List.Forall₂ g.HoldsRoot d.roots g.roots := by
  refine (mapM_eq_ok_iff.mp (mapM_of_resolveRoots built.roots)).imp fun definition r resolved => ?_
  obtain ⟨type, found, rfl⟩ := map_eq_ok_iff.mp resolved
  exact ⟨rfl, rfl, _, built.denotes found⟩

theorem holds (built : Built d g) : g.Holds d := by
  obtain ⟨defined, table, each⟩ := Definitions.resolveTypes_eq_ok_iff.mp built.types
  have names := built.typeNames_nodup
  have roots := built.holdsRoots
  refine ⟨⟨defined, table, each.imp fun _ _ => built.holdsType⟩, ?_, ?_,
    (mapM_eq_ok_iff.mp built.operations).imp fun _ _ => built.holdsOperation, ?_, ?_⟩
  · intro index t here
    rw [Graph.typeByName?_eq_some_iff names, Graph.typeNames, List.getElem?_map, here,
      Option.map_some]
  · intro name index found
    rw [Graph.typeByName?_eq_some_iff names, Graph.typeNames, List.getElem?_map,
      Option.map_eq_some_iff] at found
    exact found
  · intro name
    constructor
    · rintro ⟨r, found⟩
      obtain ⟨member, named⟩ := (Graph.root?_eq_some_iff built.roots_once).mp found
      obtain ⟨definition, defined, holds⟩ := exists_part_of_mem roots member
      exact ⟨definition, defined, holds.name.symm.trans named⟩
    · rintro ⟨definition, defined, rfl⟩
      obtain ⟨r, member, holds⟩ := exists_value_of_mem roots defined
      exact ⟨r, (Graph.root?_eq_some_iff built.roots_once).mpr ⟨member, holds.name⟩⟩
  · intro definition defined r found
    obtain ⟨other, member, holds⟩ := exists_value_of_mem roots defined
    have same := (Graph.root?_eq_some_iff built.roots_once).mpr ⟨member, holds.name⟩
    cases Option.some.inj (found.symm.trans same)
    exact holds

end Built

/-- Declarations that make a graph make one with their content, each in the namespace in effect
where it stands. -/
theorem build_holds {declarations : List Declaration} {g : Graph}
    (built : (Definitions.ofDeclarations declarations).build = .ok g) :
    g.Holds {
      types := collect Declaration.type? "default" declarations
      roots := collect Declaration.root? "default" declarations
      operations := collect Declaration.operation? "default" declarations } := by
  rw [← Definitions.ofDeclarationsIn_eq]
  exact (Definitions.build_eq_ok_iff.mp built).holds

/-- The fleet says that a truck is a vehicle with a load, a plate and a driver. -/
theorem build_holds_fleet : (Definitions.ofDeclarations fleet).build = .ok fleetGraph ∧
    fleetGraph.Holds {
      types := collect Declaration.type? "default" fleet
      roots := collect Declaration.root? "default" fleet
      operations := collect Declaration.operation? "default" fleet } ∧
    fleetGraph.types[17]? = some {
      space := "fleet", name := "truck", kind := .entity, base := some 19
      properties := ⟨[("load", ⟨11, false⟩), ("plate", ⟨15, false⟩)]⟩
      navigation := ⟨[("driver", ⟨20, false⟩)]⟩ } ∧
    fleetGraph.root? "dispatcher" = some ⟨"dispatcher", .singleton, 20⟩ ∧
    fleetGraph.operations = [{
      space := "staff", name := "route", kind := .function, binding := ⟨19, false⟩
      parameters := ⟨[("to", ⟨15, false⟩)]⟩, returns := some ⟨15, true⟩ }] :=
  ⟨fleet_built, build_holds fleet_built, by decide, by decide, by decide⟩

end EntityService.Schema
