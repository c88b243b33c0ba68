import EntityService.Schema.Build
import Mathlib.Data.List.Basic

/-! The references that stand in definitions, and what becomes of them. A step of the construction
depends on some of them: it succeeds when all of these mean a type, and otherwise it ends in the
error of one of them. -/
namespace EntityService.Schema

/-- A reference with its place and the namespace in effect there. -/
structure Written where
  site : Site
  space : String
  reference : String

namespace Written

/-- The reference is well formed and its qualified name is one of the given ones. -/
def Means (w : Written) (names : List String) : Prop :=
  ∃ r, Reference.parse? w.reference = some r ∧ r.qualifiedIn w.space ∈ names

/-- The error of a reference that means nothing. It repeats the reference as it is written. -/
inductive Blamed (w : Written) (names : List String) : SchemaError → Prop where
  | malformed : Reference.parse? w.reference = none →
      Blamed w names (.invalidTypeReference w.reference)
  | unknown : Reference.parse? w.reference = some r → r.qualifiedIn w.space ∉ names →
      Blamed w names (.unknownType w.reference w.site)

theorem Blamed.not_means {w : Written} (blamed : w.Blamed names e) : ¬ w.Means names := by
  rintro ⟨r, parsed, member⟩
  cases blamed with
  | malformed failed => simp [failed] at parsed
  | unknown found missing =>
    cases Option.some.inj (found.symm.trans parsed)
    exact missing member

end Written

def TypeDefinition.written (d : TypeDefinition) : List Written :=
  d.base.toList.map (⟨.base d.qualifiedName, d.space, ·⟩) ++
    (d.properties.map (fun p => ⟨.property p.1 d.qualifiedName, d.space, p.2⟩) ++
      d.navigation.map (fun p => ⟨.navigation p.1 d.qualifiedName, d.space, p.2⟩))

def RootDefinition.written (d : RootDefinition) : Written := ⟨.root d.name, d.space, d.reference⟩

def OperationDefinition.written (d : OperationDefinition) : List Written :=
  let owner := d.kind.text ++ " " ++ d.qualifiedName
  ⟨.binding owner, d.space, d.binding⟩ ::
    (d.parameters.map (fun p => ⟨.parameter p.1 owner, d.space, p.2⟩) ++
      d.returns.toList.map (⟨.returns owner, d.space, ·⟩))

/-- All references of the definitions. A base or a return type that a later one replaces is none
of them. -/
def Definitions.written (d : Definitions) : List Written :=
  d.types.flatMap (·.written) ++
    (d.roots.map (·.written) ++ d.operations.flatMap (·.written))

variable {names : List String} {α β : Type}

/-- A reference is resolved to the place of the type that it means. -/
theorem resolve_eq_ok_iff {space : String} {site : Site} {reference : String} {t : TypeRef} :
    resolve names space site reference = .ok t ↔
      ∃ r, Reference.parse? reference = some r ∧
        names.idxOf? (r.qualifiedIn space) = some t.index ∧ t.collection = r.collection := by
  obtain ⟨index, collection⟩ := t
  cases parsed : Reference.parse? reference with
  | none => simp [resolve, parsed]
  | some r =>
    cases found : names.idxOf? (r.qualifiedIn space) with
    | none => simp [resolve, parsed, found]
    | some place => simp [resolve, parsed, found, eq_comm]

/-- The outcome of a computation is decided by references. -/
def Depends (names : List String) (x : Except SchemaError α) (written : List Written) : Prop :=
  match x with
  | .ok _ => ∀ w ∈ written, w.Means names
  | .error e => ∃ w ∈ written, w.Blamed names e

namespace Depends

theorem resolve (w : Written) :
    Depends names (Schema.resolve names w.space w.site w.reference) [w] := by
  cases parsed : Reference.parse? w.reference with
  | none =>
    simp only [Depends, Schema.resolve, parsed]
    exact ⟨w, List.mem_singleton.mpr rfl, .malformed parsed⟩
  | some r =>
    cases found : names.idxOf? (r.qualifiedIn w.space) with
    | none =>
      have missing : r.qualifiedIn w.space ∉ names := List.idxOf?_eq_none_iff.mp found
      simp only [Depends, Schema.resolve, parsed, found]
      exact ⟨w, List.mem_singleton.mpr rfl, .unknown parsed missing⟩
    | some index =>
      have member : r.qualifiedIn w.space ∈ names := by
        rw [← List.isSome_idxOf?, found]
        rfl
      simp only [Depends, Schema.resolve, parsed, found, List.mem_singleton, forall_eq]
      exact ⟨r, parsed, member⟩

theorem pure (a : α) : Depends names (.ok a) [] := by
  simp [Depends]

theorem bind {x : Except SchemaError α} {f : α → Except SchemaError β} {first rest : List Written}
    (head : Depends names x first) (tail : ∀ a, Depends names (f a) rest) :
    Depends names (x >>= f) (first ++ rest) := by
  cases x with
  | error e =>
    obtain ⟨w, member, blamed⟩ := head
    exact ⟨w, List.mem_append_left rest member, blamed⟩
  | ok a =>
    change Depends names (f a) (first ++ rest)
    have tail := tail a
    cases next : f a with
    | error e =>
      rw [next] at tail
      obtain ⟨w, member, blamed⟩ := tail
      exact ⟨w, List.mem_append_right first member, blamed⟩
    | ok b =>
      rw [next] at tail
      intro w member
      rcases List.mem_append.mp member with early | late
      · exact head w early
      · exact tail w late

/-- A last step that cannot fail adds no reference. -/
theorem map {x : Except SchemaError α} {f : α → β} {written : List Written}
    (head : Depends names x written) :
    Depends names (x >>= fun a => Pure.pure (f a)) written := by
  have next := head.bind (f := fun a => Pure.pure (f a)) fun a => pure (f a)
  rwa [List.append_nil] at next

theorem mapM {f : α → Except SchemaError β} {written : α → List Written} (as : List α)
    (each : ∀ a, Depends names (f a) (written a)) :
    Depends names (as.mapM f) (as.flatMap written) := by
  induction as with
  | nil => exact pure []
  | cons a as ih =>
    rw [List.mapM_cons, List.flatMap_cons]
    exact (each a).bind fun b => ih.map

theorem optionMapM {f : α → Except SchemaError β} {written : α → Written} (a : Option α)
    (each : ∀ a, Depends names (f a) [written a]) :
    Depends names (a.mapM f) (a.toList.map written) := by
  cases a with
  | none => exact pure none
  | some a =>
    change Depends names (some <$> f a) [written a]
    have step := each a
    cases next : f a <;> rw [next] at step <;> exact step

end Depends

theorem resolveMembers_depends (space : String) (site : String → Site)
    (declared : List (String × String)) :
    Depends names (resolveMembers names space site declared)
      (declared.map fun p => ⟨site p.1, space, p.2⟩) := by
  unfold resolveMembers
  apply Depends.map
  rw [List.map_eq_flatMap]
  exact Depends.mapM declared fun p => (Depends.resolve ⟨site p.1, space, p.2⟩).map

theorem TypeDefinition.resolve_depends (d : TypeDefinition) :
    Depends names (d.resolve names) d.written := by
  unfold TypeDefinition.resolve TypeDefinition.written
  apply Depends.bind
  · exact Depends.optionMapM d.base fun reference =>
      Depends.resolve ⟨.base d.qualifiedName, d.space, reference⟩
  · intro base
    apply Depends.bind (resolveMembers_depends d.space _ d.properties)
    intro properties
    exact (resolveMembers_depends d.space _ d.navigation).map

theorem OperationDefinition.resolve_depends (d : OperationDefinition) :
    Depends names (d.resolve names) d.written := by
  unfold OperationDefinition.resolve OperationDefinition.written
  refine Depends.bind (Depends.resolve ⟨.binding _, d.space, d.binding⟩) ?_
  · intro binding
    apply Depends.bind (resolveMembers_depends d.space _ d.parameters)
    intro parameters
    apply Depends.map
    exact Depends.optionMapM d.returns fun reference =>
      Depends.resolve ⟨.returns _, d.space, reference⟩

end EntityService.Schema
