import EntityService.Schema.Declaration
import Mathlib.Data.List.Basic

/-! Declarations and the namespaces in which they stand. Every declaration makes its definition in
the namespace that was set last before it, and the definitions keep the order of the
declarations. -/
namespace EntityService.Schema

namespace Declaration

/-- The namespace that a declaration sets for those behind it. -/
def space? : Declaration → Option String
  | .inNamespace space => some space
  | _ => none

/-- The type that a declaration defines when it stands in a namespace. -/
def type? (space : String) : Declaration → Option TypeDefinition
  | .entityType name clauses => some ⟨space, name, .entity, clauses⟩
  | .complexType name clauses => some ⟨space, name, .complex, clauses⟩
  | .enumType name => some ⟨space, name, .enum, []⟩
  | _ => none

def root? (space : String) : Declaration → Option RootDefinition
  | .entitySet name reference => some ⟨space, name, .entitySet, reference⟩
  | .singleton name reference => some ⟨space, name, .singleton, reference⟩
  | _ => none

def operation? (space : String) : Declaration → Option OperationDefinition
  | .action name binding clauses => some ⟨space, name, .action, binding, clauses⟩
  | .function name binding clauses => some ⟨space, name, .function, binding, clauses⟩
  | _ => none

end Declaration

/-- The namespace in effect at a place: the last one that is set before it, or else the one in
which the sequence begins. -/
def spaceAt (start : String) (declarations : List Declaration) (index : Nat) : String :=
  ((declarations.take index).filterMap (·.space?)).getLast?.getD start

variable {α : Type} (make : String → Declaration → Option α)

/-- What the declarations make, each in the namespace in effect at its place. -/
def collect (start : String) (declarations : List Declaration) : List α :=
  declarations.zipIdx.filterMap fun entry => make (spaceAt start declarations entry.2) entry.1

theorem spaceAt_succ (start : String) (d : Declaration) (declarations : List Declaration)
    (index : Nat) : spaceAt start (d :: declarations) (index + 1) =
      spaceAt (d.space?.getD start) declarations index := by
  rw [spaceAt, spaceAt, List.take_succ_cons, List.filterMap_cons]
  cases d.space? with
  | none => rfl
  | some space =>
    dsimp only
    rw [List.getLast?_cons, Option.getD_some, Option.getD_some]

theorem collect_cons (start : String) (d : Declaration) (declarations : List Declaration) :
    collect make start (d :: declarations) =
      (make start d).toList ++ collect make (d.space?.getD start) declarations := by
  have rest : (declarations.zipIdx 1).filterMap
      (fun entry => make (spaceAt start (d :: declarations) entry.2) entry.1) =
      collect make (d.space?.getD start) declarations := by
    rw [List.zipIdx_succ, List.filterMap_map]
    simp only [Function.comp_def, spaceAt_succ]
    rfl
  rw [collect, List.zipIdx_cons, List.filterMap_cons, rest]
  have first : spaceAt start (d :: declarations) 0 = start := rfl
  rw [first]
  cases make start d <;> rfl

/-- Declarations are read one after the other, and this is what comes of it. -/
theorem Definitions.ofDeclarationsIn_eq (start : String) (declarations : List Declaration) :
    ofDeclarationsIn start declarations =
      { types := collect Declaration.type? start declarations
        roots := collect Declaration.root? start declarations
        operations := collect Declaration.operation? start declarations } := by
  induction declarations generalizing start with
  | nil => rfl
  | cons d declarations ih =>
    simp only [collect_cons]
    cases d <;>
    · rw [ofDeclarationsIn, ih]
      rfl

end EntityService.Schema
