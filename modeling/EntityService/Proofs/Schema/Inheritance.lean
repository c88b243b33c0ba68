import EntityService.Proofs.Schema.Subtyping

/-! What types have from their bases. The chain of a type ends in the chain of each of its bases, so
whatever is looked up along the chain and found at a base is found at the type, though not always in
the same place. -/
namespace EntityService.Schema

open Relation

namespace Graph

/-- No type on the way to a base, the base left out, has a member of its own with the name. -/
def Undeclared (g : Graph) (index base : Nat) (name : String) : Prop :=
  ∀ other ∈ (g.baseChain index).takeWhile (· != base),
    g.ownNavigation? name other = none ∧ g.ownProperty? name other = none

/-- What the look-up finds at the base, it finds at the type, and the same if the name is not
declared on the way. -/
structure Inherited (g : Graph) (look : Nat → String → Option TypeRef) (index base : Nat) :
    Prop where
  found : ∀ name, (look base name).isSome = true → (look index name).isSome = true
  same : ∀ name, g.Undeclared index base name → look index name = look base name

/-- A type offers what a base of it offers. -/
structure Inherits (g : Graph) (index base : Nat) : Prop where
  navigation : g.Inherited g.navigation? index base
  property : g.Inherited g.property? index base
  member : g.Inherited g.member? index base
  operations : ∀ identifier collection,
    (g.boundOperations identifier ⟨base, collection⟩).Sublist
      (g.boundOperations identifier ⟨index, collection⟩)

variable {d : Definitions} {g : Graph} {steps index base : Nat}

/-- A climb that has ended gets no further with another step. -/
theorem climb_succ (ends : g.endsWithin steps index = true) :
    g.climb (steps + 1) index = g.climb steps index := by
  induction steps generalizing index with
  | zero =>
    have root : g.base? index = none := Option.isNone_iff_eq_none.mp ends
    simp only [climb, root]
  | succ steps ih =>
    cases link : g.base? index with
    | none => rw [climb, climb, link]
    | some base =>
      rw [endsWithin, link] at ends
      rw [climb, link, climb, link]
      exact congrArg (index :: ·) (ih ends)

section Acyclic

variable (acyclic : ∀ index, ¬ TransGen g.Link index index)
include acyclic

theorem baseChain_of_link (link : g.Link index base) :
    g.baseChain index = index :: g.baseChain base := by
  have linked : g.base? index = some base := link
  obtain ⟨steps, size⟩ := Nat.exists_eq_add_one_of_ne_zero (Nat.ne_zero_of_lt link.bounded)
  have ends : g.endsWithin (steps + 1) index = true :=
    size ▸ ends_of_acyclic fun other _ => acyclic other
  rw [endsWithin, linked] at ends
  rw [baseChain, baseChain, size, climb_succ ends, climb, linked]

/-- The base is met once, so the chain falls apart there. -/
theorem baseChain_eq_append (derived : ReflTransGen g.Link index base) :
    g.baseChain index = (g.baseChain index).takeWhile (· != base) ++ g.baseChain base := by
  induction derived using ReflTransGen.head_induction_on with
  | refl =>
    obtain ⟨bases, first⟩ := exists_climb g g.types.length base
    rw [baseChain, first, List.takeWhile_cons_of_neg (by simp), List.nil_append]
  | @head index next link onward ih =>
    have apart : index ≠ base := by
      rintro rfl
      exact acyclic index (.head' link onward)
    rw [baseChain_of_link acyclic link, List.takeWhile_cons, if_pos (bne_iff_ne.mpr apart),
      List.cons_append, ← ih]

/-- A look-up that takes the closest type of the chain with a member of its own. -/
theorem inherited_of_own (derived : ReflTransGen g.Link index base)
    {own : String → Nat → Option TypeRef} (declares : ∀ name other,
      g.ownNavigation? name other = none ∧ g.ownProperty? name other = none →
        own name other = none) :
    g.Inherited (fun index name => (g.baseChain index).findSome? (own name)) index base where
  found name some := by
    rw [baseChain_eq_append acyclic derived, List.findSome?_append, Option.isSome_or, some,
      Bool.or_true]
  same name undeclared := by
    have passed : ((g.baseChain index).takeWhile (· != base)).findSome? (own name) = none :=
      List.findSome?_eq_none_iff.mpr fun other member => declares name other (undeclared other member)
    rw [baseChain_eq_append acyclic derived, List.findSome?_append, passed, Option.none_or]

theorem boundOperations_sublist (derived : ReflTransGen g.Link index base) (identifier : String)
    (collection : Bool) : (g.boundOperations identifier ⟨base, collection⟩).Sublist
      (g.boundOperations identifier ⟨index, collection⟩) := by
  apply List.monotone_filter_right
  intro entry offered
  simp only [offers, Bool.and_eq_true, sameOrDerived_iff acyclic] at offered ⊢
  obtain ⟨named, onward⟩ := offered
  exact ⟨named, derived.trans onward⟩

end Acyclic

theorem Inherited.or {first second : Nat → String → Option TypeRef}
    (one : g.Inherited first index base) (other : g.Inherited second index base) :
    g.Inherited (fun index name => (first index name).or (second index name)) index base where
  found name some := by
    rw [Option.isSome_or, Bool.or_eq_true] at some ⊢
    exact some.imp (one.found name) (other.found name)
  same name undeclared := by rw [one.same name undeclared, other.same name undeclared]

/-- A type offers all that its bases offer. A member may have been declared anew on the way. -/
theorem inherits_of_build (built : d.build = .ok g)
    (derived : g.sameOrDerived index base = true) : g.Inherits index base := by
  have acyclic := (Definitions.build_eq_ok_iff.mp built).acyclic
  have path := (sameOrDerived_iff acyclic).mp derived
  have navigation : g.Inherited g.navigation? index base :=
    inherited_of_own acyclic path fun _ _ => And.left
  have property : g.Inherited g.property? index base :=
    inherited_of_own acyclic path fun _ _ => And.right
  exact ⟨navigation, property, navigation.or property, boundOperations_sublist acyclic path⟩

/-- An archive in which the author of a letter is a person and that of other entries a text. -/
def archive : Definitions := .ofDeclarations [
  .inNamespace "archive",
  .entityType "entry" [.property "title" "Edm.String", .property "author" "Edm.String"],
  .entityType "document" [.base "entry"],
  .entityType "letter" [.base "document", .navigation "author" "person"],
  .entityType "person" [],
  .action "file" "entry" [],
  .action "file" "letter" []]

def archiveGraph : Graph := archive.build.toOption.getD { types := [] }

/-- A letter has the title of an entry and an author of its own. It can be filed as an entry and as
a letter. -/
theorem inherits_of_build_letter : archive.build = .ok archiveGraph ∧
    archiveGraph.sameOrDerived 19 17 = true ∧ archiveGraph.Inherits 19 17 ∧
    archiveGraph.Undeclared 19 17 "title" ∧
    archiveGraph.member? 19 "title" = archiveGraph.member? 17 "title" ∧
    archiveGraph.member? 17 "author" = some ⟨15, false⟩ ∧
    archiveGraph.member? 19 "author" = some ⟨20, false⟩ ∧
    (archiveGraph.boundOperations "file" ⟨17, false⟩).map (·.2) = [0] ∧
    (archiveGraph.boundOperations "file" ⟨19, false⟩).map (·.2) = [0, 1] := by
  have built : archive.build = .ok archiveGraph := by decide
  have derived : archiveGraph.sameOrDerived 19 17 = true := by decide
  have inherits := inherits_of_build built derived
  have undeclared : archiveGraph.Undeclared 19 17 "title" := by
    unfold Undeclared
    decide
  exact ⟨built, derived, inherits, undeclared, inherits.member.same "title" undeclared, by decide,
    by decide, by decide, by decide⟩

end Graph
end EntityService.Schema
