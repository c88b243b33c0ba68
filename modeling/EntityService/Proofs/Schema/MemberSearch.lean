import EntityService.Proofs.Schema.Subtyping

/-! The search for a member of a type. It goes up the base links first, so that nothing a derived
type declares can hide a member of the type or of its bases. The derived types are asked only after
that, in the order of the table, which is that of their definitions, and each of them sees what lies
on its own way up. -/
namespace EntityService.Schema

open Relation

namespace Graph

/-- The type itself has a member with the name. -/
def Declares (g : Graph) (name : String) (index : Nat) : Prop :=
  (g.ownNavigation? name index).isSome = true ∨ (g.ownProperty? name index).isSome = true

/-- On the way up from a type, the closest one that has something of its own has this. -/
def Nearest (g : Graph) (own : Nat → Option TypeRef) (index : Nat) (type : TypeRef) : Prop :=
  ∃ owner, ReflTransGen g.Link index owner ∧ own owner = some type ∧
    ∀ other, ReflTransGen g.Link index other → TransGen g.Link other owner → own other = none

/-- The member that a type sees under a name. A navigation property hides every structural one, even
that of a closer type. -/
inductive Sees (g : Graph) (name : String) (index : Nat) (type : TypeRef) : Prop where
  | navigation : g.Nearest (g.ownNavigation? name) index type → g.Sees name index type
  | property : (∀ other, ReflTransGen g.Link index other → g.ownNavigation? name other = none) →
      g.Nearest (g.ownProperty? name) index type → g.Sees name index type

/-- The first type of the table that derives from another one and sees a member, with that member. -/
structure FirstSeeing (g : Graph) (name : String) (index derived : Nat) (type : TypeRef) :
    Prop where
  derives : TransGen g.Link derived index
  sees : g.Sees name derived type
  first : ∀ earlier < derived, TransGen g.Link earlier index → ∀ other, ¬ g.Sees name earlier other

variable {d : Definitions} {g : Graph} {own : Nat → Option TypeRef} {name : String}
  {index derived other : Nat} {type : TypeRef}

/-- A type has one base at most. -/
theorem link_rightUnique (g : Graph) : Relator.RightUnique g.Link := by
  intro index base other link again
  exact Option.some.inj (link.symm.trans again)

section Acyclic

variable (acyclic : ∀ index, ¬ TransGen g.Link index index)
include acyclic

theorem findSome?_baseChain_eq_none_iff : (g.baseChain index).findSome? own = none ↔
    ∀ other, ReflTransGen g.Link index other → own other = none := by
  rw [List.findSome?_eq_none_iff]
  constructor
  · intro missing other path
    exact missing other ((mem_baseChain_iff acyclic).mpr path)
  · intro missing other member
    exact missing other ((mem_baseChain_iff acyclic).mp member)

/-- The chain is ordered by the base links, so what stands before a type in it lies below that
type. -/
theorem findSome?_baseChain_eq_some_iff :
    (g.baseChain index).findSome? own = some type ↔ g.Nearest own index type := by
  have ordered : (g.baseChain index).Pairwise (TransGen g.Link) := climb_ordered g _ index
  rw [List.findSome?_eq_some_iff]
  constructor
  · rintro ⟨before, owner, after, chain, found, missing⟩
    have reached : ∀ other, other ∈ g.baseChain index ↔ ReflTransGen g.Link index other :=
      fun other => mem_baseChain_iff acyclic
    rw [chain] at ordered reached
    refine ⟨owner, (reached owner).mp (by simp), found, ?_⟩
    intro other path below
    have member := (reached other).mpr path
    simp only [List.mem_append, List.mem_cons] at member
    rcases member with early | same | late
    · exact missing other early
    · subst same
      exact absurd below (acyclic other)
    · have above := (List.pairwise_append.mp ordered).2.1
      have back : TransGen g.Link owner other := List.rel_of_pairwise_cons above late
      exact absurd (below.trans back) (acyclic other)
  · rintro ⟨owner, path, found, missing⟩
    obtain ⟨before, after, chain⟩ :=
      List.mem_iff_append.mp ((mem_baseChain_iff acyclic).mpr path)
    refine ⟨before, owner, after, chain, found, ?_⟩
    intro other early
    have member : other ∈ g.baseChain index := by simp [chain, early]
    rw [chain] at ordered
    apply missing other ((mem_baseChain_iff acyclic).mp member)
    exact (List.pairwise_append.mp ordered).2.2 other early owner List.mem_cons_self

theorem member?_eq_some_iff : g.member? index name = some type ↔ g.Sees name index type := by
  rw [member?, navigation?, property?, Option.or_eq_some_iff,
    findSome?_baseChain_eq_none_iff acyclic, findSome?_baseChain_eq_some_iff acyclic,
    findSome?_baseChain_eq_some_iff acyclic]
  constructor
  · rintro (navigation | ⟨missing, property⟩)
    · exact .navigation navigation
    · exact .property missing property
  · intro sees
    cases sees with
    | navigation navigation => exact .inl navigation
    | property missing property => exact .inr ⟨missing, property⟩

theorem exists_sees_iff : (∃ type, g.Sees name index type) ↔
    ∃ owner, ReflTransGen g.Link index owner ∧ g.Declares name owner := by
  constructor
  · rintro ⟨type, sees⟩
    cases sees with
    | navigation nearest =>
      obtain ⟨owner, path, found, _⟩ := nearest
      exact ⟨owner, path, .inl (by simp [found])⟩
    | property _ nearest =>
      obtain ⟨owner, path, found, _⟩ := nearest
      exact ⟨owner, path, .inr (by simp [found])⟩
  · rintro ⟨owner, path, declares⟩
    have some : (g.member? index name).isSome = true := by
      rw [member?, Option.isSome_or, navigation?, property?, Bool.or_eq_true,
        List.findSome?_isSome_iff, List.findSome?_isSome_iff]
      have member := (mem_baseChain_iff acyclic).mpr path
      exact declares.imp (fun own => ⟨owner, member, own⟩) fun own => ⟨owner, member, own⟩
    obtain ⟨type, found⟩ := Option.isSome_iff_exists.mp some
    exact ⟨type, (member?_eq_some_iff acyclic).mp found⟩

theorem member?_eq_none_iff : g.member? index name = none ↔
    ∀ owner, ReflTransGen g.Link index owner → ¬ g.Declares name owner := by
  constructor
  · intro missing owner path declares
    obtain ⟨type, sees⟩ := (exists_sees_iff acyclic).mpr ⟨owner, path, declares⟩
    have found := (member?_eq_some_iff acyclic).mpr sees
    rw [missing] at found
    contradiction
  · intro undeclared
    rw [Option.eq_none_iff_forall_ne_some]
    intro type found
    have sees := (member?_eq_some_iff acyclic).mp found
    obtain ⟨owner, path, declares⟩ := (exists_sees_iff acyclic).mp ⟨type, sees⟩
    exact undeclared owner path declares

theorem mem_derivedTypes_iff_derives :
    derived ∈ g.derivedTypes index ↔ TransGen g.Link derived index := by
  rw [mem_derivedTypes_iff, sameOrDerived_iff acyclic]
  constructor
  · rintro ⟨_, apart, path⟩
    rcases reflTransGen_iff_eq_or_transGen.mp path with same | derives
    · exact absurd same.symm apart
    · exact derives
  · intro derives
    obtain ⟨base, link, _⟩ := TransGen.head'_iff.mp derives
    refine ⟨link.bounded, ?_, derives.to_reflTransGen⟩
    rintro rfl
    exact acyclic derived derives

/-- The derived types are in the order of the table, so the first of them that sees a member is the
first one in the table. -/
theorem findSome?_derivedTypes_eq_some_iff :
    (g.derivedTypes index).findSome? (g.member? · name) = some type ↔
      ∃ derived, g.FirstSeeing name index derived type := by
  have increasing := derivedTypes_increasing g index
  rw [List.findSome?_eq_some_iff]
  constructor
  · rintro ⟨before, derived, after, split, found, missing⟩
    have derives : TransGen g.Link derived index :=
      (mem_derivedTypes_iff_derives acyclic).mp (by simp [split])
    refine ⟨derived, derives, (member?_eq_some_iff acyclic).mp found, ?_⟩
    intro earlier less also other sees
    have member := (mem_derivedTypes_iff_derives acyclic).mpr also
    rw [split] at member increasing
    simp only [List.mem_append, List.mem_cons] at member
    rcases member with early | same | late
    · have unseen := missing earlier early
      rw [(member?_eq_some_iff acyclic).mpr sees] at unseen
      contradiction
    · omega
    · have more := List.rel_of_pairwise_cons (List.pairwise_append.mp increasing).2.1 late
      omega
  · rintro ⟨derived, derives, sees, first⟩
    obtain ⟨before, after, split⟩ :=
      List.mem_iff_append.mp ((mem_derivedTypes_iff_derives acyclic).mpr derives)
    refine ⟨before, derived, after, split, (member?_eq_some_iff acyclic).mpr sees, ?_⟩
    intro earlier early
    have also : TransGen g.Link earlier index :=
      (mem_derivedTypes_iff_derives acyclic).mp (by simp [split, early])
    rw [split] at increasing
    have less := (List.pairwise_append.mp increasing).2.2 earlier early derived List.mem_cons_self
    rw [Option.eq_none_iff_forall_ne_some]
    intro other found
    exact first earlier less also other ((member?_eq_some_iff acyclic).mp found)

theorem memberOrDerived?_of_declared
    (declared : ∃ owner, ReflTransGen g.Link index owner ∧ g.Declares name owner) :
    g.memberOrDerived? index name = g.member? index name := by
  obtain ⟨type, sees⟩ := (exists_sees_iff acyclic).mpr declared
  rw [memberOrDerived?, (member?_eq_some_iff acyclic).mpr sees, Option.some_or]

theorem memberOrDerived?_of_undeclared
    (undeclared : ∀ owner, ReflTransGen g.Link index owner → ¬ g.Declares name owner) :
    g.memberOrDerived? index name = some type ↔
      ∃ derived, g.FirstSeeing name index derived type := by
  rw [memberOrDerived?, (member?_eq_none_iff acyclic).mpr undeclared, Option.none_or,
    findSome?_derivedTypes_eq_some_iff acyclic]

/-- Base links do not branch, so what a derived type sees is declared above the type that it derives
from or on the way there, and on no other branch. -/
theorem memberOrDerived?_isSome_iff : (g.memberOrDerived? index name).isSome = true ↔
    ∃ owner, (ReflTransGen g.Link index owner ∨ ReflTransGen g.Link owner index) ∧
      g.Declares name owner := by
  rw [memberOrDerived?, Option.isSome_or, Bool.or_eq_true, List.findSome?_isSome_iff]
  simp only [Option.isSome_iff_exists, member?_eq_some_iff acyclic, exists_sees_iff acyclic,
    mem_derivedTypes_iff_derives acyclic]
  constructor
  · rintro (⟨owner, path, declares⟩ | ⟨derived, derives, owner, path, declares⟩)
    · exact ⟨owner, .inl path, declares⟩
    · have comparable := derives.to_reflTransGen.total_of_right_unique (link_rightUnique g) path
      exact ⟨owner, comparable, declares⟩
  · rintro ⟨owner, path | path, declares⟩
    · exact .inl ⟨owner, path, declares⟩
    · rcases reflTransGen_iff_eq_or_transGen.mp path with same | derives
      · subst same
        exact .inl ⟨_, .refl, declares⟩
      · exact .inr ⟨owner, derives, owner, .refl, declares⟩

end Acyclic

/-- A member is found exactly where the type, one of its bases or one of its derived types declares
it. What the type or a base declares comes first, and otherwise the first derived type decides that
sees a member. -/
theorem memberOrDerived_of_build (built : d.build = .ok g) (index : Nat) (name : String) :
    ((g.memberOrDerived? index name).isSome = true ↔
      ∃ owner, (ReflTransGen g.Link index owner ∨ ReflTransGen g.Link owner index) ∧
        g.Declares name owner) ∧
    ((∃ owner, ReflTransGen g.Link index owner ∧ g.Declares name owner) →
      g.memberOrDerived? index name = g.member? index name) ∧
    ((∀ owner, ReflTransGen g.Link index owner → ¬ g.Declares name owner) → ∀ type,
      g.memberOrDerived? index name = some type ↔
        ∃ derived, g.FirstSeeing name index derived type) := by
  have acyclic := (Definitions.build_eq_ok_iff.mp built).acyclic
  refine ⟨memberOrDerived?_isSome_iff acyclic, memberOrDerived?_of_declared acyclic, ?_⟩
  intro undeclared type
  exact memberOrDerived?_of_undeclared acyclic undeclared

/-- A shop in which an atlas, as a book, has an author, and a disc has one in words. -/
def shop : Definitions := .ofDeclarations [
  .inNamespace "shop",
  .entityType "book" [.base "item", .navigation "author" "person"],
  .entityType "item" [.property "title" "Edm.String"],
  .entityType "disc" [.base "item", .property "author" "Edm.String",
    .property "length" "Edm.Int32"],
  .entityType "atlas" [.base "book", .property "author" "Edm.String"],
  .entityType "person" []]

def shopGraph : Graph := shop.build.toOption.getD { types := [] }

/-- An item has an author since books have one, which come before discs in the table. A book has no
length, as a disc is not a book. -/
theorem memberOrDerived_of_build_shop : shop.build = .ok shopGraph ∧
    (∀ owner, ReflTransGen shopGraph.Link 18 owner → ¬ shopGraph.Declares "author" owner) ∧
    (∃ derived, shopGraph.FirstSeeing "author" 18 derived ⟨21, false⟩) ∧
    (∃ owner, ReflTransGen shopGraph.Link 20 owner ∧ shopGraph.Declares "author" owner) ∧
    shopGraph.memberOrDerived? 20 "author" = some ⟨21, false⟩ ∧
    ¬ ∃ owner, (ReflTransGen shopGraph.Link 17 owner ∨ ReflTransGen shopGraph.Link owner 17) ∧
      shopGraph.Declares "length" owner := by
  have built : shop.build = .ok shopGraph := by decide
  have acyclic := (Definitions.build_eq_ok_iff.mp built).acyclic
  have undeclared : ∀ owner, ReflTransGen shopGraph.Link 18 owner →
      ¬ shopGraph.Declares "author" owner := (member?_eq_none_iff acyclic).mp (by decide)
  have declared : ∃ owner, ReflTransGen shopGraph.Link 20 owner ∧
      shopGraph.Declares "author" owner := ⟨20, .refl, by unfold Declares; decide⟩
  obtain ⟨_, _, below⟩ := memberOrDerived_of_build built 18 "author"
  obtain ⟨_, above, _⟩ := memberOrDerived_of_build built 20 "author"
  obtain ⟨found, _, _⟩ := memberOrDerived_of_build built 17 "length"
  refine ⟨built, undeclared, (below undeclared _).mp (by decide), declared, ?_, ?_⟩
  · rw [above declared]
    decide
  · rw [← found]
    decide

end Graph
end EntityService.Schema
