import Mathlib.Data.List.Chain

/-! Breaks. A line feed with a tab behind it sets what follows apart from what stands before it.
Texts without a break in them can be told apart again when a break stands in front of each. -/
namespace EntityService.Text

/-- No line feed has a tab behind it. -/
def Unbroken (cs : List Char) : Prop := cs.IsChain fun c d => ¬ (c = '\n' ∧ d = '\t')

/-- Neither of the two signs of a break. -/
def Calm (cs : List Char) : Prop := ∀ c ∈ cs, c ≠ '\n' ∧ c ≠ '\t'

instance (cs : List Char) : Decidable (Unbroken cs) := inferInstanceAs (Decidable (List.IsChain ..))

instance (cs : List Char) : Decidable (Calm cs) := List.decidableBAll _ cs

/-- The texts between the line feeds that have a tab behind them. -/
def pieces : List Char → List (List Char)
  | [] => [[]]
  | '\n' :: '\t' :: cs => [] :: pieces cs
  | c :: cs => (pieces cs).modifyHead (c :: ·)

variable {c : Char} {cs ds rest : List Char}

theorem Unbroken.append (front : Unbroken cs) (back : Unbroken ds)
    (seam : (∀ c ∈ cs.getLast?, c ≠ '\n') ∨ ∀ d ∈ ds.head?, d ≠ '\t') : Unbroken (cs ++ ds) := by
  refine List.isChain_append.mpr ⟨front, back, fun c last d first broken => ?_⟩
  rcases seam with calm | calm
  · exact calm c last broken.1
  · exact calm d first broken.2

theorem not_mem_of_sort {sort : Char → Bool} (each : ∀ c ∈ cs, sort c = true)
    (other : sort c = false) : c ∉ cs := fun member =>
  Bool.noConfusion (other.symm.trans (each c member))

namespace Calm

theorem of_sort {sort : Char → Bool} (each : ∀ c ∈ cs, sort c = true) (line : sort '\n' = false)
    (tab : sort '\t' = false) : Calm cs := fun _ member =>
  ⟨ne_of_mem_of_not_mem member (not_mem_of_sort each line),
    ne_of_mem_of_not_mem member (not_mem_of_sort each tab)⟩

theorem append (front : Calm cs) (back : Calm ds) : Calm (cs ++ ds) := fun c member =>
  (List.mem_append.mp member).elim (front c) (back c)

theorem unbroken (calm : Calm cs) : Unbroken cs := by
  induction cs with
  | nil => exact .nil
  | cons c cs ih =>
    obtain ⟨first, rest⟩ := List.forall_mem_cons.mp calm
    exact Unbroken.append (.singleton c) (ih rest) (.inl fun d last => by
      cases last
      exact first.1)

theorem before (front : Calm cs) (inner : Unbroken rest) : Unbroken (cs ++ rest) :=
  front.unbroken.append inner (.inl fun c last => (front c (List.mem_of_getLast? last)).1)

/-- Signs around a text do not make a break in it. -/
theorem enclose (front : Calm cs) (inner : Unbroken rest) (back : Calm ds) :
    Unbroken (cs ++ rest ++ ds) :=
  (front.before inner).append back.unbroken
    (.inr fun d first => (back d (List.mem_of_mem_head? first)).2)

end Calm

theorem Unbroken.intercalate {parts : List (List Char)} (each : ∀ part ∈ parts, Unbroken part) :
    Unbroken ([','].intercalate parts) := by
  cases parts with
  | nil => exact .nil
  | cons part parts =>
    induction parts generalizing part with
    | nil => simpa using each
    | cons next parts ih =>
      obtain ⟨first, later⟩ := List.forall_mem_cons.mp each
      rw [List.intercalate_cons_cons, List.append_assoc]
      have comma : Unbroken ([','] ++ [','].intercalate (next :: parts)) :=
        Unbroken.append (.singleton _) (ih next later) (.inl fun d last => by
          cases last
          decide)
      exact first.append comma (.inr fun d first => by
        cases first
        decide)

theorem pieces_cons (unbroken : ¬ (c = '\n' ∧ cs.head? = some '\t')) :
    pieces (c :: cs) = (pieces cs).modifyHead (c :: ·) := by
  rw [pieces]
  rintro rest rfl rfl
  exact unbroken ⟨rfl, rfl⟩

theorem pieces_append (unbroken : Unbroken cs) (rest : List Char)
    (seam : ∀ d ∈ rest.head?, d ≠ '\t') :
    pieces (cs ++ rest) = (pieces rest).modifyHead (cs ++ ·) := by
  induction cs with
  | nil => exact (congrFun List.modifyHead_id _).symm
  | cons c cs ih =>
    obtain ⟨next, later⟩ := List.isChain_cons.mp unbroken
    rw [List.cons_append, pieces_cons, ih later, List.modifyHead_modifyHead]
    · rfl
    · rintro ⟨rfl, tab⟩
      cases cs with
      | nil => exact seam _ tab rfl
      | cons d cs => exact next d rfl ⟨rfl, Option.some.inj tab⟩

/-- Texts without breaks are set apart by the breaks in front of them. -/
theorem pieces_flatMap {parts : List (List Char)} (each : ∀ part ∈ parts, Unbroken part) :
    pieces (parts.flatMap fun part => '\n' :: '\t' :: part) = [] :: parts := by
  -- What stands in front of the first break is generalized, for then it can be the first part.
  suffices ∀ cs, Unbroken cs →
      pieces (cs ++ parts.flatMap fun part => '\n' :: '\t' :: part) = cs :: parts from this [] .nil
  induction parts with
  | nil =>
    intro cs unbroken
    simpa [pieces] using pieces_append unbroken [] nofun
  | cons part parts ih =>
    obtain ⟨first, rest⟩ := List.forall_mem_cons.mp each
    intro cs unbroken
    rw [List.flatMap_cons, pieces_append unbroken, List.cons_append, List.cons_append, pieces,
      ih rest part first, List.modifyHead_cons, List.append_nil]
    rintro _ ⟨⟩
    decide

end EntityService.Text
