import EntityService.Text.IgnoreCase
import Mathlib.Data.List.Forall2

/-! What it means to ignore letter case. A capital from A to Z is taken for its small letter and the
small letter for its capital; no other two characters are taken for one another. -/
namespace EntityService.Text

/-- A capital of the Latin alphabet, and its small letter. -/
structure IsCapitalOf (capital small : Char) : Prop where
  letter : 'A' ≤ capital ∧ capital ≤ 'Z'
  shifted : small.toNat = capital.toNat + 32

def SameLetter (c d : Char) : Prop := c = d ∨ IsCapitalOf c d ∨ IsCapitalOf d c

/-- The texts have the same letters, one after the other. -/
def SameLetters (s t : String) : Prop := List.Forall₂ SameLetter s.toList t.toList

variable {c d : Char} {s t : String}

theorem toNat_toLower_of_letter (letter : 'A' ≤ c ∧ c ≤ 'Z') :
    c.toLower.toNat = c.toNat + 32 := by
  have shifted : c.toLower.val = c.val + 32 := congrArg Char.val (dif_pos letter)
  have last : c.val.toNat ≤ 90 := UInt32.le_iff_toNat_le.mp letter.2
  rw [Char.toNat, Char.toNat, shifted, UInt32.toNat_add]
  exact Nat.mod_eq_of_lt (by have : UInt32.toNat 32 = 32 := rfl; omega)

theorem toLower_of_not_letter (other : ¬ ('A' ≤ c ∧ c ≤ 'Z')) : c.toLower = c := dif_neg other

theorem isCapitalOf_toLower (letter : 'A' ≤ c ∧ c ≤ 'Z') : IsCapitalOf c c.toLower :=
  ⟨letter, toNat_toLower_of_letter letter⟩

theorem IsCapitalOf.toLower_eq (capital : IsCapitalOf c d) : c.toLower = d :=
  Char.toNat_inj.mp ((toNat_toLower_of_letter capital.letter).trans capital.shifted.symm)

/-- No small letter is a capital. -/
theorem IsCapitalOf.not_letter (capital : IsCapitalOf c d) : ¬ ('A' ≤ d ∧ d ≤ 'Z') := by
  rintro ⟨_, last⟩
  have first : 65 ≤ c.toNat := UInt32.le_iff_toNat_le.mp capital.letter.1
  have last : d.toNat ≤ 90 := UInt32.le_iff_toNat_le.mp last
  have shifted := capital.shifted
  omega

theorem toLower_eq_toLower_iff : c.toLower = d.toLower ↔ SameLetter c d := by
  constructor
  · intro same
    by_cases capital : 'A' ≤ c ∧ c ≤ 'Z' <;> by_cases other : 'A' ≤ d ∧ d ≤ 'Z'
    · have codes := congrArg Char.toNat same
      rw [toNat_toLower_of_letter capital, toNat_toLower_of_letter other] at codes
      exact .inl (Char.toNat_inj.mp (Nat.add_right_cancel codes))
    · rw [toLower_of_not_letter other] at same
      exact .inr (.inl (same ▸ isCapitalOf_toLower capital))
    · rw [toLower_of_not_letter capital] at same
      exact .inr (.inr (same ▸ isCapitalOf_toLower other))
    · rw [toLower_of_not_letter capital, toLower_of_not_letter other] at same
      exact .inl same
  · rintro (rfl | capital | capital)
    · rfl
    · rw [capital.toLower_eq, toLower_of_not_letter capital.not_letter]
    · rw [capital.toLower_eq, toLower_of_not_letter capital.not_letter]

theorem lower_eq_lower_iff : lower s = lower t ↔ SameLetters s t := by
  rw [lower, lower, String.ofList_inj, ← List.forall₂_eq_eq_eq, List.forall₂_map_left_iff,
    List.forall₂_map_right_iff, SameLetters]
  simp only [toLower_eq_toLower_iff]

theorem sameIgnoringCase_iff : sameIgnoringCase s t = true ↔ SameLetters s t := by
  rw [sameIgnoringCase, beq_iff_eq, lower_eq_lower_iff]

/-- The sign for degrees Kelvin is no letter of this alphabet. -/
example : SameLetters "Kelvin" "kELVIN" ∧ ¬ SameLetters "\u212Aelvin" "kelvin" := by
  rw [← sameIgnoringCase_iff, ← sameIgnoringCase_iff]
  decide

end EntityService.Text
