import Mathlib.Data.List.Basic

/-! Texts that are split at a separator. The parts hold all characters but the separators, and no
part holds a separator. -/
namespace EntityService.Text

variable {separator c : Char} {cs part : List Char}

theorem mem_splitOn (member : c ∈ cs) :
    c = separator ∨ ∃ part ∈ cs.splitOn separator, c ∈ part := by
  induction cs with
  | nil => contradiction
  | cons d cs ih =>
    obtain ⟨part, parts, rest⟩ := List.exists_cons_of_ne_nil (List.splitOn_ne_nil separator cs)
    rw [List.splitOn_cons_eq_if_modifyHead, rest]
    rw [rest] at ih
    rcases List.mem_cons.mp member with rfl | later
    · by_cases same : c = separator <;> simp [same]
    · rcases ih later with rfl | ⟨other, among, inside⟩
      · exact .inl rfl
      · by_cases same : d = separator <;> simp [same] at among ⊢ <;> grind

theorem not_mem_of_mem_splitOn (member : part ∈ cs.splitOn separator) : separator ∉ part := by
  induction cs generalizing part with
  | nil =>
    simp only [List.splitOn_nil, List.mem_singleton] at member
    simp [member]
  | cons c cs ih =>
    obtain ⟨first, rest, parts⟩ := List.exists_cons_of_ne_nil (List.splitOn_ne_nil separator cs)
    rw [List.splitOn_cons_eq_if_modifyHead, parts] at member
    rw [parts] at ih
    by_cases same : c = separator
    · simp only [same, BEq.rfl, if_true, List.mem_cons] at member
      rcases member with rfl | member
      · exact List.not_mem_nil
      · exact ih (List.mem_cons.mpr member)
    · simp only [beq_iff_eq, same, if_false, List.modifyHead_cons, List.mem_cons] at member
      rcases member with rfl | member
      · exact List.not_mem_cons_of_ne_of_not_mem (Ne.symm same) (ih List.mem_cons_self)
      · exact ih (List.mem_cons_of_mem _ member)

/-- All parts are of a sort if and only if the text is put together from parts of that sort. -/
theorem all_splitOn_iff {sort : List Char → Bool}
    (apart : ∀ part, sort part = true → separator ∉ part) :
    (cs.splitOn separator).all sort = true ↔
      ∃ parts, parts ≠ [] ∧ (∀ part ∈ parts, sort part = true) ∧
        cs = [separator].intercalate parts := by
  constructor
  · intro each
    exact ⟨_, List.splitOn_ne_nil separator cs, List.all_eq_true.mp each,
      (List.intercalate_splitOn separator).symm⟩
  · rintro ⟨parts, some, each, rfl⟩
    rw [List.splitOn_intercalate separator (fun part member => apart part (each part member)) some]
    exact List.all_eq_true.mpr each

end EntityService.Text
