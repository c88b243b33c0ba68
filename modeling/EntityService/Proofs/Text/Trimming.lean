import EntityService.Text.Blank
import Mathlib.Data.List.DropRight

/-! Texts without blanks at their ends. Trimming makes every text into one and leaves it as it is. -/
namespace EntityService.Text

/-- Neither the first nor the last character is a blank. -/
structure Trimmed (cs : List Char) : Prop where
  first : ∀ c ∈ cs.head?, isBlank c = false
  last : ∀ c ∈ cs.getLast?, isBlank c = false

/-- The blanks around a text are all that is gone. -/
structure TrimsTo (cs body : List Char) : Prop where
  blanks : ∃ before after, allBlank before = true ∧ allBlank after = true ∧
    cs = before ++ body ++ after
  trimmed : Trimmed body

variable {cs : List Char}

theorem trimEnd_eq_rdropWhile (cs : List Char) : trimEnd cs = cs.rdropWhile isBlank := rfl

theorem Trimmed.trim_eq (trimmed : Trimmed cs) : trim cs = cs := by
  have front : cs.dropWhile isBlank = cs := by
    rw [List.dropWhile_eq_self_iff]
    intro nonempty
    rw [trimmed.first _ (by rw [List.head?_eq_getElem?, List.getElem?_eq_getElem nonempty]; rfl)]
    exact Bool.false_ne_true
  rw [trim, front, trimEnd_eq_rdropWhile, List.rdropWhile_eq_self_iff]
  intro nonempty
  rw [trimmed.last _ (List.getLast?_eq_some_getLast nonempty)]
  exact Bool.false_ne_true

theorem trimmed_trim (cs : List Char) : Trimmed (trim cs) where
  first c found := by
    obtain ⟨rest, whole⟩ := List.rdropWhile_prefix isBlank (l := cs.dropWhile isBlank)
    rw [trim, trimEnd_eq_rdropWhile] at found
    have first : c ∈ (cs.dropWhile isBlank).head? := by
      rw [← whole, List.head?_append, found]
      rfl
    have nonempty : cs.dropWhile isBlank ≠ [] := by
      intro empty
      rw [empty] at first
      cases first
    have unblank := List.head_dropWhile_not isBlank nonempty
    rw [List.head?_eq_some_head nonempty] at first
    cases first
    exact unblank
  last c found := by
    rw [trim, trimEnd_eq_rdropWhile] at found
    have nonempty : (cs.dropWhile isBlank).rdropWhile isBlank ≠ [] := by
      intro empty
      rw [empty] at found
      cases found
    have unblank := List.rdropWhile_last_not isBlank (cs.dropWhile isBlank) nonempty
    rw [List.getLast?_eq_some_getLast nonempty] at found
    cases found
    simpa using unblank

theorem trimsTo_trim (cs : List Char) : TrimsTo cs (trim cs) where
  blanks := by
    refine ⟨cs.takeWhile isBlank, (cs.dropWhile isBlank).rtakeWhile isBlank, ?_, ?_, ?_⟩
    · exact List.all_eq_true.mpr fun c member => List.mem_takeWhile_imp member
    · exact List.all_eq_true.mpr fun c member => List.mem_rtakeWhile_imp member
    · rw [trim, trimEnd_eq_rdropWhile, List.append_assoc, List.rdropWhile_append_rtakeWhile,
        List.takeWhile_append_dropWhile]
  trimmed := trimmed_trim cs

theorem mem_of_mem_trim {c : Char} (member : c ∈ trim cs) : c ∈ cs :=
  (List.dropWhile_suffix _).subset ((List.rdropWhile_prefix isBlank _).subset member)

theorem Trimmed.of_forall (unblank : ∀ c ∈ cs, isBlank c = false) : Trimmed cs where
  first c found := unblank c (List.mem_of_mem_head? found)
  last c found := unblank c (List.mem_of_getLast? found)

/-- What stands in the middle does not matter. -/
theorem Trimmed.append {ds : List Char} (front : Trimmed cs) (some : cs ≠ []) (middle : List Char)
    (back : Trimmed ds) (more : ds ≠ []) : Trimmed (cs ++ middle ++ ds) where
  first := by
    rw [List.append_assoc, List.head?_append_of_ne_nil cs some]
    exact front.first
  last := by
    rw [List.getLast?_append_of_ne_nil _ more]
    exact back.last

theorem Trimmed.intercalate {separator : List Char} {parts : List (List Char)}
    (each : ∀ part ∈ parts, Trimmed part ∧ part ≠ []) :
    Trimmed (separator.intercalate parts) := by
  cases parts with
  | nil => exact ⟨nofun, nofun⟩
  | cons part parts =>
    suffices Trimmed (separator.intercalate (part :: parts)) ∧
      separator.intercalate (part :: parts) ≠ [] from this.1
    induction parts generalizing part with
    | nil => simpa only [List.intercalate_singleton] using each part (by simp)
    | cons next parts ih =>
      obtain ⟨trimmed, filled⟩ := ih next fun other later => each other (List.mem_cons_of_mem _ later)
      obtain ⟨front, some⟩ := each part List.mem_cons_self
      rw [List.intercalate_cons_cons]
      exact ⟨front.append some separator trimmed filled,
        List.append_ne_nil_of_right_ne_nil _ filled⟩

end EntityService.Text
