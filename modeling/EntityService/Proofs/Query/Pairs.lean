import EntityService.Proofs.Text.Percent
import EntityService.Query.Pairs

/-! Pairs that are written to a query string and read from it. No encoded text holds a sign that
has a meaning between pairs or inside of them, so every list of pairs is read back, in whichever
way its texts are encoded. -/
namespace EntityService.Query

open Text Percent

/-- A key and a value with an equals sign between them, both encoded. -/
inductive WritesPair (p : Pair) : List Char → Prop where
  | intro : Writes p.1 key → Writes p.2 value → WritesPair p (key ++ '=' :: value)

variable {c : Char} {cs : List Char} {p : Pair} {pairs : List Pair} {parts : List (List Char)}

namespace WritesPair

theorem readPair_eq (writes : WritesPair p cs) : readPair cs = p := by
  cases writes with
  | @intro key value first second =>
    have before : ∀ c ∈ key, (c != '=') = true := by
      intro c member
      rw [bne_iff_ne]
      rintro rfl
      exact first.not_mem (by decide) (by decide) member
    rw [readPair, List.takeWhile_append_of_pos before, List.dropWhile_append_of_pos before]
    simp [first.decoded_eq, second.decoded_eq]

theorem ne_nil (writes : WritesPair p cs) : cs ≠ [] := by
  cases writes
  exact List.append_ne_nil_of_right_ne_nil _ (List.cons_ne_nil _ _)

theorem not_mem (writes : WritesPair p cs) (equals : c ≠ '=') (sign : c ≠ '%')
    (reserved : isUnreserved c = false) : c ∉ cs := by
  cases writes with
  | intro first second =>
    intro member
    rcases List.mem_append.mp member with key | value
    · exact first.not_mem sign reserved key
    · rcases List.mem_cons.mp value with same | value
      · exact equals same
      · exact second.not_mem sign reserved value

/-- No question mark is taken off in front. -/
theorem dropWhile_intercalate (each : List.Forall₂ WritesPair pairs parts) :
    (['&'].intercalate parts).dropWhile (· == '?') = ['&'].intercalate parts := by
  cases each with
  | nil => rfl
  | @cons p part pairs parts writes rest =>
    obtain ⟨c, cs, rfl⟩ := List.exists_cons_of_ne_nil writes.ne_nil
    have other : (c == '?') = false := by
      rw [beq_eq_false_iff_ne]
      rintro rfl
      exact writes.not_mem (c := '?') (by decide) (by decide) (by decide) List.mem_cons_self
    cases rest with
    | nil => simp [other]
    | cons => simp [List.intercalate_cons_cons, other]

end WritesPair

theorem readPairs_of_writes (each : List.Forall₂ WritesPair pairs parts) :
    readPairs (String.ofList (['&'].intercalate parts)) = pairs := by
  rw [readPairs, String.toList_ofList, WritesPair.dropWhile_intercalate each]
  by_cases empty : parts = []
  · subst empty
    cases each
    rfl
  have apart : ∀ cs ∈ parts, '&' ∉ cs := by
    intro cs member
    obtain ⟨p, _, writes⟩ := Outcome.exists_part_of_mem each member
    exact writes.not_mem (by decide) (by decide) (by decide)
  have filled : ∀ cs ∈ parts, (!cs.isEmpty) = true := by
    intro cs member
    obtain ⟨p, _, writes⟩ := Outcome.exists_part_of_mem each member
    simpa using writes.ne_nil
  rw [List.splitOn_intercalate '&' apart empty, List.filter_eq_self.mpr filled]
  have read := Outcome.map_eq_of_forall₂ (f := id) each fun p cs writes => writes.readPair_eq.symm
  rw [← read, List.map_id]

theorem readPairs_writePairs (pairs : List Pair) : readPairs (writePairs pairs) = pairs := by
  refine readPairs_of_writes ?_
  rw [List.forall₂_map_right_iff, List.forall₂_same]
  intro p _
  exact .intro (.encodeComponent p.1) (.encodeComponent p.2)

end EntityService.Query
