import EntityService.Naming.Camel
import EntityService.Naming.Singular
import EntityService.Proofs.Path.CallText
import EntityService.Proofs.Text.Percent
import Mathlib.Data.List.TakeWhile

/-! Names that are put together as identifiers are. Neither the singular nor camel case adds any other
character, but camel case drops the underscores in front of a name, so a digit behind them comes to
stand first. -/
namespace EntityService.Naming

open Text EntityService.Path

/-- Letters, digits and underscores of ASCII. -/
def Plain (cs : List Char) : Prop := ∀ c ∈ cs, isNameRest c = true

/-- A digit stands first behind the underscores, if there are any. -/
def Numbered (cs : List Char) : Prop := ∃ c, cs.find? (· != '_') = some c ∧ c.isDigit = true

/-- Another plain word, which is numbered if and only if the first one is. -/
structure Alike (word other : List Char) : Prop where
  filled : other ≠ []
  plain : Plain other
  numbered : Numbered other ↔ Numbered word

/-- Nothing but letters. -/
def isLettered (s : String) : Bool := s.toList.all Char.isAlpha

def PluralRule.isLettered : PluralRule → Bool
  | .words plurals singular => plurals.all Naming.isLettered && Naming.isLettered singular
  | .front text singular =>
    text != "" && Naming.isLettered text && Naming.isLettered singular
  | .ending _ endings singular => endings.all Naming.isLettered && Naming.isLettered singular

variable {c : Char} {cs kept front : List Char} {word ending : String}

section Characters

/-- What holds of the plain characters of ASCII holds of all plain characters. -/
theorem of_ascii {P : Char → Prop}
    (each : ∀ n < 128, isNameRest (Char.ofNat n) = true → P (Char.ofNat n))
    (plain : isNameRest c = true) : P c := by
  have unreserved : Percent.isUnreserved c = true := by
    rcases Bool.or_eq_true_iff.mp plain with letter | underscore
    · simp [Percent.isUnreserved, letter]
    · rw [beq_iff_eq.mp underscore]
      decide
  have ascii := each c.toNat (Percent.toNat_of_isUnreserved unreserved)
  rw [Char.ofNat_toNat] at ascii
  exact ascii plain

variable (plain : isNameRest c = true)
include plain

theorem isAlphanumeric_of_plain : isAlphanumeric c = (c != '_') :=
  of_ascii (P := fun c => isAlphanumeric c = (c != '_')) (by decide) plain

theorem isNumeric_of_plain : isNumeric c = c.isDigit :=
  of_ascii (P := fun c => isNumeric c = c.isDigit) (by decide) plain

theorem isWord_of_plain : isWord c = true :=
  of_ascii (P := fun c => isWord c = true) (by decide) plain

theorem plain_toUpper : isNameRest c.toUpper = true :=
  of_ascii (P := fun c => isNameRest c.toUpper = true) (by decide) plain

theorem plain_toLower : isNameRest c.toLower = true :=
  of_ascii (P := fun c => isNameRest c.toLower = true) (by decide) plain

theorem isDigit_toLower : c.toLower.isDigit = c.isDigit :=
  of_ascii (P := fun c => c.toLower.isDigit = c.isDigit) (by decide) plain

theorem toLower_of_isDigit (digit : c.isDigit = true) : c.toLower = c :=
  of_ascii (P := fun c => c.isDigit = true → c.toLower = c) (by decide) plain digit

end Characters

theorem isSimpleName_iff : isSimpleName cs = true ↔
    cs ≠ [] ∧ Plain cs ∧ ∀ c ∈ cs.head?, c.isDigit = false := by
  have start (c : Char) : isNameStart c = true ↔ isNameRest c = true ∧ c.isDigit = false := by
    constructor
    · intro start
      have plain := isNameRest_of_isNameStart start
      exact ⟨plain, of_ascii (P := fun c => isNameStart c = true → c.isDigit = false) (by decide)
        plain start⟩
    · rintro ⟨plain, digit⟩
      exact of_ascii (P := fun c => c.isDigit = false → isNameStart c = true) (by decide) plain digit
  cases cs with
  | nil => simp [isSimpleName]
  | cons c cs =>
    simp [isSimpleName, Plain, start, and_assoc, and_comm]

theorem plain_camelFrom (plain : Plain cs) (s : CamelState) : Plain (camelFrom s cs) := by
  induction cs generalizing s with
  | nil => exact plain
  | cons c cs ih =>
    obtain ⟨own, rest⟩ := List.forall_mem_cons.mp plain
    have rest := ih rest
    rw [camelFrom]
    split
    · exact rest _
    split
    · exact List.forall_mem_cons.mpr ⟨own, rest _⟩
    split
    · exact List.forall_mem_cons.mpr ⟨plain_toUpper own, rest _⟩
    · exact List.forall_mem_cons.mpr ⟨plain_toLower own, rest _⟩

/-- Underscores in front are passed over, and the next character is written as a small one. -/
theorem head_camelFrom (plain : Plain cs) :
    (camelFrom {} cs).head? = (cs.find? (· != '_')).map Char.toLower := by
  induction cs with
  | nil => rfl
  | cons c cs ih =>
    obtain ⟨own, rest⟩ := List.forall_mem_cons.mp plain
    rw [camelFrom, isAlphanumeric_of_plain own, isNumeric_of_plain own, List.find?_cons]
    by_cases underscore : c = '_'
    · subst underscore
      exact ih rest
    · rw [bne_iff_ne.mpr underscore]
      cases digit : c.isDigit with
      | true => simp [toLower_of_isDigit own digit]
      | false =>
        have small : isLowercase ' ' = false := by decide
        simp [small]

/-- Camel case of a plain word is a plain word. It begins with a digit if and only if the word is
numbered; a word of underscores stays as it is. -/
theorem lowerCamel_shape (plain : Plain word.toList) (filled : word ≠ "") :
    lowerCamel word ≠ "" ∧ Plain (lowerCamel word).toList ∧
      ((∃ c ∈ (lowerCamel word).toList.head?, c.isDigit = true) ↔ Numbered word.toList) := by
  have written := plain_camelFrom plain {}
  have first := head_camelFrom plain
  rw [lowerCamel]
  split
  · rename_i empty
    rw [empty, List.head?_nil, eq_comm, Option.map_eq_none_iff] at first
    refine ⟨filled, plain, ?_⟩
    rw [Numbered, first]
    have underscores : ∀ c ∈ word.toList.head?, c = '_' := by
      intro c head
      simpa using List.find?_eq_none.mp first c (List.mem_of_mem_head? head)
    simp only [reduceCtorEq, false_and, exists_false, iff_false]
    rintro ⟨c, head, digit⟩
    rw [underscores c head] at digit
    contradiction
  · rename_i nonempty
    refine ⟨by simpa using nonempty, by simpa using written, ?_⟩
    rw [String.toList_ofList, first]
    simp only [Numbered, Option.mem_def, Option.map_eq_some_iff]
    constructor
    · rintro ⟨_, ⟨c, found, rfl⟩, digit⟩
      have own := plain c (List.mem_of_find?_eq_some found)
      exact ⟨c, found, isDigit_toLower own ▸ digit⟩
    · rintro ⟨c, found, digit⟩
      have own := plain c (List.mem_of_find?_eq_some found)
      exact ⟨_, ⟨c, found, rfl⟩, (isDigit_toLower own).trans digit⟩

section Lettered

variable {s : String} (lettered : isLettered s = true)
include lettered

theorem plain_of_lettered : Plain s.toList := by
  intro c member
  have letter := List.all_eq_true.mp lettered c member
  simp [isNameRest, Char.isAlphanum, letter]

theorem not_digit_of_lettered : ∀ c ∈ s.toList, c.isDigit = false := by
  intro c member
  have letter := List.all_eq_true.mp lettered c member
  exact of_ascii (P := fun c => c.isAlpha = true → c.isDigit = false) (by decide)
    (plain_of_lettered lettered c member) letter

/-- Letters at the end do not matter. -/
theorem numbered_append (front : List Char) : Numbered (front ++ s.toList) ↔ Numbered front := by
  simp only [Numbered, List.find?_append]
  cases found : front.find? (· != '_') with
  | some c => simp
  | none =>
    simp only [Option.none_or, reduceCtorEq, false_and, exists_false, iff_false]
    rintro ⟨c, there, digit⟩
    rw [not_digit_of_lettered lettered c (List.mem_of_find?_eq_some there)] at digit
    contradiction

theorem not_numbered : ¬ Numbered s.toList := by
  have empty : ¬ Numbered [] := by simp [Numbered]
  simpa only [List.nil_append, empty, iff_false] using numbered_append lettered []

end Lettered

theorem take?_eq_some {stem : Stem} {taken rest : List Char}
    (found : stem.take? cs = some (taken, rest)) : taken ++ rest = cs := by
  cases stem with
  | text s =>
    obtain ⟨other, there, same⟩ := Option.map_eq_some_iff.mp found
    cases same
    exact List.isPrefixOf?_eq_some_iff_append_eq.mp there
  | oneOf s | noneOf s =>
    cases cs with
    | nil => contradiction
    | cons c cs =>
      simp only [Stem.take?] at found
      split at found <;> cases found
      rfl

/-- Nothing of a plain word is lost before its ending. -/
theorem keep?_eq_some {stems : List Stem} (plain : Plain cs) (found : keep? stems cs = some kept) :
    kept = cs := by
  obtain ⟨stem, _, found⟩ := List.exists_of_findSome?_eq_some found
  obtain ⟨⟨taken, rest⟩, there, rfl⟩ := Option.map_eq_some_iff.mp found
  have whole := take?_eq_some there
  have words : ∀ c ∈ rest, isWord c = true := by
    intro c member
    exact isWord_of_plain (plain c (whole ▸ List.mem_append_right taken member))
  simpa [List.takeWhile_eq_self_iff.mpr words] using whole

theorem withEnding_of_plain (plain : Plain kept) :
    withEnding kept ending = kept.reverse ++ ending.toList := by
  unfold withEnding
  split
  · exact absurd (plain '$' List.mem_cons_self) (by decide)
  · rfl

/-- A rule replaces letters by letters, at the end of the word or in the whole of it. -/
theorem singular?_alike {rule : PluralRule} (lettered : rule.isLettered = true)
    (plain : Plain cs) {other : List Char} (filled : other ≠ [])
    (found : rule.singular? cs = some other) : Alike cs other := by
  cases rule with
  | words plurals singular =>
    obtain ⟨each, lettered⟩ := Bool.and_eq_true_iff.mp lettered
    simp only [PluralRule.singular?, Option.ite_none_right_eq_some, List.any_eq_true, beq_iff_eq,
      Option.some.injEq] at found
    obtain ⟨⟨plural, among, rfl⟩, rfl⟩ := found
    have plural := List.all_eq_true.mp each plural among
    exact ⟨filled, plain_of_lettered lettered,
      iff_of_false (not_numbered lettered) (not_numbered plural)⟩
  | front text singular =>
    simp only [PluralRule.isLettered, Bool.and_eq_true, bne_iff_ne] at lettered
    obtain ⟨⟨nonempty, ended⟩, lettered⟩ := lettered
    simp only [PluralRule.singular?, Option.ite_none_right_eq_some, Option.some.injEq] at found
    obtain ⟨start, rfl⟩ := found
    obtain ⟨tail, rfl⟩ := List.isPrefixOf_iff_prefix.mp start
    refine ⟨filled, plain_of_lettered lettered, iff_of_false (not_numbered lettered) ?_⟩
    obtain ⟨c, rest, chars⟩ := List.exists_cons_of_ne_nil (l := text.toList) (by simpa using nonempty)
    have member : c ∈ text.toList := by simp [chars]
    have letter := List.all_eq_true.mp ended c member
    have first : c ≠ '_' := by
      rintro rfl
      contradiction
    simp [Numbered, chars, first, not_digit_of_lettered ended c member]
  | ending stems endings singular =>
    obtain ⟨each, lettered⟩ := Bool.and_eq_true_iff.mp lettered
    obtain ⟨kept, found, same⟩ := Option.bind_eq_some_iff.mp found
    obtain ⟨ending, among, found⟩ := List.exists_of_findSome?_eq_some found
    obtain ⟨rest, there, found⟩ := Option.bind_eq_some_iff.mp found
    rw [List.isPrefixOf?_eq_some_iff_append_eq] at there
    have reversed : Plain cs.reverse := fun c member => plain c (List.mem_reverse.mp member)
    have restPlain : Plain rest := fun c member =>
      reversed c (there ▸ List.mem_append_right _ member)
    cases keep?_eq_some restPlain found
    have whole : cs = kept.reverse ++ ending.toList := by
      simpa using (congrArg List.reverse there).symm
    cases same
    have ended := List.all_eq_true.mp each ending among
    rw [withEnding_of_plain restPlain] at filled ⊢
    refine ⟨filled, ?_, ?_⟩
    · intro c member
      rcases List.mem_append.mp member with front | back
      · exact restPlain c (List.mem_reverse.mp front)
      · exact plain_of_lettered lettered c back
    · rw [whole, numbered_append lettered, numbered_append ended]

theorem pluralRules_lettered : ∀ rule ∈ pluralRules, rule.isLettered = true := by
  decide

theorem irregular_lettered : ∀ entry ∈ irregular,
    entry.2 ≠ "" ∧ isLettered entry.1 = true ∧ isLettered entry.2 = true := by
  decide

theorem singular_alike (plain : Plain word.toList) (filled : word ≠ "") :
    Alike word.toList (singular word).toList := by
  have same : Alike word.toList word.toList := ⟨by simpa using filled, plain, Iff.rfl⟩
  rw [singular]
  split
  · exact same
  cases found : irregular.lookup word with
  | some other =>
    obtain ⟨before, behind, table, _⟩ := List.lookup_eq_some_iff.mp found
    obtain ⟨nonempty, plural, lettered⟩ := irregular_lettered (word, other) (by simp [table])
    exact ⟨by simpa using nonempty, plain_of_lettered lettered,
      iff_of_false (not_numbered lettered) (not_numbered plural)⟩
  | none =>
    rw [Option.getD_none, byRule]
    split
    · rename_i c cs found
      obtain ⟨rule, among, found⟩ := List.exists_of_findSome?_eq_some found
      rw [String.toList_ofList]
      exact singular?_alike (pluralRules_lettered rule among) plain (List.cons_ne_nil c cs) found
    · exact same

end EntityService.Naming
