import EntityService.Proofs.Schema.References
import EntityService.Proofs.Text.Splitting
import EntityService.Proofs.Text.Trimming

/-! The grammar of references to types. A reference is the name of a type, or the same name inside
`Collection(` and `)`; every text follows the grammar in one way at most, and a text that does not
follow it is reported as it is written. -/
namespace EntityService.Schema

open Text

/-- Letters, numbers and underscores, at least one of them. -/
def NamePart (part : List Char) : Prop :=
  part ≠ [] ∧ ∀ c ∈ part, isAlphanumeric c = true ∨ c = '_'

/-- One or more parts with single dots between them. -/
def TypeName (cs : List Char) : Prop :=
  ∃ parts, parts ≠ [] ∧ (∀ part ∈ parts, NamePart part) ∧ cs = ['.'].intercalate parts

namespace Reference

/-- The text of a reference, without blanks around it. -/
inductive Spells : List Char → Reference → Prop where
  | single : TypeName cs → Spells cs ⟨String.ofList cs, false⟩
  | collection : TypeName cs →
      Spells ("Collection(".toList ++ (cs ++ [')'])) ⟨String.ofList cs, true⟩

/-- Something that looks like a collection: it does not end in a parenthesis, or there is another
parenthesis or a blank in it. -/
inductive Misspelt : List Char → Prop where
  | unclosed : enclosed.getLast? ≠ some ')' → Misspelt ("Collection(".toList ++ enclosed)
  | nested : '(' ∈ enclosed ∨ ')' ∈ enclosed →
      Misspelt ("Collection(".toList ++ (enclosed ++ [')']))
  | padded : c ∈ enclosed → isBlank c = true →
      Misspelt ("Collection(".toList ++ (enclosed ++ [')']))

end Reference

variable {cs part : List Char} {c : Char} {r : Reference}

theorem not_alphanumeric_of_blank (blank : isBlank c = true) : isAlphanumeric c = false := by
  have all : ∀ r ∈ blankRanges, ∀ n ∈ List.range' r.1 (r.2 + 1 - r.1),
      isAlphanumeric (Char.ofNat n) = false := by
    decide +kernel
  obtain ⟨r, among, inside⟩ := List.any_eq_true.mp blank
  simp only [Bool.and_eq_true, decide_eq_true_eq] at inside
  have member : c.toNat ∈ List.range' r.1 (r.2 + 1 - r.1) := by
    rw [List.mem_range'_1]
    omega
  simpa only [Char.ofNat_toNat] using all r among c.toNat member

theorem isNamePart_iff : isNamePart part = true ↔ NamePart part := by
  simp [isNamePart, NamePart]

theorem isTypeName_iff : isTypeName cs = true ↔ TypeName cs := by
  simp only [TypeName, ← isNamePart_iff]
  refine all_splitOn_iff fun part named dot => ?_
  exact absurd ((isNamePart_iff.mp named).2 '.' dot) (by decide)

namespace TypeName

theorem nonempty (named : TypeName cs) : cs ≠ [] := by
  obtain ⟨parts, some, each, rfl⟩ := named
  obtain ⟨part, parts, rfl⟩ := List.exists_cons_of_ne_nil some
  have filled := (each part List.mem_cons_self).1
  cases parts with
  | nil => simpa using filled
  | cons next parts => simp [List.intercalate_cons_cons]

/-- The induction is on the parts, between which there are only dots. -/
theorem chars (named : TypeName cs) : ∀ c ∈ cs, isAlphanumeric c = true ∨ c = '_' ∨ c = '.' := by
  obtain ⟨parts, -, each, rfl⟩ := named
  induction parts with
  | nil => simp
  | cons part parts ih =>
    obtain ⟨own, others⟩ := List.forall_mem_cons.mp each
    have first : ∀ c ∈ part, isAlphanumeric c = true ∨ c = '_' ∨ c = '.' := by
      intro c member
      exact (own.2 c member).imp_right .inl
    cases parts with
    | nil => simpa using first
    | cons next parts =>
      intro c member
      simp only [List.intercalate_cons_cons, List.append_assoc, List.mem_append,
        List.mem_singleton] at member
      rcases member with inside | dot | later
      · exact first c inside
      · exact .inr (.inr dot)
      · exact ih others c later

theorem not_blank (named : TypeName cs) : ∀ c ∈ cs, isBlank c = false := by
  intro c member
  by_contra blank
  have other := not_alphanumeric_of_blank (by simpa using blank)
  rcases named.chars c member with letter | rfl | rfl
  · simp [other] at letter
  · exact blank (by decide)
  · exact blank (by decide)

theorem no_parenthesis (named : TypeName cs) : '(' ∉ cs ∧ ')' ∉ cs := by
  refine ⟨fun member => ?_, fun member => ?_⟩
  · exact absurd (named.chars _ member) (by decide)
  · exact absurd (named.chars _ member) (by decide)

end TypeName

namespace Reference

theorem ofName?_eq_some_iff {collection : Bool} :
    ofName? cs collection = some r ↔ TypeName cs ∧ ⟨String.ofList cs, collection⟩ = r := by
  rw [ofName?, Option.ite_none_right_eq_some, isTypeName_iff, Option.some.injEq]

namespace Spells

theorem text_eq (spells : Spells cs r) : r.text.toList = cs := by
  cases spells <;> simp [text, String.toList_append]

theorem not_blank (spells : Spells cs r) : ∀ c ∈ cs, isBlank c = false := by
  cases spells with
  | single named => exact named.not_blank
  | collection named =>
    intro c member
    simp only [List.mem_append, List.mem_singleton] at member
    rcases member with opening | inside | rfl
    · have filled : "Collection(".toList.all (!isBlank ·) = true := by decide
      simpa using List.all_eq_true.mp filled c opening
    · exact named.not_blank c inside
    · decide

theorem trim_eq (spells : Spells cs r) : trim cs = cs :=
  (Trimmed.of_forall spells.not_blank).trim_eq

/-- What stands in a collection is the name of a type, since no name begins with a parenthesis. -/
theorem of_opened {enclosed : List Char} (spells : Spells ("Collection(".toList ++ enclosed) r) :
    ∃ name, TypeName name ∧ enclosed = name ++ [')'] := by
  generalize whole : "Collection(".toList ++ enclosed = body at spells
  cases spells with
  | single named =>
    subst whole
    exact absurd (List.mem_append_left _ (by decide)) named.no_parenthesis.1
  | collection named => exact ⟨_, named, List.append_cancel_left whole⟩

end Spells

theorem parse?_eq_some_iff {written : String} :
    parse? written = some r ↔ Spells (trim written.toList) r := by
  simp only [parse?]
  generalize trim written.toList = body
  constructor
  · intro read
    split at read
    · rename_i enclosed opened
      obtain ⟨name, closed, taken⟩ := Option.bind_eq_some_iff.mp read
      rw [List.isPrefixOf?_eq_some_iff_append_eq] at opened
      rw [List.isSuffixOf?_eq_some_iff_append_eq] at closed
      obtain ⟨named, rfl⟩ := ofName?_eq_some_iff.mp taken
      subst closed opened
      exact .collection named
    · obtain ⟨named, rfl⟩ := ofName?_eq_some_iff.mp read
      exact .single named
  · intro spells
    cases spells with
    | single named =>
      have single : "Collection(".toList.isPrefixOf? body = none := by
        rw [Option.eq_none_iff_forall_ne_some]
        intro rest opened
        rw [List.isPrefixOf?_eq_some_iff_append_eq] at opened
        subst opened
        exact named.no_parenthesis.1 (List.mem_append_left _ (by decide))
      rw [single]
      exact ofName?_eq_some_iff.mpr ⟨named, rfl⟩
    | @collection cs named =>
      have opened : "Collection(".toList.isPrefixOf? ("Collection(".toList ++ (cs ++ [')'])) =
          some (cs ++ [')']) :=
        List.isPrefixOf?_eq_some_iff_append_eq.mpr rfl
      have closed : [')'].isSuffixOf? (cs ++ [')']) = some cs :=
        List.isSuffixOf?_eq_some_iff_append_eq.mpr rfl
      simp only [opened, closed, Option.bind_some]
      exact ofName?_eq_some_iff.mpr ⟨named, rfl⟩

theorem Spells.unique {other : Reference} (spells : Spells cs r) (others : Spells cs other) :
    r = other := by
  have read {s : Reference} (spells : Spells cs s) : parse? (String.ofList cs) = some s := by
    rw [parse?_eq_some_iff, String.toList_ofList, spells.trim_eq]
    exact spells
  exact Option.some.inj ((read spells).symm.trans (read others))

theorem Misspelt.not_spells (misspelt : Misspelt cs) : ¬ Spells cs r := by
  intro spells
  cases misspelt with
  | unclosed opening =>
    obtain ⟨name, _, rfl⟩ := spells.of_opened
    simp at opening
  | nested parenthesis =>
    obtain ⟨name, named, same⟩ := spells.of_opened
    cases List.append_cancel_right same
    exact parenthesis.elim named.no_parenthesis.1 named.no_parenthesis.2
  | padded member blank =>
    obtain ⟨name, named, same⟩ := spells.of_opened
    cases List.append_cancel_right same
    simp [named.not_blank _ member] at blank

theorem parse?_eq_none_iff {written : String} :
    parse? written = none ↔ ∀ r, ¬ Spells (trim written.toList) r := by
  simp only [Option.eq_none_iff_forall_ne_some, ne_eq, parse?_eq_some_iff]

end Reference

theorem resolve_eq_invalid_iff {names : List String} {space written reported : String}
    {site : Site} :
    resolve names space site written = .error (.invalidTypeReference reported) ↔
      Reference.parse? written = none ∧ reported = written := by
  unfold resolve
  cases Reference.parse? written with
  | none => simp [eq_comm]
  | some r => cases found : names.idxOf? (r.qualifiedIn space) <;> simp [found]

namespace Reference

/-- A text is read as a reference if and only if it follows the grammar once the blanks around it are
gone. Then it follows it in one way, and the reference is read from its own text again. Any other
text is reported as it is written. -/
theorem parse?_iff_spells (written : String) :
    TrimsTo written.toList (trim written.toList) ∧
    (∀ r, parse? written = some r ↔ Spells (trim written.toList) r) ∧
    (∀ r other, Spells (trim written.toList) r → Spells (trim written.toList) other → r = other) ∧
    (∀ names space site reported,
      resolve names space site written = .error (.invalidTypeReference reported) ↔
        (∀ r, ¬ Spells (trim written.toList) r) ∧ reported = written) ∧
    (∀ r, parse? written = some r → parse? r.text = some r) ∧
    (Misspelt (trim written.toList) → parse? written = none) := by
  refine ⟨trimsTo_trim _, fun r => parse?_eq_some_iff, fun r other => Spells.unique, ?_, ?_, ?_⟩
  · intro names space site reported
    rw [resolve_eq_invalid_iff, parse?_eq_none_iff]
  · intro r read
    have spells := parse?_eq_some_iff.mp read
    rw [parse?_eq_some_iff, spells.text_eq, spells.trim_eq]
    exact spells
  · intro misspelt
    exact parse?_eq_none_iff.mpr fun r => misspelt.not_spells

/-- Blanks are taken off around a collection and not inside of it. -/
example : parse? "\u2003Collection(fleet.truck)\n" = some ⟨"fleet.truck", true⟩ ∧
    parse? "Collection( fleet.truck)" = none := by
  decide

end Reference
end EntityService.Schema
