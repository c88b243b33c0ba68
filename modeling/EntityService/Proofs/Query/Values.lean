import EntityService.Proofs.Text.IgnoreCase
import EntityService.Query.QueryOption
import EntityService.Query.Pairs
import Mathlib.Data.List.Basic
import Mathlib.Data.List.TakeWhile

/-! What a pair of a query string says by itself. The key determines a kind; a value is well formed
for a kind or not, and a well-formed value may still say nothing. Here this is put without the order
in which keys are compared and values are taken apart. -/
namespace EntityService.Query

open Text

variable {key : String} {k : Kind} {cs : List Char}

theorem trim_eq_nil_iff : trim cs = [] ↔ allBlank cs = true := by
  rw [trim, trimEnd, List.reverse_eq_nil_iff, List.dropWhile_eq_nil_iff, allBlank, List.all_eq_true]
  constructor
  · intro blank
    -- Were anything left of the front, it would begin with a character that is not blank.
    have nothing : cs.dropWhile isBlank = [] := by
      by_contra left
      have first := List.head_dropWhile_not isBlank left
      rw [blank _ (List.mem_reverse.mpr (List.head_mem left))] at first
      contradiction
    exact List.dropWhile_eq_nil_iff.mp nothing
  · intro blank c member
    exact blank c ((List.dropWhile_suffix _).subset (List.mem_reverse.mp member))

namespace Kind

/-- The name of the kind in any letter case, with or without a dollar sign in front. Headers have no
key. -/
def HasKey (k : Kind) (key : String) : Prop :=
  k ≠ .header ∧ ∃ word, SameLetters k.name word ∧ (key = word ∨ key = "$" ++ word)

theorem mem_all (k : Kind) : k ∈ all := by
  cases k <;> decide

theorem name_unique {other : Kind} (same : lower k.name = lower other.name) : k = other := by
  cases k <;> cases other <;> first | rfl | exact absurd same (by decide)

/-- No name begins with a dollar sign, so at most one is taken off. -/
theorem withoutDollar_of_same {word : String} (same : SameLetters k.name word) :
    withoutDollar word.toList = word.toList := by
  cases chars : word.toList with
  | nil => rfl
  | cons c rest =>
    by_cases dollar : c = '$'
    · subst dollar
      have first := congrArg (·.toList.head?) (lower_eq_lower_iff.mpr same)
      simp only [lower, chars, List.map_cons, String.toList_ofList, List.head?_cons] at first
      cases k <;> exact absurd first (by decide)
    · unfold withoutDollar
      split
      · rename_i same
        exact absurd (List.cons.inj same).1 dollar
      · rfl

theorem hasKey_iff : k.HasKey key ↔
    k ≠ .header ∧ SameLetters k.name (String.ofList (withoutDollar key.toList)) := by
  refine and_congr_right fun _ => ⟨?_, fun same => ⟨_, same, ?_⟩⟩
  · rintro ⟨word, same, rfl | rfl⟩
    · rwa [withoutDollar_of_same same, String.ofList_toList]
    · simpa [String.toList_append, withoutDollar] using same
  · unfold withoutDollar
    split
    · rename_i rest chars
      exact .inr (String.toList_injective (by simp [String.toList_append, chars]))
    · exact .inl String.ofList_toList.symm

theorem ofKey?_eq_some_iff : ofKey? key = some k ↔ k.HasKey key := by
  rw [hasKey_iff, ofKey?]
  constructor
  · intro found
    have same := List.find?_some (p := fun k : Kind => sameIgnoringCase k.name _) found
    have listed := (List.mem_filter.mp (List.mem_of_find?_eq_some found)).2
    exact ⟨bne_iff_ne.mp listed, sameIgnoringCase_iff.mp same⟩
  · rintro ⟨option, same⟩
    have listed : k ∈ all.filter (· != .header) :=
      List.mem_filter.mpr ⟨mem_all k, bne_iff_ne.mpr option⟩
    cases found : (all.filter (· != .header)).find? fun k : Kind =>
        sameIgnoringCase k.name (String.ofList (withoutDollar key.toList)) with
    | none => exact absurd (sameIgnoringCase_iff.mpr same) (List.find?_eq_none.mp found k listed)
    | some other =>
      have again := List.find?_some (p := fun k : Kind => sameIgnoringCase k.name _) found
      have spelled := lower_eq_lower_iff.mpr (sameIgnoringCase_iff.mp again)
      rw [name_unique (spelled.trans (lower_eq_lower_iff.mpr same).symm)]

/-- No key belongs to two kinds. -/
theorem HasKey.unique {other : Kind} (mine : k.HasKey key) (others : other.HasKey key) :
    k = other :=
  Option.some.inj ((ofKey?_eq_some_iff.mpr mine).symm.trans (ofKey?_eq_some_iff.mpr others))

end Kind

namespace QueryOption

/-- The values, without blanks at their ends, that a kind admits. -/
def WellFormed (cs : List Char) : Kind → Prop
  | .skip | .top => cs ≠ [] ∧ (∀ c ∈ cs, c.isDigit = true) ∧ Nat.ofDigitChars 10 cs 0 < amountBound
  | .count => SameLetters (String.ofList cs) "true" ∨ SameLetters (String.ofList cs) "false"
  | .select | .filter | .search | .orderby | .expand | .header => True

/-- A value that leaves an option unset says nothing: it is empty, or for names it is made of blank
ones, or for a term it is a pair of quotes. No value speaks of headers. -/
def Speaks (cs : List Char) : Kind → Prop
  | .select => ∃ field ∈ cs.splitOn ',', allBlank field = false
  | .search => cs ≠ [] ∧ cs ≠ ['"', '"']
  | .filter | .orderby | .skip | .top | .count | .expand => cs ≠ []
  | .header => False

/-- The option of a kind for a value that is well formed and says something. -/
def content (cs : List Char) : Kind → Option QueryOption
  | .select => some (.select (readFields cs))
  | .filter => some (.filter (String.ofList cs))
  | .search => some (.search (String.ofList (unquote cs)))
  | .orderby => some (.orderby (String.ofList cs))
  | .skip => some (.skip (Nat.ofDigitChars 10 cs 0))
  | .top => some (.top (Nat.ofDigitChars 10 cs 0))
  | .count => some (.count (sameIgnoringCase (String.ofList cs) "true"))
  | .expand => some (.expand (String.ofList cs))
  | .header => none

theorem exists_content (speaks : Speaks cs k) : ∃ o, content cs k = some o := by
  cases k with
  | header => exact speaks.elim
  | select | filter | search | orderby | skip | top | count | expand => exact ⟨_, rfl⟩

theorem kind_of_content {o : QueryOption} (made : content cs k = some o) : o.kind = k := by
  cases k <;> cases made <;> rfl

theorem kind_ne_header (o : QueryOption) : o.kind ≠ .header := by
  intro same
  cases o <;> cases same

theorem readFields_eq_nil_iff :
    readFields cs = [] ↔ ∀ field ∈ cs.splitOn ',', allBlank field = true := by
  simp only [readFields, List.map_eq_nil_iff, List.filter_eq_nil_iff, List.mem_map,
    forall_exists_index, and_imp, forall_apply_eq_imp_iff₂, Bool.not_eq_true', Bool.not_eq_false,
    List.isEmpty_iff, trim_eq_nil_iff]

theorem unquote_quoted (cs : List Char) : unquote ('"' :: (cs ++ ['"'])) = cs := by
  have inner : ['"'].isSuffixOf? (cs ++ ['"']) = some cs :=
    List.isSuffixOf?_eq_some_iff_append_eq.mpr rfl
  rw [unquote, show ['"'].isPrefixOf? ('"' :: (cs ++ ['"'])) = some (cs ++ ['"']) from rfl,
    Option.bind_some, inner, Option.getD_some]

theorem unquote_of_unquoted (unquoted : ∀ text, cs ≠ '"' :: (text ++ ['"'])) :
    unquote cs = cs := by
  cases inner : (['"'].isPrefixOf? cs).bind (['"'].isSuffixOf? ·) with
  | none => rw [unquote, inner, Option.getD_none]
  | some text =>
    obtain ⟨rest, after, before⟩ := Option.bind_eq_some_iff.mp inner
    rw [List.isPrefixOf?_eq_some_iff_append_eq] at after
    rw [List.isSuffixOf?_eq_some_iff_append_eq] at before
    subst before after
    exact absurd rfl (unquoted text)

theorem unquote_eq_nil_iff : unquote cs = [] ↔ cs = [] ∨ cs = ['"', '"'] := by
  by_cases quoted : ∃ text, cs = '"' :: (text ++ ['"'])
  · obtain ⟨text, rfl⟩ := quoted
    rw [unquote_quoted]
    simp
  · rw [unquote_of_unquoted (not_exists.mp quoted)]
    constructor
    · exact .inl
    · rintro (empty | two)
      · exact empty
      · exact absurd ⟨[], two⟩ quoted

theorem ofText_eq (option : String → QueryOption) (cs : List Char) :
    ofText option cs = if cs = [] then none else some (option (String.ofList cs)) := by
  cases cs <;> rfl

theorem readAmount?_eq_some_iff {amount : Nat} : readAmount? cs = some amount ↔
    WellFormed cs .skip ∧ Nat.ofDigitChars 10 cs 0 = amount := by
  simp only [readAmount?, Option.ite_none_right_eq_some, Bool.and_eq_true, Bool.not_eq_true',
    List.isEmpty_eq_false_iff, List.all_eq_true, decide_eq_true_eq, Option.some.injEq, WellFormed,
    and_assoc]

theorem readFlag?_eq_some_iff {s : String} {flag : Bool} : readFlag? s = some flag ↔
    (SameLetters s "true" ∨ SameLetters s "false") ∧ sameIgnoringCase s "true" = flag := by
  rw [← sameIgnoringCase_iff, ← sameIgnoringCase_iff]
  unfold readFlag?
  split
  · rename_i yes
    simp [yes]
  · rename_i no
    split
    · rename_i false
      simp [no, false]
    · rename_i other
      simp [no, other]

theorem ofTrimmed?_of_malformed (malformed : ¬ WellFormed cs k) : ofTrimmed? cs k = none := by
  cases k with
  | skip | top =>
    rw [ofTrimmed?, Option.map_eq_none_iff, Option.eq_none_iff_forall_not_mem]
    intro amount read
    exact malformed (readAmount?_eq_some_iff.mp read).1
  | count =>
    rw [ofTrimmed?, Option.map_eq_none_iff, Option.eq_none_iff_forall_not_mem]
    intro flag read
    exact malformed (readFlag?_eq_some_iff.mp read).1
  | select | filter | search | orderby | expand | header => exact absurd trivial malformed

theorem speaks_select_iff : Speaks cs .select ↔ readFields cs ≠ [] := by
  rw [Ne, readFields_eq_nil_iff]
  push Not
  simp only [Speaks, Bool.not_eq_true]

theorem speaks_search_iff : Speaks cs .search ↔ unquote cs ≠ [] := by
  rw [Ne, unquote_eq_nil_iff, not_or]
  rfl

theorem ofTrimmed?_of_speaks (wellFormed : WellFormed cs k) (speaks : Speaks cs k) :
    ofTrimmed? cs k = some (content cs k) := by
  cases k with
  | select =>
    have filled := speaks_select_iff.mp speaks
    simp [ofTrimmed?, filled, content]
  | search =>
    have filled := speaks_search_iff.mp speaks
    simp [ofTrimmed?, ofText_eq, filled, content]
  | filter | orderby | expand =>
    have filled : cs ≠ [] := speaks
    simp [ofTrimmed?, ofText_eq, filled, content]
  | skip | top =>
    have read := readAmount?_eq_some_iff.mpr ⟨wellFormed, rfl⟩
    simp [ofTrimmed?, read, content]
  | count =>
    have read := readFlag?_eq_some_iff.mpr ⟨wellFormed, rfl⟩
    simp [ofTrimmed?, read, content]
  | header => exact speaks.elim

/-- An amount and a flag cannot be left out, so only a text is well formed and says nothing. -/
theorem ofTrimmed?_of_silent (wellFormed : WellFormed cs k) (silent : ¬ Speaks cs k) :
    ofTrimmed? cs k = some none := by
  cases k with
  | select =>
    have empty := not_not.mp (speaks_select_iff.not.mp silent)
    simp [ofTrimmed?, empty]
  | search =>
    have empty := not_not.mp (speaks_search_iff.not.mp silent)
    simp [ofTrimmed?, ofText_eq, empty]
  | filter | orderby | expand =>
    have empty : cs = [] := not_not.mp silent
    simp [ofTrimmed?, ofText_eq, empty]
  | skip | top => exact absurd wellFormed.1 silent
  | count =>
    have empty : cs = [] := not_not.mp silent
    subst empty
    rcases wellFormed with yes | no
    · exact absurd (sameIgnoringCase_iff.mpr yes) (by decide)
    · exact absurd (sameIgnoringCase_iff.mpr no) (by decide)
  | header => rfl

end QueryOption
end EntityService.Query
