import EntityService.Proofs.Query.LastValue
import EntityService.Proofs.Text.Splitting
import EntityService.Proofs.Text.Trimming

/-! What options hold once they have been read: every option under its own kind and the kinds in the
canonical order, texts without blanks at their ends, names without commas, amounts of sixty-four
bits, and headers that are neither invalid nor reserved. -/
namespace EntityService.Query

open Text Http

variable {cs : List Char} {k : Kind} {o : QueryOption}

theorem ofDigitChars_repr (n : Nat) : Nat.ofDigitChars 10 n.repr.toList 0 = n := by
  rw [Nat.toList_repr]
  exact Nat.ofDigitChars_toDigits (by decide) (by decide)

theorem isDigit_of_mem_repr {n : Nat} {c : Char} (member : c ∈ n.repr.toList) :
    c.isDigit = true := by
  rw [Nat.toList_repr] at member
  exact Nat.isDigit_of_mem_toDigits (by decide) (by decide) member

namespace QueryOption

/-- An option under its own kind. -/
def entry (o : QueryOption) : Kind × QueryOption := (o.kind, o)

/-- A name in a selection. -/
structure IsField (field : String) : Prop where
  filled : field ≠ ""
  trimmed : Trimmed field.toList
  whole : ',' ∉ field.toList

/-- What an option holds that has been read from a value. -/
def Normal : QueryOption → Prop
  | .select fields => fields ≠ [] ∧ ∀ field ∈ fields, IsField field
  | .filter expression | .orderby expression | .expand expression =>
    expression ≠ "" ∧ Trimmed expression.toList
  | .search term => term ≠ ""
  | .skip amount | .top amount => amount < amountBound
  | .count _ => True

theorem isField_of_mem_readFields {field : String} (member : field ∈ readFields cs) :
    IsField field := by
  simp only [readFields, List.mem_map, List.mem_filter, Bool.not_eq_true',
    List.isEmpty_eq_false_iff] at member
  obtain ⟨_, ⟨⟨part, among, rfl⟩, filled⟩, rfl⟩ := member
  refine ⟨fun empty => filled ?_, ?_, ?_⟩
  · simpa using congrArg String.toList empty
  · rw [String.toList_ofList]
    exact trimmed_trim part
  · rw [String.toList_ofList]
    exact fun comma => not_mem_of_mem_splitOn among (mem_of_mem_trim comma)

theorem normal_content (trimmed : Trimmed cs) (wellFormed : WellFormed cs k)
    (speaks : Speaks cs k) (made : content cs k = some o) : o.Normal := by
  have filled {text : List Char} (some : text ≠ []) : String.ofList text ≠ "" :=
    fun empty => some (by simpa using congrArg String.toList empty)
  cases k <;> cases made
  case select =>
    exact ⟨speaks_select_iff.mp speaks, fun _ member => isField_of_mem_readFields member⟩
  case filter | orderby | expand => exact ⟨filled speaks, String.toList_ofList.symm ▸ trimmed⟩
  case search => exact filled (speaks_search_iff.mp speaks)
  case skip | top => exact wellFormed.2.2
  case count => trivial

end QueryOption

namespace Options

variable {os : Options} {pairs : List Pair} {headers : Headers} {reserved : List String}

structure Normal (reserved : List String) (os : Options) : Prop where
  ascending : Ascending os.entries
  kinds : ∀ entry ∈ os.entries, entry.2.kind = entry.1
  options : ∀ o ∈ os.toList, o.Normal
  headers : ∀ h ∈ os.headers, isHeaderName h.name = true ∧ isAmong reserved h.name = false

namespace Normal

variable (normal : os.Normal reserved)
include normal

theorem get?_eq_some_iff : os.get? k = some o ↔ (k, o) ∈ os.entries :=
  lookup_eq_some_iff normal.ascending

theorem kind_of_get? (found : os.get? k = some o) : o.kind = k :=
  normal.kinds (k, o) (normal.get?_eq_some_iff.mp found)

theorem entries_eq : os.entries = os.toList.map QueryOption.entry := by
  conv_lhs => rw [← List.map_id os.entries]
  rw [toList, List.map_map]
  exact List.map_congr_left fun entry member => Prod.ext (normal.kinds entry member).symm rfl

theorem mem_toList_iff : o ∈ os.toList ↔ os.get? o.kind = some o := by
  rw [toList, List.mem_map, normal.get?_eq_some_iff]
  constructor
  · rintro ⟨entry, member, rfl⟩
    rwa [normal.kinds entry member]
  · exact fun member => ⟨(o.kind, o), member, rfl⟩

end Normal

theorem ofPairs_normal (read : ofPairs pairs headers reserved = .ok os) : os.Normal reserved := by
  obtain ⟨admissible, valid, same⟩ := ofPairs_eq_ok_iff.mp read
  have ascending : Ascending os.entries := same ▸ ascending_ofList _ _
  have source {entry : Kind × QueryOption} (member : entry ∈ os.entries) :
      ∃ p, LastSet pairs entry.1 p ∧ QueryOption.content (value p) entry.1 = some entry.2 :=
    (get?_eq_some_iff_of_ofPairs read).mp ((lookup_eq_some_iff ascending).mpr member)
  refine ⟨ascending, fun entry member => ?_, fun o member => ?_, fun h member => ?_⟩
  · obtain ⟨p, _, made⟩ := source member
    exact QueryOption.kind_of_content made
  · obtain ⟨entry, among, rfl⟩ := List.mem_map.mp member
    obtain ⟨p, last, made⟩ := source among
    have wellFormed := admissible_iff.mp admissible p last.mem entry.1 last.sets.1
    exact QueryOption.normal_content (trimmed_trim _) wellFormed last.sets.2 made
  · rw [same, headers_ofList, List.mem_filter] at member
    exact ⟨valid h member.1, by simpa using member.2⟩

end Options
end EntityService.Query
