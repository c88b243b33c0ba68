import EntityService.Proofs.Query.NormalForm
import EntityService.Proofs.Query.Pairs

/-! Options that are written to a query string and read from it. A normal option is read back from
its value, so all options of a request come back, in whatever order they are written. -/
namespace EntityService.Query

open Text Http Outcome

variable {cs : List Char} {k : Kind} {o : QueryOption} {os : Options} {options : List QueryOption}

theorem not_blank_of_digit {c : Char} (digit : c.isDigit = true) : isBlank c = false := by
  obtain ⟨low, high⟩ : 0x30 ≤ c.toNat ∧ c.toNat ≤ 0x39 := Char.isDigit_iff_toNat.mp digit
  simp only [isBlank, inRanges, blankRanges, List.any_cons, List.any_nil, Bool.or_false,
    Bool.or_eq_false_iff, Bool.and_eq_false_imp, decide_eq_true_eq, decide_eq_false_iff_not]
  omega

namespace Kind

theorem ofKey?_key (option : k ≠ .header) : ofKey? k.key = some k := by
  cases k <;> first | decide | contradiction

end Kind

namespace QueryOption

theorem readFields_intercalate {fields : List String} (some : fields ≠ [])
    (each : ∀ field ∈ fields, IsField field) :
    readFields ([','].intercalate (fields.map String.toList)) = fields := by
  have parts : ∀ part ∈ fields.map String.toList, ',' ∉ part ∧ trim part = part ∧ part ≠ [] := by
    intro part member
    obtain ⟨field, among, rfl⟩ := List.mem_map.mp member
    have field := each field among
    exact ⟨field.whole, field.trimmed.trim_eq, by simpa using field.filled⟩
  have trimmed : (fields.map String.toList).map trim = fields.map String.toList :=
    (List.map_congr_left fun part member => (parts part member).2.1).trans (List.map_id' _)
  rw [readFields, List.splitOn_intercalate ',' (fun part member => (parts part member).1)
    (by simpa using some), trimmed,
    List.filter_eq_self.mpr fun part member => by simpa using (parts part member).2.2, List.map_map]
  exact List.map_id'' (fun _ => String.ofList_toList) _

theorem readAmount?_repr {amount : Nat} (small : amount < amountBound) :
    readAmount? (trim amount.repr.toList) = some amount := by
  have trimmed : Trimmed amount.repr.toList :=
    .of_forall fun c member => not_blank_of_digit (isDigit_of_mem_repr member)
  have value := ofDigitChars_repr amount
  rw [trimmed.trim_eq, readAmount?_eq_some_iff]
  refine ⟨⟨?_, fun c member => isDigit_of_mem_repr member, value.symm ▸ small⟩, value⟩
  simp

theorem ofText_trim {text : String} (make : String → QueryOption) (filled : text ≠ "")
    (trimmed : Trimmed text.toList) : ofText make (trim text.toList) = some (make text) := by
  have some : text.toList ≠ [] := by simpa using filled
  rw [trimmed.trim_eq, ofText_eq, if_neg some, String.ofList_toList]

theorem read_valueText (normal : o.Normal) :
    QueryOption.read o.kind o.valueText = .ok (some o) := by
  suffices ofTrimmed? (trim o.valueText.toList) o.kind = some (some o) by
    rw [QueryOption.read, this]
  cases o with
  | select fields =>
    obtain ⟨some, each⟩ := normal
    have trimmed : Trimmed ([','].intercalate (fields.map String.toList)) := by
      refine .intercalate fun part member => ?_
      obtain ⟨field, among, rfl⟩ := List.mem_map.mp member
      exact ⟨(each field among).trimmed, by simpa using (each field among).filled⟩
    rw [valueText, String.toList_intercalate, show ",".toList = [','] from rfl, trimmed.trim_eq,
      kind, ofTrimmed?, readFields_intercalate some each]
    simpa using some
  | filter | orderby | expand => exact congrArg some (ofText_trim _ normal.1 normal.2)
  | search term =>
    have trimmed : Trimmed ('"' :: (term.toList ++ ['"'])) :=
      ⟨by rintro _ ⟨⟩; decide, by rw [← List.cons_append, List.getLast?_concat]; rintro _ ⟨⟩; decide⟩
    have filled : term ≠ "" := normal
    have some : term.toList ≠ [] := by simpa using filled
    have written : (valueText (.search term)).toList = '"' :: (term.toList ++ ['"']) := by
      simp [valueText, String.toList_append]
    rw [written, trimmed.trim_eq, kind, ofTrimmed?, unquote_quoted, ofText_eq, if_neg some,
      String.ofList_toList]
  | skip amount | top amount =>
    rw [valueText, kind, ofTrimmed?, readAmount?_repr normal]
    rfl
  | count flag => cases flag <;> decide

end QueryOption

namespace Options

variable {query : String} {headers : Headers} {reserved : List String}

theorem readAll_toPairs (normal : ∀ o ∈ options, o.Normal) :
    readAll (toPairs options) = .ok (options.map QueryOption.entry) := by
  induction options with
  | nil => rfl
  | cons o options ih =>
    obtain ⟨first, rest⟩ := List.forall_mem_cons.mp normal
    have keyed : o.kind.HasKey o.kind.key :=
      Kind.ofKey?_eq_some_iff.mp (Kind.ofKey?_key o.kind_ne_header)
    have later := ih rest
    rw [toPairs] at later
    rw [toPairs, List.map_cons, readAll_cons_of_keyed keyed, QueryOption.read_valueText first, later]
    rfl

/-- Options of different kinds do not take each other's place. -/
theorem ofList_of_perm (normal : os.Normal reserved) (order : options.Perm os.toList) :
    ofList (options.map QueryOption.entry) os.headers = os := by
  refine ext_get? (ascending_ofList _ _) normal.ascending (fun k => ?_) (headers_ofList _ _)
  rw [get?_ofList]
  -- There is one option of a kind at most, so the last one of the kind is the one that is there.
  cases found : (options.map QueryOption.entry).reverse.find? (·.1 == k) with
  | some entry =>
    have member := List.mem_reverse.mp (List.mem_of_find?_eq_some found)
    obtain ⟨o, among, rfl⟩ := List.mem_map.mp member
    have kind : o.kind = k := by simpa [QueryOption.entry] using List.find?_some found
    exact (kind ▸ normal.mem_toList_iff.mp (order.subset among)).symm
  | none =>
    symm
    rw [Option.map_none, Option.eq_none_iff_forall_ne_some]
    intro o there
    have kind := normal.kind_of_get? there
    have among := order.symm.subset (normal.mem_toList_iff.mpr (kind ▸ there))
    have member : o.entry ∈ (options.map QueryOption.entry).reverse :=
      List.mem_reverse.mpr (List.mem_map_of_mem among)
    simpa [QueryOption.entry, kind] using List.find?_eq_none.mp found o.entry member

theorem ofPairs_toPairs (normal : os.Normal reserved) (order : options.Perm os.toList) :
    ofPairs (toPairs options) ⟨os.headers⟩ reserved = .ok os := by
  have each := readAll_toPairs fun o member => normal.options o (order.subset member)
  have kept : chosen reserved os.headers = .ok os.headers :=
    chosen_eq_ok_iff.mpr ⟨fun h member => (normal.headers h member).1,
      (List.filter_eq_self.mpr fun h member => by simp [(normal.headers h member).2]).symm⟩
  rw [ofPairs, each]
  change (do return ofList (options.map QueryOption.entry) (← chosen reserved os.headers)) = _
  rw [kept]
  exact congrArg Except.ok (ofList_of_perm normal order)

/-- What has been read from a request and is written again, in any order, is read as the same. -/
theorem read_writePairs (read : Options.read query headers = .ok os)
    (order : options.Perm os.toList) :
    Options.read (writePairs (toPairs options)) ⟨os.headers⟩ = .ok os := by
  rw [Options.read, readPairs_writePairs]
  exact ofPairs_toPairs (ofPairs_normal read) order

/-- What a request for the members of a café has asked for. -/
def cafe : Options :=
  { entries := [(.select, .select ["id", "name"]), (.search, .search "café bar"), (.top, .top 7)]
    headers := [⟨"Prefer", "plain"⟩] }

/-- Blanks, letter case, leading zeros and reserved headers are gone after the first reading. -/
theorem read_writePairs_cafe :
    Options.read "$filter=&search=%22caf%C3%A9 bar%22&$Top=007&$select=id, name"
      ⟨[⟨"Prefer", "plain"⟩, ⟨"authorization", "none"⟩]⟩ = .ok cafe ∧
    [QueryOption.top 7, .search "café bar", .select ["id", "name"]].Perm cafe.toList ∧
    writePairs (toPairs [.top 7, .search "café bar", .select ["id", "name"]]) =
      "%24top=7&%24search=%22caf%C3%A9%20bar%22&%24select=id%2Cname" ∧
    Options.read "%24top=7&%24search=%22caf%C3%A9%20bar%22&%24select=id%2Cname"
      ⟨[⟨"Prefer", "plain"⟩]⟩ = .ok cafe := by
  have read : Options.read "$filter=&search=%22caf%C3%A9 bar%22&$Top=007&$select=id, name"
      ⟨[⟨"Prefer", "plain"⟩, ⟨"authorization", "none"⟩]⟩ = .ok cafe := by
    decide
  have order : [QueryOption.top 7, .search "café bar", .select ["id", "name"]].Perm
      cafe.toList := by
    decide
  have written : writePairs (toPairs [.top 7, .search "café bar", .select ["id", "name"]]) =
      "%24top=7&%24search=%22caf%C3%A9%20bar%22&%24select=id%2Cname" := by
    decide
  have again := read_writePairs read order
  rw [written] at again
  exact ⟨read, order, written, again⟩

end Options
end EntityService.Query
