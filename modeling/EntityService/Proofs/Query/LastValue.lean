import EntityService.Proofs.Outcome
import EntityService.Proofs.Query.Entries
import EntityService.Proofs.Query.Values
import Mathlib.Data.Option.Basic

/-! What a whole query sets. Every pair with a known key has to be well formed, whether or not a
later one takes its place, and of those with the same kind the last one that says something counts.
All other pairs do not matter. -/
namespace EntityService.Query

open Http Outcome QueryOption

/-- The value of a pair without the blanks at its ends. -/
def value (p : Pair) : List Char := Text.trim p.2.toList

/-- The pair has a key of the kind and a value that the kind does not admit. -/
def Malformed (p : Pair) (k : Kind) : Prop := k.HasKey p.1 ∧ ¬ WellFormed (value p) k

/-- The pair has a key of the kind and a value that says something. -/
def Sets (p : Pair) (k : Kind) : Prop := k.HasKey p.1 ∧ Speaks (value p) k

def Admissible (pairs : List Pair) : Prop := ∀ p ∈ pairs, ∀ k, ¬ Malformed p k

def FirstMalformed (pairs : List Pair) (p : Pair) (k : Kind) : Prop :=
  ∃ before after, pairs = before ++ p :: after ∧ Malformed p k ∧ Admissible before

def LastSet (pairs : List Pair) (k : Kind) (p : Pair) : Prop :=
  ∃ before after, pairs = before ++ p :: after ∧ Sets p k ∧ ∀ q ∈ after, ¬ Sets q k

/-- The entry that a pair makes, under the kind of its key. -/
def said? (p : Pair) : Option (Kind × QueryOption) :=
  (Kind.ofKey? p.1).bind fun k => (ofTrimmed? (value p) k).join.map (k, ·)

variable {p : Pair} {k : Kind} {pairs before after : List Pair} {os : Options}

theorem LastSet.sets (last : LastSet pairs k p) : Sets p k := by
  obtain ⟨_, _, _, sets, _⟩ := last
  exact sets

theorem LastSet.mem (last : LastSet pairs k p) : p ∈ pairs := by
  obtain ⟨before, after, rfl, _, _⟩ := last
  exact List.mem_append_right before List.mem_cons_self

theorem wellFormed_of_keyed (admissible : ∀ k, ¬ Malformed p k) (keyed : k.HasKey p.1) :
    WellFormed (value p) k :=
  not_not.mp fun ill => admissible k ⟨keyed, ill⟩

theorem admissible_iff :
    Admissible pairs ↔ ∀ p ∈ pairs, ∀ k : Kind, k.HasKey p.1 → WellFormed (value p) k := by
  simp only [Admissible, Malformed, not_and, not_not]

theorem read_of_malformed (malformed : Malformed p k) :
    QueryOption.read k p.2 = .error (.malformedOption k p.2) := by
  have none : ofTrimmed? (Text.trim p.2.toList) k = none := ofTrimmed?_of_malformed malformed.2
  rw [QueryOption.read, none]

theorem read_of_wellFormed (keyed : k.HasKey p.1) (wellFormed : WellFormed (value p) k) :
    ∃ option, QueryOption.read k p.2 = .ok option ∧ option.map (k, ·) = said? p := by
  rw [said?, Kind.ofKey?_eq_some_iff.mpr keyed, QueryOption.read]
  by_cases speaks : Speaks (value p) k
  · have some := ofTrimmed?_of_speaks wellFormed speaks
    rw [Option.bind_some, some, ← value, some]
    exact ⟨_, rfl, rfl⟩
  · have none := ofTrimmed?_of_silent wellFormed speaks
    rw [Option.bind_some, none, ← value, none]
    exact ⟨_, rfl, rfl⟩

theorem said?_eq_some_iff (admissible : ∀ k, ¬ Malformed p k) {o : QueryOption} :
    said? p = some (k, o) ↔ Sets p k ∧ content (value p) k = some o := by
  simp only [said?, Option.bind_eq_some_iff, Option.map_eq_some_iff, Option.join_eq_some_iff,
    Prod.mk.injEq, Kind.ofKey?_eq_some_iff]
  constructor
  · rintro ⟨k, keyed, _, made, rfl, rfl⟩
    have wellFormed := wellFormed_of_keyed admissible keyed
    by_cases speaks : Speaks (value p) k
    · rw [ofTrimmed?_of_speaks wellFormed speaks] at made
      exact ⟨⟨keyed, speaks⟩, Option.some.inj made⟩
    · rw [ofTrimmed?_of_silent wellFormed speaks] at made
      cases made
  · rintro ⟨⟨keyed, speaks⟩, made⟩
    have wellFormed := wellFormed_of_keyed admissible keyed
    refine ⟨k, keyed, o, ?_, rfl, rfl⟩
    rw [ofTrimmed?_of_speaks wellFormed speaks, made]

/-- An entry of the kind is made exactly by the pairs that set it. -/
theorem any_said?_iff (admissible : ∀ k, ¬ Malformed p k) :
    (said? p).any (·.1 == k) = true ↔ Sets p k := by
  simp only [Option.any_eq_true, Prod.exists, said?_eq_some_iff admissible, beq_iff_eq]
  constructor
  · rintro ⟨_, o, ⟨sets, _⟩, rfl⟩
    exact sets
  · intro sets
    obtain ⟨o, made⟩ := exists_content sets.2
    exact ⟨k, o, ⟨sets, made⟩, rfl⟩

theorem unkeyed_or_keyed (p : Pair) :
    (∀ k : Kind, ¬ k.HasKey p.1) ∨ ∃ k : Kind, k.HasKey p.1 :=
  (em (∃ k : Kind, k.HasKey p.1)).symm.imp_left not_exists.mp

namespace Options

theorem readAll_cons_of_unkeyed (unkeyed : ∀ k : Kind, ¬ k.HasKey p.1) (pairs : List Pair) :
    readAll (p :: pairs) = readAll pairs := by
  have none : Kind.ofKey? p.1 = none :=
    Option.eq_none_iff_forall_ne_some.mpr fun k keyed =>
      unkeyed k (Kind.ofKey?_eq_some_iff.mp keyed)
  conv_lhs => unfold readAll
  rw [none]

theorem readAll_cons_of_keyed (keyed : k.HasKey p.1) (pairs : List Pair) :
    readAll (p :: pairs) = do
      let option ← QueryOption.read k p.2
      let entries ← readAll pairs
      return (option.map (k, ·)).toList ++ entries := by
  conv_lhs => unfold readAll
  rw [Kind.ofKey?_eq_some_iff.mpr keyed]

theorem readAll_cons_of_malformed (malformed : Malformed p k) (pairs : List Pair) :
    readAll (p :: pairs) = .error (.malformedOption k p.2) := by
  rw [readAll_cons_of_keyed malformed.1, read_of_malformed malformed]
  rfl

theorem readAll_cons_of_admissible (admissible : ∀ k, ¬ Malformed p k) (pairs : List Pair) :
    readAll (p :: pairs) = (readAll pairs).map ((said? p).toList ++ ·) := by
  rcases unkeyed_or_keyed p with unkeyed | ⟨k, keyed⟩
  · have silent : said? p = none := Option.eq_none_iff_forall_ne_some.mpr fun entry said =>
      unkeyed entry.1 ((said?_eq_some_iff admissible).mp said).1.1
    rw [readAll_cons_of_unkeyed unkeyed, silent]
    cases readAll pairs <;> rfl
  · have wellFormed := wellFormed_of_keyed admissible keyed
    obtain ⟨option, read, said⟩ := read_of_wellFormed keyed wellFormed
    rw [readAll_cons_of_keyed keyed, read, ← said]
    cases readAll pairs <;> rfl

theorem readAll_append_of_admissible (admissible : Admissible before) (after : List Pair) :
    readAll (before ++ after) = (readAll after).map (before.filterMap said? ++ ·) := by
  induction before with
  | nil => cases h : readAll after <;> simp [h, Except.map]
  | cons p before ih =>
    obtain ⟨first, rest⟩ := List.forall_mem_cons.mp admissible
    rw [List.cons_append, readAll_cons_of_admissible first, ih rest]
    cases readAll after with
    | error e => simp only [Except.map]
    | ok entries => cases said : said? p <;> simp [Except.map, said]

theorem readAll_of_admissible (admissible : Admissible pairs) :
    readAll pairs = .ok (pairs.filterMap said?) := by
  have whole := readAll_append_of_admissible admissible []
  rw [List.append_nil, show readAll [] = .ok [] from rfl] at whole
  simpa only [Except.map, List.append_nil] using whole

theorem readAll_of_firstMalformed (first : FirstMalformed pairs p k) :
    readAll pairs = .error (.malformedOption k p.2) := by
  obtain ⟨before, after, rfl, malformed, admissible⟩ := first
  rw [readAll_append_of_admissible admissible, readAll_cons_of_malformed malformed]
  rfl

theorem admissible_or_firstMalformed (pairs : List Pair) :
    Admissible pairs ∨ ∃ p k, FirstMalformed pairs p k := by
  induction pairs with
  | nil => exact .inl fun _ none => absurd none List.not_mem_nil
  | cons p pairs ih =>
    by_cases malformed : ∃ k, Malformed p k
    · obtain ⟨k, malformed⟩ := malformed
      exact .inr ⟨p, k, [], pairs, rfl, malformed, fun _ none => absurd none List.not_mem_nil⟩
    have first := not_exists.mp malformed
    rcases ih with rest | ⟨q, k, before, after, rfl, malformed, rest⟩
    · exact .inl (List.forall_mem_cons.mpr ⟨first, rest⟩)
    · exact .inr ⟨q, k, p :: before, after, rfl, malformed, List.forall_mem_cons.mpr ⟨first, rest⟩⟩

theorem readAll_eq_error_iff {e : QueryError} : readAll pairs = .error e ↔
    ∃ p k, FirstMalformed pairs p k ∧ e = .malformedOption k p.2 := by
  constructor
  · intro failed
    rcases admissible_or_firstMalformed pairs with admissible | ⟨p, k, first⟩
    · rw [readAll_of_admissible admissible] at failed
      cases failed
    · rw [readAll_of_firstMalformed first] at failed
      cases failed
      exact ⟨p, k, first, rfl⟩
  · rintro ⟨p, k, first, rfl⟩
    exact readAll_of_firstMalformed first

theorem readAll_eq_ok_iff {entries : List (Kind × QueryOption)} :
    readAll pairs = .ok entries ↔ Admissible pairs ∧ entries = pairs.filterMap said? := by
  constructor
  · intro succeeded
    rcases admissible_or_firstMalformed pairs with admissible | ⟨p, k, first⟩
    · rw [readAll_of_admissible admissible] at succeeded
      cases succeeded
      exact ⟨admissible, rfl⟩
    · rw [readAll_of_firstMalformed first] at succeeded
      cases succeeded
  · rintro ⟨admissible, rfl⟩
    exact readAll_of_admissible admissible

section Headers

variable {reserved : List String} {hs kept : List Header}

theorem chosen_of_valid (valid : ∀ h ∈ hs, isHeaderName h.name = true) :
    chosen reserved hs = .ok (hs.filter fun h => !isAmong reserved h.name) := by
  induction hs with
  | nil => rfl
  | cons h hs ih =>
    obtain ⟨first, rest⟩ := List.forall_mem_cons.mp valid
    simp only [chosen, first, if_true, ih rest, bind, Except.bind, pure, Except.pure]
    cases among : isAmong reserved h.name <;> simp [among]

theorem chosen_of_invalid (invalid : ∃ h ∈ hs, isHeaderName h.name = false) :
    chosen reserved hs = .error .invalidHeaderName := by
  induction hs with
  | nil => simp at invalid
  | cons h hs ih =>
    cases first : isHeaderName h.name with
    | false => simp [chosen, first]
    | true =>
      have rest : ∃ h ∈ hs, isHeaderName h.name = false := by
        obtain ⟨other, member, invalid⟩ := invalid
        rcases List.mem_cons.mp member with rfl | later
        · simp [first] at invalid
        · exact ⟨other, later, invalid⟩
      simp only [chosen, first, if_true, ih rest, bind, Except.bind]

theorem valid_or_invalid (hs : List Header) : (∀ h ∈ hs, isHeaderName h.name = true) ∨
    ∃ h ∈ hs, isHeaderName h.name = false := by
  by_cases valid : ∀ h ∈ hs, isHeaderName h.name = true
  · exact .inl valid
  · push Not at valid
    exact .inr (by simpa using valid)

theorem chosen_eq_ok_iff : chosen reserved hs = .ok kept ↔
    (∀ h ∈ hs, isHeaderName h.name = true) ∧ kept = hs.filter fun h => !isAmong reserved h.name := by
  rcases valid_or_invalid hs with valid | invalid
  · rw [chosen_of_valid valid, Except.ok.injEq]
    exact ⟨fun same => ⟨valid, same.symm⟩, fun both => both.2.symm⟩
  · rw [chosen_of_invalid invalid]
    obtain ⟨h, member, invalid⟩ := invalid
    refine ⟨nofun, fun both => ?_⟩
    simp [both.1 h member] at invalid

theorem chosen_eq_error_iff {e : QueryError} : chosen reserved hs = .error e ↔
    (∃ h ∈ hs, isHeaderName h.name = false) ∧ e = .invalidHeaderName := by
  rcases valid_or_invalid hs with valid | invalid
  · rw [chosen_of_valid valid]
    refine ⟨nofun, fun ⟨⟨h, member, invalid⟩, _⟩ => ?_⟩
    simp [valid h member] at invalid
  · rw [chosen_of_invalid invalid, Except.error.injEq]
    exact ⟨fun same => ⟨invalid, same.symm⟩, fun both => both.2.symm⟩

end Headers

theorem lastSet_iff (admissible : Admissible pairs) : LastSet pairs k p ↔
    pairs.reverse.find? (fun q => (said? q).any (·.1 == k)) = some p := by
  have sets : ∀ q ∈ pairs, (said? q).any (·.1 == k) = true ↔ Sets q k :=
    fun q member => any_said?_iff (admissible q member)
  rw [List.find?_eq_some_iff_append]
  constructor
  · rintro ⟨before, after, rfl, last, silent⟩
    refine ⟨(sets p (by simp)).mpr last, after.reverse, before.reverse, by simp, fun q member => ?_⟩
    have member := List.mem_reverse.mp member
    rw [Bool.not_eq_true', ← Bool.not_eq_true, sets q (by simp [member])]
    exact silent q member
  · rintro ⟨last, after, before, reversed, silent⟩
    have whole : pairs = before.reverse ++ p :: after.reverse := by
      rw [← List.reverse_reverse pairs, reversed]
      simp
    subst whole
    refine ⟨before.reverse, after.reverse, rfl, (sets p (by simp)).mp last, fun q member => ?_⟩
    have unsaid := silent q (List.mem_reverse.mp member)
    rwa [Bool.not_eq_true', ← Bool.not_eq_true, sets q (by simp_all)] at unsaid

theorem get?_ofList_eq_some_iff (admissible : Admissible pairs) {hs : List Header}
    {o : QueryOption} : (ofList (pairs.filterMap said?) hs).get? k = some o ↔
      ∃ p, LastSet pairs k p ∧ content (value p) k = some o := by
  simp only [get?_ofList, ← List.filterMap_reverse, List.find?_filterMap, Option.map_eq_some_iff,
    Option.bind_eq_some_iff, ← lastSet_iff admissible]
  constructor
  · rintro ⟨⟨other, o⟩, ⟨p, last, said⟩, rfl⟩
    obtain ⟨again, made⟩ := (said?_eq_some_iff (admissible p last.mem)).mp said
    rw [again.1.unique last.sets.1] at made
    exact ⟨p, last, made⟩
  · rintro ⟨p, last, made⟩
    have said := (said?_eq_some_iff (admissible p last.mem)).mpr ⟨last.sets, made⟩
    exact ⟨(k, o), ⟨p, last, said⟩, rfl⟩

theorem exists_lastSet_iff : (∃ p, LastSet pairs k p) ↔ ∃ p ∈ pairs, Sets p k := by
  constructor
  · rintro ⟨p, last⟩
    exact ⟨p, last.mem, last.sets⟩
  · intro set
    induction pairs with
    | nil => simp at set
    | cons q pairs ih =>
      by_cases later : ∃ p ∈ pairs, Sets p k
      · obtain ⟨p, before, after, rfl, last⟩ := ih later
        exact ⟨p, q :: before, after, rfl, last⟩
      · obtain ⟨p, member, sets⟩ := set
        rcases List.mem_cons.mp member with rfl | among
        · exact ⟨p, [], pairs, rfl, sets, fun q among sets => later ⟨q, among, sets⟩⟩
        · exact absurd ⟨p, among, sets⟩ later

theorem get?_ofList_eq_none_iff (admissible : Admissible pairs) {hs : List Header} :
    (ofList (pairs.filterMap said?) hs).get? k = none ↔
      ∀ p ∈ pairs, k.HasKey p.1 → ¬ Speaks (value p) k := by
  have set : (∃ p, LastSet pairs k p) ↔ ∃ p ∈ pairs, Sets p k := exists_lastSet_iff
  simp only [Option.eq_none_iff_forall_ne_some, ne_eq, get?_ofList_eq_some_iff admissible]
  constructor
  · intro unset p member keyed speaks
    obtain ⟨p, last⟩ := set.mpr ⟨p, member, keyed, speaks⟩
    obtain ⟨o, made⟩ := exists_content last.sets.2
    exact unset o ⟨p, last, made⟩
  · rintro silent o ⟨p, last, _⟩
    obtain ⟨p, member, keyed, speaks⟩ := set.mp ⟨p, last⟩
    exact silent p member keyed speaks

section Whole

variable {headers : Headers} {reserved : List String}

theorem ofPairs_eq_ok_iff : ofPairs pairs headers reserved = .ok os ↔
    Admissible pairs ∧ (∀ h ∈ headers.entries, isHeaderName h.name = true) ∧
      os = ofList (pairs.filterMap said?)
        (headers.entries.filter fun h => !isAmong reserved h.name) := by
  simp only [ofPairs, bind_eq_ok_iff, pure_eq_ok_iff, readAll_eq_ok_iff, chosen_eq_ok_iff]
  constructor
  · rintro ⟨_, ⟨admissible, rfl⟩, _, ⟨valid, rfl⟩, rfl⟩
    exact ⟨admissible, valid, rfl⟩
  · rintro ⟨admissible, valid, rfl⟩
    exact ⟨_, ⟨admissible, rfl⟩, _, ⟨valid, rfl⟩, rfl⟩

/-- The option of a kind is the content of the last value that says something. -/
theorem get?_eq_some_iff_of_ofPairs (read : ofPairs pairs headers reserved = .ok os)
    {o : QueryOption} :
    os.get? k = some o ↔ ∃ p, LastSet pairs k p ∧ content (value p) k = some o := by
  obtain ⟨admissible, _, rfl⟩ := ofPairs_eq_ok_iff.mp read
  exact get?_ofList_eq_some_iff admissible

theorem ofPairs_eq_error_iff {e : QueryError} : ofPairs pairs headers reserved = .error e ↔
    (∃ p k, FirstMalformed pairs p k ∧ e = .malformedOption k p.2) ∨
      Admissible pairs ∧ (∃ h ∈ headers.entries, isHeaderName h.name = false) ∧
        e = .invalidHeaderName := by
  simp only [ofPairs, bind_eq_error_iff, readAll_eq_error_iff, readAll_eq_ok_iff,
    chosen_eq_error_iff, pure, Except.pure]
  refine or_congr_right ⟨?_, ?_⟩
  · rintro ⟨_, ⟨admissible, rfl⟩, invalid | ⟨_, _, absurd⟩⟩
    · exact ⟨admissible, invalid⟩
    · cases absurd
  · rintro ⟨admissible, invalid⟩
    exact ⟨_, ⟨admissible, rfl⟩, .inl invalid⟩

/-- A pair without a known key might as well not be there. -/
theorem readAll_of_unkeyed (unkeyed : ∀ k : Kind, ¬ k.HasKey p.1) (before after : List Pair) :
    readAll (before ++ p :: after) = readAll (before ++ after) := by
  induction before with
  | nil => exact readAll_cons_of_unkeyed unkeyed after
  | cons q before ih =>
    rw [List.cons_append, List.cons_append]
    rcases unkeyed_or_keyed q with other | ⟨k, keyed⟩
    · rw [readAll_cons_of_unkeyed other, readAll_cons_of_unkeyed other, ih]
    · rw [readAll_cons_of_keyed keyed, readAll_cons_of_keyed keyed, ih]

/-- A query is understood exactly when all pairs with known keys are well formed and all header
names are valid, and otherwise the first malformed pair is reported before any header. Of every kind
the last pair that says something is kept; where two queries agree on these, they give the same
options. -/
theorem ofPairs_keeps_last (pairs : List Pair) (headers : Headers) (reserved : List String) :
    ((∃ os, ofPairs pairs headers reserved = .ok os) ↔
      (∀ p ∈ pairs, ∀ k : Kind, k.HasKey p.1 → WellFormed (value p) k) ∧
        ∀ h ∈ headers.entries, isHeaderName h.name = true) ∧
    (∀ e, ofPairs pairs headers reserved = .error e ↔
      (∃ p k, FirstMalformed pairs p k ∧ e = .malformedOption k p.2) ∨
        Admissible pairs ∧ (∃ h ∈ headers.entries, isHeaderName h.name = false) ∧
          e = .invalidHeaderName) ∧
    (∀ os, ofPairs pairs headers reserved = .ok os →
      (∀ k o, os.get? k = some o ↔ ∃ p, LastSet pairs k p ∧ content (value p) k = some o) ∧
      (∀ k, os.get? k = none ↔ ∀ p ∈ pairs, k.HasKey p.1 → ¬ Speaks (value p) k) ∧
      os.headers = headers.entries.filter fun h => !isAmong reserved h.name) ∧
    (∀ before p after, pairs = before ++ p :: after → (∀ k : Kind, ¬ k.HasKey p.1) →
      ofPairs pairs headers reserved = ofPairs (before ++ after) headers reserved) ∧
    ∀ others os same, ofPairs pairs headers reserved = .ok os →
      ofPairs others headers reserved = .ok same →
      (∀ k cs, (∃ p, LastSet pairs k p ∧ value p = cs) ↔ ∃ p, LastSet others k p ∧ value p = cs) →
      os = same := by
  refine ⟨?_, fun e => ofPairs_eq_error_iff, ?_, ?_, ?_⟩
  · simp only [ofPairs_eq_ok_iff, admissible_iff, exists_and_left, exists_eq, and_true]
  · intro os succeeded
    obtain ⟨admissible, _, rfl⟩ := ofPairs_eq_ok_iff.mp succeeded
    exact ⟨fun k o => get?_ofList_eq_some_iff admissible,
      fun k => get?_ofList_eq_none_iff admissible, headers_ofList _ _⟩
  · rintro before p after rfl unkeyed
    rw [ofPairs, ofPairs, readAll_of_unkeyed unkeyed]
  · intro others os same succeeded again agree
    obtain ⟨admissible, _, rfl⟩ := ofPairs_eq_ok_iff.mp succeeded
    obtain ⟨alike, _, rfl⟩ := ofPairs_eq_ok_iff.mp again
    refine ext_get? (ascending_ofList _ _) (ascending_ofList _ _)
      (fun k => Option.ext fun o => ?_) ((headers_ofList _ _).trans (headers_ofList _ _).symm)
    rw [get?_ofList_eq_some_iff admissible, get?_ofList_eq_some_iff alike]
    constructor
    · rintro ⟨p, last, made⟩
      obtain ⟨q, last, same⟩ := (agree k _).mp ⟨p, last, rfl⟩
      exact ⟨q, last, same ▸ made⟩
    · rintro ⟨q, last, made⟩
      obtain ⟨p, last, same⟩ := (agree k _).mpr ⟨q, last, rfl⟩
      exact ⟨p, last, same ▸ made⟩

/-- The last filter says nothing, so the one before it is kept. -/
example : (ofPairs [("$filter", "a"), ("FILTER", " b "), ("filter", " "), ("page", "3")] {} []).map
    (·.get? .filter) = .ok (some (.filter "b")) := by
  decide

end Whole

end Options
end EntityService.Query
