import EntityService.Proofs.Query.LastValue

/-! The term of a search. A value that begins and ends with a quote loses both, whether they belong
together or not. Of a single phrase its text is left, but where a value begins with one phrase and
ends with another one, each of them loses a quote. -/
namespace EntityService.Query

open Http QueryOption

/-- The text between two quotes. -/
def inQuotes (cs : List Char) : List Char := '"' :: (cs ++ ['"'])

/-- A backslash stands right before every quote. -/
def Escaped (cs : List Char) : Prop :=
  ∀ i < cs.length, cs[i]? = some '"' → 0 < i ∧ cs[i - 1]? = some '\\'

instance (cs : List Char) : Decidable (Escaped cs) := inferInstanceAs (Decidable (∀ _ < _, _))

/-- What a search expression asks for. A single phrase, in which other quotes are escaped, asks for
its text, and every other expression is left as it is. -/
inductive Asks : List Char → List Char → Prop where
  | phrase : Escaped text → Asks (inQuotes text) text
  | expression : (∀ text, Escaped text → cs ≠ inQuotes text) → Asks cs cs

variable {cs text term : List Char} {p : Pair} {pairs : List Pair} {os : Options}
  {headers : Headers} {reserved : List String} {query : String}

theorem inQuotes_injective : Function.Injective inQuotes := by
  intro cs text same
  simpa [inQuotes] using same

theorem inQuotes_ne_self (cs : List Char) : inQuotes cs ≠ cs := by
  intro same
  have lengths := congrArg List.length same
  simp only [inQuotes, List.length_cons, List.length_append] at lengths
  omega

theorem unquote_eq_iff : unquote cs = term ↔
    cs = inQuotes term ∨ (∀ text, cs ≠ inQuotes text) ∧ cs = term := by
  by_cases quoted : ∃ text, cs = inQuotes text
  · obtain ⟨text, rfl⟩ := quoted
    rw [inQuotes, unquote_quoted]
    constructor
    · rintro rfl
      exact .inl rfl
    · rintro (same | ⟨other, _⟩)
      · exact inQuotes_injective same
      · exact absurd rfl (other text)
  · rw [unquote_of_unquoted (not_exists.mp quoted)]
    constructor
    · intro same
      exact .inr ⟨not_exists.mp quoted, same⟩
    · rintro (same | ⟨_, same⟩)
      · exact absurd ⟨term, same⟩ quoted
      · exact same

/-- Taking the quotes off gives what is asked for, unless a quote inside is not escaped. -/
theorem asks_unquote_iff :
    Asks cs (unquote cs) ↔ ∀ text, cs = inQuotes text → Escaped text := by
  rcases unquote_eq_iff.mp rfl with quoted | ⟨unquoted, same⟩
  · generalize unquote cs = term at quoted
    subst quoted
    constructor
    · intro asks text same
      cases inQuotes_injective same
      generalize whole : inQuotes term = cs at asks
      cases asks with
      | phrase escaped => exact inQuotes_injective whole ▸ escaped
      | expression => exact absurd whole (inQuotes_ne_self term)
    · intro escaped
      exact .phrase (escaped term rfl)
  · rw [← same]
    constructor
    · intro _ text quoted
      exact absurd quoted (unquoted text)
    · intro _
      exact .expression fun text _ => unquoted text

namespace Options

theorem search_of_lastSet (read : ofPairs pairs headers reserved = .ok os)
    (last : LastSet pairs .search p) :
    os.get? .search = some (.search (String.ofList (unquote (value p)))) :=
  (get?_eq_some_iff_of_ofPairs read).mpr ⟨p, last, rfl⟩

/-- The search option comes from the last value that says something, less a quote at each end. That
is what the value asks for if and only if no quote between these two is without its backslash. -/
theorem search_asks_iff (read : ofPairs (readPairs query) headers reserved = .ok os) :
    (∀ term, os.get? .search = some (.search term) ↔
      ∃ p, LastSet (readPairs query) .search p ∧
        (value p = inQuotes term.toList ∨
          (∀ text, value p ≠ inQuotes text) ∧ value p = term.toList)) ∧
    ∀ p term, LastSet (readPairs query) .search p → os.get? .search = some (.search term) →
      (Asks (value p) term.toList ↔ ∀ text, value p = inQuotes text → Escaped text) := by
  constructor
  · intro term
    rw [get?_eq_some_iff_of_ofPairs read]
    refine exists_congr fun p => and_congr_right fun _ => ?_
    rw [← unquote_eq_iff, content, Option.some.injEq, QueryOption.search.injEq,
      ← String.toList_inj, String.toList_ofList]
  · intro p term last search
    rw [search_of_lastSet read last, Option.some.injEq, QueryOption.search.injEq] at search
    rw [← search, String.toList_ofList]
    exact asks_unquote_iff

/-- The words of a phrase are left, with the quotes that are escaped. -/
theorem search_asks_iff_phrase : ∃ os p,
    ofPairs (readPairs "$search=a&search= %22big %5C%22blue%5C%22%22") {} [] = .ok os ∧
    LastSet (readPairs "$search=a&search= %22big %5C%22blue%5C%22%22") .search p ∧
    value p = inQuotes "big \\\"blue\\\"".toList ∧
    os.get? .search = some (.search "big \\\"blue\\\"") ∧
    Asks (value p) "big \\\"blue\\\"".toList := by
  have pairs : readPairs "$search=a&search= %22big %5C%22blue%5C%22%22" =
      [("$search", "a"), ("search", " \"big \\\"blue\\\"\"")] := by
    decide
  have read : ofPairs (readPairs "$search=a&search= %22big %5C%22blue%5C%22%22") {} [] =
      .ok { entries := [(.search, .search "big \\\"blue\\\"")] } := by
    decide
  have quoted : value ("search", " \"big \\\"blue\\\"\"") =
      inQuotes "big \\\"blue\\\"".toList := by
    decide
  have last : LastSet (readPairs "$search=a&search= %22big %5C%22blue%5C%22%22") .search
      ("search", " \"big \\\"blue\\\"\"") := by
    refine ⟨[("$search", "a")], [], pairs, ⟨Kind.ofKey?_eq_some_iff.mp (by decide), ?_⟩, nofun⟩
    rw [quoted]
    exact ⟨by decide, by decide⟩
  obtain ⟨_, asks⟩ := search_asks_iff read
  refine ⟨_, _, read, last, quoted, rfl, (asks _ _ last rfl).mpr ?_⟩
  intro text same
  rw [← inQuotes_injective (quoted.symm.trans same)]
  decide

/-- Two phrases ask for something else than what is left of them. -/
theorem search_of_two_phrases : ∃ os p,
    Options.read "$search=%22blue%22 AND %22green%22" {} = .ok os ∧
    LastSet (readPairs "$search=%22blue%22 AND %22green%22") .search p ∧
    value p = "\"blue\" AND \"green\"".toList ∧
    Asks (value p) "\"blue\" AND \"green\"".toList ∧
    os.get? .search = some (.search "blue\" AND \"green") ∧
    ¬ Asks (value p) "blue\" AND \"green".toList := by
  have trimmed : value ("$search", "\"blue\" AND \"green\"") =
      inQuotes "blue\" AND \"green".toList := by
    decide
  have bare : ¬ Escaped "blue\" AND \"green".toList := by decide
  refine ⟨{ entries := [(.search, .search "blue\" AND \"green")] },
    ("$search", "\"blue\" AND \"green\""), by decide,
    ⟨[], [], by decide, ⟨Kind.ofKey?_eq_some_iff.mp (by decide), ?_⟩, nofun⟩, by decide, ?_, rfl, ?_⟩
  · rw [trimmed]
    exact ⟨by decide, by decide⟩
  · rw [trimmed]
    refine .expression fun text escaped same => bare ?_
    rwa [inQuotes_injective same]
  · rw [trimmed]
    intro asks
    have whole : unquote (inQuotes "blue\" AND \"green".toList) = "blue\" AND \"green".toList := by
      decide
    exact bare (asks_unquote_iff.mp (whole.symm ▸ asks) _ rfl)

end Options
end EntityService.Query
