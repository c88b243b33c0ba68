import EntityService.Proofs.Query.Pairs
import EntityService.Request.Decomposition

/-! URLs taken apart. Whatever the elements of a path and the pairs of a query hold, they are found
again in every URL that has them in it with their texts percent-encoded, and no URL has an empty
element. -/
namespace EntityService.Request

open Text Percent Query Outcome

/-- The URL has these elements and pairs in it, each text encoded in some way. Slashes stand before
elements and ampersands between pairs; without pairs there is no query. -/
structure Encodes (url : Url) (parts : Decomposition) : Prop where
  path : ∃ written, List.Forall₂ Writes parts.path written ∧
    url.path = String.ofList ('/' :: ['/'].intercalate written)
  query : ∃ written, List.Forall₂ WritesPair parts.query written ∧
    url.query = if parts.query = [] then none
      else some (String.ofList (['&'].intercalate written))

variable {url : Url} {root : Option Url} {parts : Decomposition} {path : List String}
  {written : List (List Char)}

theorem elements_of_writes (each : List.Forall₂ Writes path written) (filled : "" ∉ path) :
    elements ('/' :: ['/'].intercalate written) = path := by
  have kept : ∀ cs ∈ written, (!cs.isEmpty) = true := by
    intro cs member
    obtain ⟨text, among, writes⟩ := exists_part_of_mem each member
    simpa using writes.ne_nil fun empty => filled (empty ▸ among)
  have apart : ∀ cs ∈ written, '/' ∉ cs := by
    intro cs member
    obtain ⟨text, _, writes⟩ := exists_part_of_mem each member
    exact writes.not_mem (by decide) (by decide)
  have read : path.map id = written.map decoded :=
    map_eq_of_forall₂ each fun text cs writes => writes.decoded_eq.symm
  rw [List.map_id] at read
  rw [elements, List.splitOn_cons_eq_if_modifyHead, read]
  by_cases empty : written = []
  · subst empty
    rfl
  · simp [List.splitOn_intercalate '/' apart empty, List.filter_eq_self.mpr kept]

theorem not_mem_elements (path : List Char) : "" ∉ elements path := by
  intro member
  obtain ⟨part, kept, empty⟩ := List.mem_map.mp member
  have some : part ≠ [] := by simpa using (List.mem_filter.mp kept).2
  exact decoded_ne_empty some empty

/-- Taking apart undoes percent-encoding. It finds the elements and pairs that are encoded in a URL,
and an element that is not empty in any URL. -/
theorem decompose_undoes_encoding :
    (∀ url parts, Encodes url parts → "" ∉ parts.path → decompose url none = .ok parts) ∧
      ∀ url root parts, decompose url root = .ok parts → "" ∉ parts.path := by
  constructor
  · intro url parts encodes filled
    obtain ⟨written, each, path⟩ := encodes.path
    obtain ⟨pairs, both, query⟩ := encodes.query
    have elements : elements url.path.toList = parts.path := by
      rw [path, String.toList_ofList, elements_of_writes each filled]
    have read : readPairs (url.query.getD "") = parts.query := by
      rw [query]
      split
      · rename_i none
        rw [none]
        rfl
      · exact readPairs_of_writes both
    change Except.ok (Decomposition.mk _ _) = _
    rw [elements, read]
  · intro url root parts decomposed
    obtain ⟨path, _, rfl⟩ := map_eq_ok_iff.mp decomposed
    exact not_mem_elements path

/-- A café in a URL, with signs in its element, key and value that have a meaning there. -/
def cafeUrl : Url :=
  { scheme := "https", host := some "host", path := "/%c3%A9%2F", query := some "%3f=%26&=" }

theorem decompose_undoes_encoding_cafe :
    Encodes cafeUrl ⟨["é/"], [("?", "&"), ("", "")]⟩ ∧
      decompose cafeUrl none = .ok ⟨["é/"], [("?", "&"), ("", "")]⟩ ∧ "" ∉ ["é/"] := by
  have element : Writes "é/" "%c3%A9%2F".toList :=
    ⟨[['%', 'c', '3'], ['%', 'A', '9'], ['%', '2', 'F']],
      .cons (.coded (.inr rfl) (.inl rfl)) (.cons (.coded (.inl rfl) (.inl rfl))
        (.cons (.coded (.inl rfl) (.inl rfl)) .nil)), rfl⟩
  have key : Writes "?" "%3f".toList :=
    ⟨[['%', '3', 'f']], .cons (.coded (.inl rfl) (.inr rfl)) .nil, rfl⟩
  have value : Writes "&" "%26".toList :=
    ⟨[['%', '2', '6']], .cons (.coded (.inl rfl) (.inl rfl)) .nil, rfl⟩
  have nothing : Writes "" [] := ⟨[], .nil, rfl⟩
  have encodes : Encodes cafeUrl ⟨["é/"], [("?", "&"), ("", "")]⟩ :=
    ⟨⟨_, .cons element .nil, rfl⟩,
      ⟨_, .cons (.intro key value) (.cons (.intro nothing nothing) .nil), rfl⟩⟩
  have decomposed := decompose_undoes_encoding.1 _ _ encodes (by decide)
  exact ⟨encodes, decomposed, decompose_undoes_encoding.2 _ _ _ decomposed⟩

end EntityService.Request
