import EntityService.Proofs.Path.Prefixes
import EntityService.Proofs.Request.Decomposition
import EntityService.Proofs.Text.Splitting
import EntityService.Request.Model
import Mathlib.Data.List.DropRight

/-! Service roots. A root is taken off the text of a path, but only where an element of the path
ends, so that the elements of the root are taken off those of the path. Slashes at the end of the
root make no difference. -/
namespace EntityService

namespace Url

variable {url other : Url}

theorem sameOrigin_iff : url.sameOrigin other = true ↔
    ∃ origin, url.origin? = some origin ∧ other.origin? = some origin := by
  rw [sameOrigin, Bool.and_eq_true, Option.isSome_iff_exists, beq_iff_eq]
  constructor
  · rintro ⟨⟨origin, found⟩, same⟩
    exact ⟨origin, found, same.symm.trans found⟩
  · rintro ⟨origin, found, also⟩
    exact ⟨⟨origin, found⟩, found.trans also.symm⟩

theorem origin?_of_ne_blob (plain : url.scheme ≠ "blob") : url.origin? =
    (defaultPort? url.scheme).map fun port =>
      ⟨url.scheme, url.host.getD "", url.port.getD port⟩ := by
  rw [origin?, originWithin?.eq_def]
  dsimp only
  cases defaultPort? url.scheme with
  | some port => rfl
  | none =>
    cases url.path.length with
    | zero => rfl
    | succ steps => exact if_neg (by simpa using plain)

/-- Only the origin of a blob is read off its path. -/
theorem origin?_of_path (plain : url.scheme ≠ "blob") (path : String) :
    ({ url with path } : Url).origin? = url.origin? := by
  rw [origin?_of_ne_blob plain]
  exact origin?_of_ne_blob plain

end Url

namespace Request

open Schema Outcome

/-- The text of a path up to the slashes at its end. -/
structure Trimmed (path text : List Char) : Prop where
  last : text.getLast? ≠ some '/'
  slashes : ∃ count, path = text ++ List.replicate count '/'

/-- A URL lies below a root of the same origin: its path goes on behind that of the root, without
the slashes at the end of the root, with nothing or with a slash. -/
structure Below (root url : Url) (rest : List Char) : Prop where
  origin : ∃ origin, url.origin? = some origin ∧ root.origin? = some origin
  path : ∃ text, Trimmed root.path.toList text ∧ url.path.toList = text ++ rest
  boundary : rest = [] ∨ ∃ more, rest = '/' :: more

variable {url root other : Url} {path text rest xs ys : List Char} {parts : Decomposition}
  {g : Graph} {settings : Settings} {captured : Captured}

theorem withoutEndSlashes_append_slashes (text : List Char) (count : Nat) :
    withoutEndSlashes (text ++ List.replicate count '/') = withoutEndSlashes text := by
  induction count with
  | zero => rw [List.replicate_zero, List.append_nil]
  | succ count ih =>
    rw [List.replicate_succ', ← List.append_assoc]
    exact (List.rdropWhile_concat_pos _ _ _ rfl).trans ih

theorem withoutEndSlashes_eq_iff : withoutEndSlashes path = text ↔ Trimmed path text := by
  constructor
  · rintro rfl
    constructor
    · intro last
      have nonempty : withoutEndSlashes path ≠ [] := by
        intro none
        rw [none] at last
        cases last
      rw [List.getLast?_eq_some_getLast nonempty, Option.some.injEq] at last
      exact List.rdropWhile_last_not _ _ nonempty (beq_iff_eq.mpr last)
    · have slashes : ∀ c ∈ path.rtakeWhile (· == '/'), c = '/' := by
        intro c member
        simpa using List.mem_rtakeWhile_imp member
      have whole : withoutEndSlashes path ++ path.rtakeWhile (· == '/') = path :=
        List.rdropWhile_append_rtakeWhile
      rw [List.eq_replicate_of_mem slashes] at whole
      exact ⟨_, whole.symm⟩
  · rintro ⟨last, count, rfl⟩
    rw [withoutEndSlashes_append_slashes]
    apply List.rdropWhile_eq_self_iff.mpr
    intro nonempty slash
    exact last (by rw [List.getLast?_eq_some_getLast nonempty, eq_of_beq slash])

theorem below?_eq_some_iff {root : List Char} : below? root path = some rest ↔
    path = withoutEndSlashes root ++ rest ∧ (rest = [] ∨ ∃ more, rest = '/' :: more) := by
  have boundary (rest : List Char) : (rest.isEmpty || ['/'].isPrefixOf rest) = true ↔
      rest = [] ∨ ∃ more, rest = '/' :: more := by
    cases rest with
    | nil => simp
    | cons c rest => simp [List.isPrefixOf, @eq_comm Char '/']
  simp only [below?, Option.bind_eq_bind, Option.bind_eq_some_iff,
    List.isPrefixOf?_eq_some_iff_append_eq, Option.ite_none_right_eq_some, boundary, Option.pure_def,
    Option.some.injEq]
  constructor
  · rintro ⟨_, rfl, ends, rfl⟩
    exact ⟨rfl, ends⟩
  · rintro ⟨rfl, ends⟩
    exact ⟨rest, rfl, ends, rfl⟩

theorem pathBelow_eq_ok_iff : pathBelow url (some root) = .ok rest ↔ Below root url rest := by
  rw [pathBelow]
  constructor
  · intro found
    split at found
    · rename_i rest below
      split at found
      · rename_i same
        cases found
        obtain ⟨path, boundary⟩ := below?_eq_some_iff.mp below
        exact ⟨Url.sameOrigin_iff.mp same, ⟨_, withoutEndSlashes_eq_iff.mp rfl, path⟩, boundary⟩
      · contradiction
    · contradiction
  · rintro ⟨origin, ⟨text, trimmed, path⟩, boundary⟩
    rw [← withoutEndSlashes_eq_iff.mpr trimmed] at path
    rw [below?_eq_some_iff.mpr ⟨path, boundary⟩]
    exact if_pos (Url.sameOrigin_iff.mpr origin)

theorem pathBelow_error {e : RequestError} (failed : pathBelow url (some root) = .error e) :
    e = .serviceRootMismatch url root := by
  rw [pathBelow] at failed
  split at failed
  · split at failed
    · contradiction
    · exact (Except.error.inj failed).symm
  · exact (Except.error.inj failed).symm

theorem decompose_eq_ok_iff : decompose url (some root) = .ok parts ↔
    ∃ rest, Below root url rest ∧ ⟨elements rest, Query.readPairs (url.query.getD "")⟩ = parts := by
  simp only [decompose, map_eq_ok_iff, pathBelow_eq_ok_iff]

theorem elements_append_slash (xs ys : List Char) :
    elements (xs ++ '/' :: ys) = elements xs ++ elements ys := by
  have apart : (xs ++ '/' :: ys).splitOn '/' = xs.splitOn '/' ++ ys.splitOn '/' := by
    rw [List.splitOn_eq_splitOnP, List.splitOn_eq_splitOnP, List.splitOn_eq_splitOnP]
    exact List.splitOnP_append_cons _ _ (by simp)
  rw [elements, apart, List.filter_append, List.map_append]
  rfl

/-- Where a text begins with a slash or is empty, no element lies across its beginning. -/
theorem elements_append (boundary : ys = [] ∨ ∃ more, ys = '/' :: more) :
    elements (xs ++ ys) = elements xs ++ elements ys := by
  rcases boundary with rfl | ⟨more, rfl⟩
  · rw [List.append_nil]
    exact (List.append_nil _).symm
  · have slash := elements_append_slash [] more
    rw [List.nil_append] at slash
    rw [elements_append_slash, slash]
    rfl

theorem elements_eq_nil_iff : elements path = [] ↔ ∀ c ∈ path, c = '/' := by
  constructor
  · intro none c member
    have parts : c = '/' ∨ ∃ part ∈ path.splitOn '/', c ∈ part := Text.mem_splitOn member
    rcases parts with same | ⟨part, among, inside⟩
    · exact same
    · have kept := List.filter_eq_nil_iff.mp (List.map_eq_nil_iff.mp none) part among
      have empty : part = [] := by simpa using kept
      rw [empty] at inside
      contradiction
  · intro slashes
    induction path with
    | nil => rfl
    | cons c path ih =>
      rw [List.forall_mem_cons] at slashes
      obtain ⟨rfl, slashes⟩ := slashes
      have first := elements_append_slash [] path
      rw [List.nil_append, ih slashes] at first
      exact first

namespace Trimmed

theorem elements_eq (trimmed : Trimmed path text) : elements path = elements text := by
  obtain ⟨_, count, rfl⟩ := trimmed
  induction count with
  | zero => rw [List.replicate_zero, List.append_nil]
  | succ count ih =>
    rw [List.replicate_succ', ← List.append_assoc, elements_append_slash, ih]
    exact List.append_nil _

end Trimmed

namespace Below

/-- The elements of the root come first, and then those of the rest. -/
theorem elements_eq (below : Below root url rest) :
    elements url.path.toList = elements root.path.toList ++ elements rest := by
  obtain ⟨_, ⟨text, trimmed, path⟩, boundary⟩ := below
  rw [path, elements_append boundary, trimmed.elements_eq]

theorem of_trimmed (origin : other.origin? = root.origin?) (below : Below root url rest)
    (trimmed : Trimmed root.path.toList text) (also : Trimmed other.path.toList text) :
    Below other url rest := by
  obtain ⟨same, ⟨_, whole, path⟩, boundary⟩ := below
  cases (withoutEndSlashes_eq_iff.mpr whole).symm.trans (withoutEndSlashes_eq_iff.mpr trimmed)
  exact ⟨origin ▸ same, ⟨_, also, path⟩, boundary⟩

end Below

theorem readBody_ne_empty : captured.readBody ≠ .error (.path .empty) := by
  intro failed
  unfold Captured.readBody Body.read at failed
  repeat' split at failed
  all_goals cases failed

/-- A request has no path exactly if no element is left of it. Everything else that is wrong with a
request makes another error. -/
theorem build_eq_empty_iff (decomposed : decompose captured.url settings.serviceRoot = .ok parts) :
    Model.build g settings captured = .error (.path .empty) ↔ parts.path = [] := by
  rw [Model.build, decomposed, bind_eq_error_iff]
  constructor
  · rintro (failed | ⟨_, ⟨⟩, failed⟩)
    · cases failed
    · rcases bind_eq_error_iff.mp failed with failed | ⟨_, _, failed⟩
      · obtain ⟨_, failed, ⟨⟩⟩ := mapError_eq_error_iff.mp failed
        exact Path.resolve_eq_empty_iff.mp failed
      rcases bind_eq_error_iff.mp failed with failed | ⟨_, _, failed⟩
      · obtain ⟨_, _, ⟨⟩⟩ := mapError_eq_error_iff.mp failed
      rcases bind_eq_error_iff.mp failed with failed | ⟨_, _, ⟨⟩⟩
      exact absurd failed readBody_ne_empty
  · intro none
    refine .inr ⟨parts, rfl, bind_eq_error_iff.mpr (.inl ?_)⟩
    exact mapError_eq_error_iff.mpr ⟨_, Path.resolve_eq_empty_iff.mpr none, rfl⟩

/-- A URL is taken apart below a root exactly if it lies below it, and the error names both
otherwise. The elements of the root and those found below it are the elements of the whole path, and
the pairs of the query are the same. Slashes at the end of the root make no difference, as long as
its origin remains, which only a blob reads off its path. A request has no path below the root
exactly if nothing but slashes is left. -/
theorem decompose_below_root (url root : Url) :
    ((∃ parts, decompose url (some root) = .ok parts) ↔ ∃ rest, Below root url rest) ∧
    (∀ e, decompose url (some root) = .error e → e = .serviceRootMismatch url root) ∧
    (∀ parts, decompose url (some root) = .ok parts → ∃ whole, decompose url none = .ok whole ∧
      whole.path = elements root.path.toList ++ parts.path ∧ whole.query = parts.query) ∧
    (∀ text path, Trimmed root.path.toList text → Trimmed path.toList text →
      (root.scheme = "blob" → ({ root with path } : Url).origin? = root.origin?) →
      ∀ parts, decompose url (some { root with path }) = .ok parts ↔
        decompose url (some root) = .ok parts) ∧
    ∀ rest, Below root url rest → ∀ g settings captured, settings.serviceRoot = some root →
      captured.url = url →
      (Model.build g settings captured = .error (.path .empty) ↔ ∀ c ∈ rest, c = '/') := by
  refine ⟨?_, ?_, ?_, ?_, ?_⟩
  · simp only [decompose_eq_ok_iff]
    constructor
    · rintro ⟨_, rest, below, _⟩
      exact ⟨rest, below⟩
    · rintro ⟨rest, below⟩
      exact ⟨_, rest, below, rfl⟩
  · intro e failed
    exact pathBelow_error (map_eq_error_iff.mp failed)
  · intro parts decomposed
    obtain ⟨rest, below, rfl⟩ := decompose_eq_ok_iff.mp decomposed
    exact ⟨_, rfl, below.elements_eq, rfl⟩
  · intro text path trimmed also blob parts
    have origin : ({ root with path } : Url).origin? = root.origin? := by
      by_cases scheme : root.scheme = "blob"
      · exact blob scheme
      · exact Url.origin?_of_path scheme path
    have same (rest : List Char) : Below { root with path } url rest ↔ Below root url rest :=
      ⟨fun below => below.of_trimmed origin.symm also trimmed,
        fun below => below.of_trimmed origin trimmed also⟩
    simp only [decompose_eq_ok_iff, same]
  · intro rest below g settings captured root url
    have decomposed := decompose_eq_ok_iff.mpr ⟨rest, below, rfl⟩
    rw [← root, ← url] at decomposed
    rw [build_eq_empty_iff decomposed, elements_eq_nil_iff]

def blob (path : String) : Url := { scheme := "blob", path, query := some "q" }

/-- The origin of a blob may change with a slash. A space is left out at the end of a URL, but not in
the name of a host. -/
theorem not_below_blob_of_slash :
    Url.parse "blob:https://h ?q" = .ok (blob "https://h ") ∧
    Url.parse "blob:https://h /?q" = .ok (blob "https://h /") ∧
    decompose (blob "https://h ") (some (blob "https://h ")) = .ok ⟨[], [("q", "")]⟩ ∧
    decompose (blob "https://h ") (some (blob "https://h /")) =
      .error (.serviceRootMismatch (blob "https://h ") (blob "https://h /")) := by
  decide +kernel

/-- The root ends where an element ends, and a text that only begins like it is not below it. -/
theorem decompose_below_root_blob :
    Below (blob "https://h/v1/") (blob "https://h/v1//me") "//me".toList ∧
    decompose (blob "https://h/v1//me") (some (blob "https://h/v1/")) =
      .ok ⟨["me"], [("q", "")]⟩ ∧
    (∃ whole, decompose (blob "https://h/v1//me") none = .ok whole ∧
      whole.path = elements "https://h/v1/".toList ++ ["me"] ∧ whole.query = [("q", "")]) ∧
    decompose (blob "https://h/v1//me") (some (blob "https://h/v1")) =
      .ok ⟨["me"], [("q", "")]⟩ ∧
    (∃ e, decompose (blob "https://h/v10/me") (some (blob "https://h/v1/")) = .error e ∧
      e = .serviceRootMismatch (blob "https://h/v10/me") (blob "https://h/v1/")) ∧
    Model.build Path.directoryGraph { serviceRoot := some (blob "https://h/v1/") }
      { method := ⟨"GET"⟩, url := blob "https://h/v1//" } = .error (.path .empty) := by
  have origin : (blob "https://h/v1/").origin? = some ⟨"https", "h", 443⟩ := by decide +kernel
  have trimmed : Trimmed "https://h/v1/".toList "https://h/v1".toList := ⟨by decide, 1, rfl⟩
  have below : Below (blob "https://h/v1/") (blob "https://h/v1//me") "//me".toList :=
    ⟨⟨_, by decide +kernel, origin⟩, ⟨_, trimmed, rfl⟩, .inr ⟨_, rfl⟩⟩
  have nothing : Below (blob "https://h/v1/") (blob "https://h/v1//") "//".toList :=
    ⟨⟨_, by decide +kernel, origin⟩, ⟨_, trimmed, rfl⟩, .inr ⟨_, rfl⟩⟩
  have decomposed := decompose_eq_ok_iff.mpr ⟨_, below, rfl⟩
  have failed : decompose (blob "https://h/v10/me") (some (blob "https://h/v1/")) =
      .error (.serviceRootMismatch (blob "https://h/v10/me") (blob "https://h/v1/")) := by
    decide
  obtain ⟨_, _, whole, slashes, _⟩ :=
    decompose_below_root (blob "https://h/v1//me") (blob "https://h/v1/")
  obtain ⟨_, _, _, _, empty⟩ :=
    decompose_below_root (blob "https://h/v1//") (blob "https://h/v1/")
  refine ⟨below, decomposed, whole _ decomposed, ?_, ⟨_, failed, ?_⟩, ?_⟩
  · apply (slashes _ "https://h/v1" trimmed ⟨by decide, 0, rfl⟩ _ _).mpr decomposed
    intro _
    rw [origin]
    decide +kernel
  · exact (decompose_below_root _ _).2.1 _ failed
  · apply (empty _ nothing _ _ _ rfl rfl).mpr
    simp

end Request
end EntityService
