import EntityService.Proofs.Path.Walks
import EntityService.Proofs.Query.LastValue
import EntityService.Proofs.Query.Sections
import EntityService.Proofs.Request.Models

/-! Reserved headers. What is to be kept out of models, and what a client sets by itself, is kept out
in any letter case. Every other header is in the model as it was captured, and its call stands behind
those of all options. -/
namespace EntityService.Http

open Text

variable {names others : List String} {name : String}

theorem isAmong_iff : isAmong names name = true ↔ lower name ∈ names.map lower := by
  simp only [isAmong, List.any_eq_true, sameIgnoringCase, beq_iff_eq, List.mem_map]

theorem isTokenChar_toLower (c : Char) : isTokenChar c.toLower = isTokenChar c := by
  have ascii : ∀ n < 128, isTokenChar (Char.ofNat n).toLower = isTokenChar (Char.ofNat n) := by
    decide
  by_cases small : c.toNat < 128
  · rw [← Char.ofNat_toNat c]
    exact ascii _ small
  · have other : ¬ (c.val ≥ 'A'.val ∧ c.val ≤ 'Z'.val) := by
      rintro ⟨_, last⟩
      exact small (lt_of_le_of_lt (UInt32.le_iff_toNat_le.mp last) (by decide))
    have same : c.toLower = c := dif_neg other
    rw [same]

theorem isHeaderName_lower (name : String) : isHeaderName (lower name) = isHeaderName name := by
  simp only [isHeaderName, isToken, lower, String.toList_ofList, String.length_ofList,
    List.length_map, String.length_toList, List.isEmpty_map, List.all_map, Function.comp_def,
    isTokenChar_toLower]

/-- The same names up to letter case, in whatever order and however often. -/
def SameNames (names others : List String) : Prop :=
  ∀ word, word ∈ others.map lower ↔ word ∈ names.map lower

theorem SameNames.valid (same : SameNames names others)
    (valid : ∀ name ∈ names, isHeaderName name = true) :
    ∀ name ∈ others, isHeaderName name = true := by
  intro name member
  obtain ⟨original, among, spelled⟩ :=
    List.mem_map.mp ((same (lower name)).mp (List.mem_map_of_mem member))
  rw [← isHeaderName_lower, ← spelled, isHeaderName_lower]
  exact valid original among

end EntityService.Http

namespace EntityService.Query

open Http

namespace Dialect

/-- The text begins with a call of the method for headers. -/
def CallsHeader (d : Dialect) (text : String) : Prop :=
  ∃ rest, text = "\n\t." ++ d.method .header ++ "(" ++ rest

theorem Clear.not_callsHeader_fragment {d : Dialect} (clear : d.Clear) (o : QueryOption) :
    ¬ d.CallsHeader (d.fragment (.option o)) := by
  rintro ⟨rest, same⟩
  have texts := congrArg String.toList same
  simp only [toList_fragment, toList_piece, String.toList_append, List.append_assoc] at texts
  -- Both methods end at the first parenthesis, and no option has the method for headers.
  have apart (item : Item) : '(' ∉ (d.callee item).toList :=
    Text.not_mem_of_sort (clear.isAlpha_of_mem item) (by decide)
  have methods := (eq_of_append_cons (apart (.option o)) (apart (.header ⟨"", ""⟩))
    (List.cons.inj (List.cons.inj (List.cons.inj texts).2).2).2).1
  exact o.kind_ne_header (clear.methods _ _ (String.toList_injective methods))

end Dialect

namespace Options

variable {pairs : List Pair} {headers : Headers} {reserved also : List String}

theorem chosen_congr (same : ∀ name, isAmong reserved name = isAmong also name) (hs : List Header) :
    chosen reserved hs = chosen also hs := by
  induction hs with
  | nil => rfl
  | cons h hs ih => rw [chosen, chosen, ih, same]

theorem ofPairs_congr (same : ∀ name, isAmong reserved name = isAmong also name) :
    ofPairs pairs headers reserved = ofPairs pairs headers also := by
  rw [ofPairs, ofPairs, chosen_congr same]

end Options
end EntityService.Query

namespace EntityService.Request

open Schema Http Text

/-- Settings that calls lead to, with the names that were reserved by them. -/
inductive Configured : List String → Settings → Prop
  | start : Configured [] {}
  | root {names s t text} : Configured names s → s.withServiceRoot text = .ok t → Configured names t
  | reserve {names s t name} :
    Configured names s → s.withReserved name = .ok t → Configured (names ++ [name]) t

/-- The header has neither the name of one that a client sets by itself nor one of the names. -/
def Emitted (names : List String) (h : Header) : Prop :=
  lower h.name ∉ (clientHeaders ++ names).map lower

instance (names : List String) (h : Header) : Decidable (Emitted names h) :=
  inferInstanceAs (Decidable (_ ∉ _))

/-- What is written for a model: calls for its options and, behind all of them, one call for each of
the headers, with the name and the value as they are. -/
structure WrittenLast (m : Model) (d : Query.Dialect) (headers : List Header)
    (front : List String) : Prop where
  section_eq : m.querySection d = String.join (m.options.items.map d.fragment)
  fragments : m.options.items.map d.fragment = front ++ headers.map fun h =>
    Query.Dialect.call (d.method .header) (d.quoted h.name ++ "," ++ d.quoted h.value)
  options : ∀ text ∈ front, ¬ d.CallsHeader text

variable {g : Graph} {s t : Settings} {captured : Captured} {m : Model}
  {names others : List String} {name text : String}

theorem Settings.withServiceRoot_eq_ok_iff : s.withServiceRoot text = .ok t ↔
    ∃ url, Url.parse text = .ok url ∧ t = { s with serviceRoot := some url } := by
  rw [withServiceRoot]
  cases Url.parse text <;> simp [eq_comm]

theorem Settings.withReserved_eq_ok_iff : s.withReserved name = .ok t ↔
    isHeaderName name = true ∧
      t = if isAmong s.reserved name then s else { s with reserved := s.reserved ++ [name] } := by
  rw [withReserved]
  cases isHeaderName name with
  | false => exact ⟨nofun, fun both => absurd both.1 Bool.false_ne_true⟩
  | true => exact ⟨fun same => ⟨rfl, (Except.ok.inj same).symm⟩, fun both => congrArg _ both.2.symm⟩

/-- A call adds the word of its name to those that are reserved, even if it is among them. -/
theorem Settings.reserved_of_withReserved (reserved : s.withReserved name = .ok t) (word : String) :
    word ∈ t.reserved.map lower ↔ word ∈ s.reserved.map lower ∨ word = lower name := by
  obtain ⟨_, rfl⟩ := withReserved_eq_ok_iff.mp reserved
  by_cases among : isAmong s.reserved name = true
  · have there := isAmong_iff.mp among
    rw [if_pos among]
    exact ⟨.inl, fun either => either.elim id fun same => same ▸ there⟩
  · rw [if_neg among, List.map_append, List.mem_append, List.map_singleton, List.mem_singleton]

theorem Settings.serviceRoot_of_withReserved (reserved : s.withReserved name = .ok t) :
    t.serviceRoot = s.serviceRoot := by
  obtain ⟨_, rfl⟩ := withReserved_eq_ok_iff.mp reserved
  split <;> rfl

namespace Configured

theorem reserved_iff (configured : Configured names s) (word : String) :
    word ∈ s.reserved.map lower ↔ word ∈ (clientHeaders ++ names).map lower := by
  induction configured with
  | start => rw [List.append_nil]
  | root _ rooted ih =>
    obtain ⟨_, _, rfl⟩ := Settings.withServiceRoot_eq_ok_iff.mp rooted
    exact ih
  | reserve _ reserved ih =>
    rw [Settings.reserved_of_withReserved reserved, ih]
    simp only [List.map_append, List.mem_append, List.map_singleton, List.mem_singleton, or_assoc]

theorem valid (configured : Configured names s) : ∀ name ∈ names, isHeaderName name = true := by
  induction configured with
  | start => exact nofun
  | root _ _ ih => exact ih
  | reserve _ reserved ih =>
    refine List.forall_mem_append.mpr ⟨ih, List.forall_mem_singleton.mpr ?_⟩
    exact (Settings.withReserved_eq_ok_iff.mp reserved).1

theorem unreserved (configured : Configured names s) :
    ∃ t, Configured [] t ∧ t.serviceRoot = s.serviceRoot := by
  induction configured with
  | start => exact ⟨_, .start, rfl⟩
  | root _ rooted ih =>
    obtain ⟨url, parsed, rfl⟩ := Settings.withServiceRoot_eq_ok_iff.mp rooted
    exact ⟨_, .root .start (Settings.withServiceRoot_eq_ok_iff.mpr ⟨url, parsed, rfl⟩), rfl⟩
  | reserve _ reserved ih =>
    obtain ⟨t, configured, same⟩ := ih
    exact ⟨t, configured, same.trans (Settings.serviceRoot_of_withReserved reserved).symm⟩

theorem exists_append (configured : Configured names s) {more : List String}
    (valid : ∀ name ∈ more, isHeaderName name = true) :
    ∃ t, Configured (names ++ more) t ∧ t.serviceRoot = s.serviceRoot := by
  induction more generalizing names s with
  | nil => exact ⟨s, by rwa [List.append_nil], rfl⟩
  | cons name more ih =>
    obtain ⟨first, rest⟩ := List.forall_mem_cons.mp valid
    have reserved : s.withReserved name = .ok _ :=
      Settings.withReserved_eq_ok_iff.mpr ⟨first, rfl⟩
    obtain ⟨t, further, same⟩ := ih (configured.reserve reserved) rest
    rw [List.append_assoc, List.singleton_append] at further
    exact ⟨t, further, same.trans (Settings.serviceRoot_of_withReserved reserved)⟩

/-- The same names can be reserved in any other way. -/
theorem exists_of_sameNames (configured : Configured names s) (same : SameNames names others) :
    ∃ t, Configured others t ∧ t.serviceRoot = s.serviceRoot := by
  obtain ⟨plain, unreserved, root⟩ := configured.unreserved
  obtain ⟨t, again, unmoved⟩ := unreserved.exists_append (same.valid configured.valid)
  exact ⟨t, again, unmoved.trans root⟩

theorem isAmong_congr (configured : Configured names s) (again : Configured others t)
    (same : SameNames names others) (name : String) :
    isAmong t.reserved name = isAmong s.reserved name := by
  rw [Bool.eq_iff_iff, isAmong_iff, isAmong_iff, configured.reserved_iff, again.reserved_iff,
    List.map_append, List.map_append, List.mem_append, List.mem_append, same]

end Configured

theorem Model.writtenLast (m : Model) (language : Query.Language) :
    ∃ front, WrittenLast m language.dialect m.options.headers front := by
  refine ⟨m.options.toList.map fun o => language.dialect.fragment (.option o), rfl, ?_, ?_⟩
  · rw [Query.Options.items, List.map_append, List.map_map, List.map_map]
    rfl
  · intro text member
    obtain ⟨o, _, rfl⟩ := List.mem_map.mp member
    exact (Query.clear_dialect language).not_callsHeader_fragment o

theorem Model.headers_of_build (modelled : Model.build g s captured = .ok m) : m.options.headers =
    captured.headers.entries.filter fun h => !isAmong s.reserved h.name := by
  obtain ⟨parts, _, _, read, _⟩ := Model.build_eq_ok_iff.mp modelled
  obtain ⟨_, _, same⟩ := Query.Options.ofPairs_eq_ok_iff.mp read
  rw [same, Query.Options.headers_ofList]

theorem Model.build_eq_error_of_invalid
    (invalid : ∃ h ∈ captured.headers.entries, isHeaderName h.name = false) :
    ∃ e, Model.build g s captured = .error e := by
  cases outcome : Model.build g s captured with
  | error e => exact ⟨e, rfl⟩
  | ok m =>
    obtain ⟨parts, _, _, read, _⟩ := Model.build_eq_ok_iff.mp outcome
    obtain ⟨h, member, invalid⟩ := invalid
    have valid := (Query.Options.ofPairs_eq_ok_iff.mp read).2.1 h member
    rw [invalid] at valid
    contradiction

/-- Of the reserved names, only which ones they are matters to a model. -/
theorem Model.build_congr (root : t.serviceRoot = s.serviceRoot)
    (same : ∀ name, isAmong t.reserved name = isAmong s.reserved name) :
    Model.build g t captured = Model.build g s captured := by
  simp only [Model.build, root, Query.Options.ofPairs_congr same]

theorem Configured.emitted_iff (configured : Configured names s) (h : Header) :
    (!isAmong s.reserved h.name) = decide (Emitted names h) := by
  rw [Bool.eq_iff_iff, Bool.not_eq_true', ← Bool.not_eq_true, isAmong_iff,
    configured.reserved_iff, decide_eq_true_iff, Emitted]

/-- A model has exactly those headers of the request whose names are not reserved, in the order in
which they were captured and spelled as they were, and in every language they are written in this
order behind the options. A request with a header name that is not valid has no model. The names that
are reserved can be given in any order, in any letter case and more than once. -/
theorem reserved_headers_left_out (configured : Configured names s) :
    (∀ g captured m, Model.build g s captured = .ok m →
      m.options.headers = captured.headers.entries.filter (Emitted names ·) ∧
      ∀ language : Query.Language, ∃ front, WrittenLast m language.dialect
        (captured.headers.entries.filter (Emitted names ·)) front) ∧
    (∀ g captured, (∃ h ∈ captured.headers.entries, isHeaderName h.name = false) →
      ∃ e, Model.build g s captured = .error e) ∧
    ∀ others, SameNames names others →
      (∃ t, Configured others t ∧ t.serviceRoot = s.serviceRoot) ∧
      ∀ t, Configured others t → t.serviceRoot = s.serviceRoot → ∀ g captured,
        Model.build g t captured = Model.build g s captured := by
  refine ⟨fun g captured m modelled => ?_, fun g captured => Model.build_eq_error_of_invalid, ?_⟩
  · have headers : m.options.headers = captured.headers.entries.filter (Emitted names ·) := by
      rw [Model.headers_of_build modelled]
      exact List.filter_congr fun h _ => configured.emitted_iff h
    exact ⟨headers, fun language => headers ▸ m.writtenLast language⟩
  · intro others same
    exact ⟨configured.exists_of_sameNames same, fun t again root g captured =>
      Model.build_congr root (configured.isAmong_congr again same)⟩

/-- Settings under which tracing headers are kept out. -/
def untraced : Settings := { reserved := clientHeaders ++ ["x-trace"] }

/-- A request for two members, with two preferences, a secret and a trace. -/
def askingTwo : Captured :=
  { method := ⟨"GET"⟩
    url := { scheme := "https", host := some "host", path := "/members", query := some "$top=2" }
    headers := .ofPairs [("Prefer", "a"), ("authorization", "s"), ("X-Trace", "1"), ("prefer", "b")] }

def askingTwoModel : Model :=
  { method := ⟨"GET"⟩
    segments := Path.label 0 none [.toType "members" .entitySetRoot ⟨17, true⟩]
    options := { entries := [(.top, .top 2)], headers := [⟨"Prefer", "a"⟩, ⟨"prefer", "b"⟩] }
    body := none }

/-- The name of the trace is reserved once, however often that is asked for. -/
theorem untraced_configured : Configured ["x-trace", "X-TRACE"] untraced := by
  have first : Settings.withReserved {} "x-trace" = .ok untraced := by decide
  have again : untraced.withReserved "X-TRACE" = .ok untraced := by decide
  exact .reserve (.reserve .start first) again

theorem askingTwo_modelled :
    Model.build Path.directoryGraph untraced askingTwo = .ok askingTwoModel := by
  have parts : decompose askingTwo.url none = .ok ⟨["members"], [("$top", "2")]⟩ := by decide
  have resolved : Path.resolve Path.directoryGraph ⟨"GET"⟩ ["members"] =
      .ok askingTwoModel.segments := by
    decide
  exact Model.build_eq_ok_iff.mpr ⟨_, parts, resolved, by decide, rfl, rfl⟩

/-- The secret and the trace are left out, and both preferences stay as they are. -/
theorem reserved_headers_left_out_trace : Configured ["x-trace", "X-TRACE"] untraced ∧
    Model.build Path.directoryGraph untraced askingTwo = .ok askingTwoModel ∧
    askingTwoModel.options.headers = askingTwo.headers.entries.filter
      (Emitted ["x-trace", "X-TRACE"] ·) ∧
    askingTwo.headers.entries.filter (Emitted ["x-trace", "X-TRACE"] ·) =
      [⟨"Prefer", "a"⟩, ⟨"prefer", "b"⟩] ∧
    (∃ front, WrittenLast askingTwoModel Query.Language.javascript.dialect
      [⟨"Prefer", "a"⟩, ⟨"prefer", "b"⟩] front) ∧
    askingTwoModel.querySection Query.Language.javascript.dialect =
      "\n\t.top(2)\n\t.header('Prefer','a')\n\t.header('prefer','b')" ∧
    (∃ e, Model.build Path.directoryGraph untraced
      { askingTwo with headers := .ofPairs [("Host", "h"), ("X Trace", "1")] } = .error e) ∧
    ∃ t, Configured ["X-Trace"] t ∧
      Model.build Path.directoryGraph t askingTwo = .ok askingTwoModel := by
  obtain ⟨built, invalid, rearranged⟩ := reserved_headers_left_out untraced_configured
  obtain ⟨headers, written⟩ := built _ _ _ askingTwo_modelled
  have kept : askingTwo.headers.entries.filter (Emitted ["x-trace", "X-TRACE"] ·) =
      [⟨"Prefer", "a"⟩, ⟨"prefer", "b"⟩] := by
    decide
  have same : SameNames ["x-trace", "X-TRACE"] ["X-Trace"] := by
    have words : ["X-Trace"].map Text.lower = ["x-trace"] ∧
        ["x-trace", "X-TRACE"].map Text.lower = ["x-trace", "x-trace"] := by
      decide
    intro word
    rw [words.1, words.2]
    simp
  obtain ⟨⟨t, configured, root⟩, alike⟩ := rearranged _ same
  exact ⟨untraced_configured, askingTwo_modelled, headers, kept, kept ▸ written _, by decide,
    invalid _ _ ⟨⟨"X Trace", "1"⟩, by decide, by decide⟩, t, configured,
    (alike t configured root _ _).trans askingTwo_modelled⟩

end EntityService.Request
