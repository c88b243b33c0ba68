import EntityService.Proofs.Query.Sections

/-! What becomes of a request's options. Each stands under the kind of the key that it was given with,
which is its own kind; they are yielded in the canonical order with the headers behind them, and
nothing stands under the kind of headers. -/
namespace EntityService.Query

open Http QueryOption

variable {os : Options} {pairs : List Pair} {headers : Headers} {reserved : List String} {p : Pair}
  {k : Kind} {o : QueryOption}

/-- What ascends is a part of the list of all kinds, with the same order. -/
theorem Kind.sublist_all {kinds : List Kind} (ascending : kinds.Pairwise (·.place < ·.place)) :
    kinds.Sublist all := by
  obtain ⟨part, order, among⟩ :=
    List.subperm_of_subset (nodup_of_ascending ascending) fun k _ => mem_all k
  exact eq_of_perm_of_ascending order (all_ascending.sublist among) ascending ▸ among

namespace Options

/-- What has been read from pairs and headers. Of each kind, the option is the one of the last pair
that says something, read under the kind of its key. -/
structure Represents (pairs : List Pair) (headers : Headers) (reserved : List String)
    (os : Options) : Prop where
  entries : ∀ k o, (k, o) ∈ os.entries ↔
    ∃ p, LastSet pairs k p ∧ QueryOption.read k p.2 = .ok (some o)
  kinds : ∀ entry ∈ os.entries, entry.2.kind = entry.1 ∧ entry.1 ≠ .header
  found : ∀ k o, os.get? k = some o ↔ (k, o) ∈ os.entries
  unfiled : os.get? .header = none
  ascending : (os.toList.map (·.kind)).Pairwise (·.place < ·.place)
  listed : (os.toList.map (·.kind)).Sublist Kind.all
  items : os.items = os.toList.map .option ++
    (headers.entries.filter fun h => !isAmong reserved h.name).map .header
  size : os.size = os.items.length
  empty : os.isEmpty = true ↔ os.size = 0
  silent : ∀ language : Language, language.dialect.querySection os = "" ↔ os.size = 0
  normal : ∀ o, Item.option o ∈ os.items → o.Normal

theorem isEmpty_iff : os.isEmpty = true ↔ os.size = 0 := by
  simp [isEmpty, size]

/-- Every call has a line feed, so only a section without calls is empty. -/
theorem querySection_eq_empty_iff (d : Dialect) : d.querySection os = "" ↔ os.size = 0 := by
  rw [← String.toList_inj, d.toList_querySection, ← length_items, List.length_eq_zero_iff]
  cases os.items <;> simp

theorem read_of_lastSet (admissible : Admissible pairs) (last : LastSet pairs k p) :
    QueryOption.read k p.2 = .ok (content (value p) k) := by
  have wellFormed := admissible_iff.mp admissible p last.mem k last.sets.1
  have made := ofTrimmed?_of_speaks wellFormed last.sets.2
  rw [value] at made
  rw [QueryOption.read, made, value]

theorem get?_eq_some_iff_of_read (read : ofPairs pairs headers reserved = .ok os) :
    os.get? k = some o ↔ ∃ p, LastSet pairs k p ∧ QueryOption.read k p.2 = .ok (some o) := by
  have admissible := (ofPairs_eq_ok_iff.mp read).1
  rw [get?_eq_some_iff_of_ofPairs read]
  refine exists_congr fun p => and_congr_right fun last => ?_
  rw [read_of_lastSet admissible last, Except.ok.injEq]

namespace Normal

variable (normal : os.Normal reserved)
include normal

/-- The kinds of the options are those that they stand under, so they ascend as these do. -/
theorem kinds_ascending : (os.toList.map (·.kind)).Pairwise (·.place < ·.place) := by
  have same : os.toList.map (·.kind) = os.entries.map (·.1) := by
    rw [toList, List.map_map]
    exact List.map_congr_left normal.kinds
  rw [same, List.pairwise_map]
  exact normal.ascending

theorem ne_header {entry : Kind × QueryOption} (member : entry ∈ os.entries) :
    entry.1 ≠ .header :=
  normal.kinds entry member ▸ entry.2.kind_ne_header

theorem get?_header : os.get? .header = none := by
  rw [Option.eq_none_iff_forall_ne_some]
  intro o found
  exact normal.ne_header (normal.get?_eq_some_iff.mp found) rfl

end Normal

/-- Whatever options have been read, they are kept in this way. -/
theorem ofPairs_represents (read : ofPairs pairs headers reserved = .ok os) :
    os.Represents pairs headers reserved := by
  have normal := ofPairs_normal read
  exact {
    entries k o := by rw [← normal.get?_eq_some_iff, get?_eq_some_iff_of_read read]
    kinds entry member := ⟨normal.kinds entry member, normal.ne_header member⟩
    found k o := normal.get?_eq_some_iff
    unfiled := normal.get?_header
    ascending := normal.kinds_ascending
    listed := Kind.sublist_all normal.kinds_ascending
    items := by
      obtain ⟨_, _, rfl⟩ := ofPairs_eq_ok_iff.mp read
      rw [items, headers_ofList]
    size := (length_items os).symm
    empty := isEmpty_iff
    silent language := querySection_eq_empty_iff language.dialect
    normal o member := items_normal normal _ member }

/-- Of two filters the last one is kept, and it stands before the number that came first. -/
theorem ofPairs_represents_last : ∃ os,
    ofPairs (readPairs "$top=5&$filter=x&filter= y ") ⟨[⟨"Host", "h"⟩, ⟨"Prefer", "a"⟩]⟩ ["host"] =
      .ok os ∧
    os.Represents (readPairs "$top=5&$filter=x&filter= y ")
      ⟨[⟨"Host", "h"⟩, ⟨"Prefer", "a"⟩]⟩ ["host"] ∧
    os.items = [.option (.filter "y"), .option (.top 5), .header ⟨"Prefer", "a"⟩] ∧
    os.entries = [(.filter, .filter "y"), (.top, .top 5)] := by
  have read : ofPairs (readPairs "$top=5&$filter=x&filter= y ")
      ⟨[⟨"Host", "h"⟩, ⟨"Prefer", "a"⟩]⟩ ["host"] =
        .ok ⟨[(.filter, .filter "y"), (.top, .top 5)], [⟨"Prefer", "a"⟩]⟩ := by
    decide
  exact ⟨_, read, ofPairs_represents read, rfl, rfl⟩

end Options
end EntityService.Query
