import EntityService.Query.Options
import Mathlib.Data.List.Perm.Basic

/-! How options are filed. A new option takes the place of the one of its kind or goes between the
kinds around it, so that no kind stands twice and the kinds ascend in the canonical order. -/
namespace EntityService.Query

open Http

section

variable {α : Type} {place : α → Nat} {xs ys : List α}

theorem nodup_of_ascending (ascending : xs.Pairwise (place · < place ·)) : xs.Nodup :=
  ascending.imp fun less same => Nat.ne_of_lt less (congrArg place same)

/-- The same things can ascend in one way only. -/
theorem eq_of_perm_of_ascending (order : xs.Perm ys) (ascending : xs.Pairwise (place · < place ·))
    (also : ys.Pairwise (place · < place ·)) : xs = ys :=
  order.eq_of_pairwise (fun _ _ _ _ less more => absurd more (Nat.lt_asymm less)) ascending also

end

namespace Kind

/-- The order in which the options of a request are to be written, by the texts that are shown for
their kinds. -/
def canonical : List String :=
  ["$select", "$filter", "$search", "$orderby", "$skip", "$top", "$count", "$expand", "header"]

/-- The place of a kind in the canonical order. -/
def place (k : Kind) : Nat := canonical.idxOf k.key

variable {k other : Kind}

theorem place_injective : Function.Injective place := by
  intro k other
  cases k <;> cases other <;> decide

theorem compare_eq_lt_iff : compare k other = .lt ↔ k.place < other.place := by
  cases k <;> cases other <;> decide

theorem compare_eq_eq_iff : compare k other = .eq ↔ k = other := by
  cases k <;> cases other <;> decide

theorem compare_eq_gt_iff : compare k other = .gt ↔ other.place < k.place := by
  cases k <;> cases other <;> decide

theorem all_ascending : all.Pairwise (·.place < ·.place) := by decide

end Kind

/-- The kinds of the entries ascend in the canonical order. -/
def Ascending (entries : List (Kind × QueryOption)) : Prop :=
  entries.Pairwise (·.1.place < ·.1.place)

variable {k other : Kind} {o : QueryOption} {entry : Kind × QueryOption}
  {entries others : List (Kind × QueryOption)} {headers : List Header} {os : Options}

theorem lookup_cons_eq (k other : Kind) (o : QueryOption) (entries : List (Kind × QueryOption)) :
    ((k, o) :: entries).lookup other = if k = other then some o else entries.lookup other := by
  by_cases same : k = other
  · rw [same, List.lookup_cons_self, if_pos rfl]
  · have apart : (other == k) = false := beq_eq_false_iff_ne.mpr (Ne.symm same)
    rw [List.lookup_cons, apart, if_neg same]

/-- Only the kind itself is affected, even where the entries do not ascend. -/
theorem lookup_insertEntry (k other : Kind) (o : QueryOption)
    (entries : List (Kind × QueryOption)) : (insertEntry k o entries).lookup other =
      if k = other then some o else entries.lookup other := by
  induction entries with
  | nil => exact lookup_cons_eq k other o []
  | cons first entries ih =>
    unfold insertEntry
    split
    · exact lookup_cons_eq k other o (first :: entries)
    · rename_i same
      obtain rfl := Kind.compare_eq_eq_iff.mp same
      rw [lookup_cons_eq, lookup_cons_eq]
      split <;> rfl
    · rename_i behind
      have apart : first.1 ≠ k := fun same => by
        rw [same, Kind.compare_eq_eq_iff.mpr rfl] at behind
        contradiction
      rw [lookup_cons_eq, lookup_cons_eq, ih]
      by_cases here : first.1 = other
      · have other : k ≠ other := fun same => apart (here.trans same.symm)
        rw [if_pos here, if_neg other, if_pos here]
      · rw [if_neg here, if_neg here]

theorem mem_insertEntry (member : entry ∈ insertEntry k o entries) :
    entry = (k, o) ∨ entry ∈ entries := by
  induction entries with
  | nil => exact .inl (List.mem_singleton.mp member)
  | cons first entries ih =>
    unfold insertEntry at member
    split at member
    · exact List.mem_cons.mp member
    · exact (List.mem_cons.mp member).imp_right (List.mem_cons_of_mem _)
    · rcases List.mem_cons.mp member with rfl | member
      · exact .inr List.mem_cons_self
      · exact (ih member).imp_right (List.mem_cons_of_mem _)

theorem ascending_insertEntry (ascending : Ascending entries) :
    Ascending (insertEntry k o entries) := by
  induction entries with
  | nil => exact List.pairwise_singleton _ _
  | cons first entries ih =>
    obtain ⟨later, rest⟩ := List.pairwise_cons.mp ascending
    unfold insertEntry
    split
    · rename_i before
      have less : k.place < first.1.place := Kind.compare_eq_lt_iff.mp before
      refine List.pairwise_cons.mpr ⟨fun entry member => ?_, ascending⟩
      rcases List.mem_cons.mp member with rfl | member
      · exact less
      · exact Nat.lt_trans less (later entry member)
    · rename_i same
      obtain rfl := Kind.compare_eq_eq_iff.mp same
      exact List.pairwise_cons.mpr ⟨later, rest⟩
    · rename_i behind
      refine List.pairwise_cons.mpr ⟨fun entry member => ?_, ih rest⟩
      rcases mem_insertEntry member with rfl | member
      · exact Kind.compare_eq_gt_iff.mp behind
      · exact later entry member

/-- Where the kinds ascend, a look-up finds every entry. -/
theorem lookup_eq_some_iff (ascending : Ascending entries) :
    entries.lookup k = some o ↔ (k, o) ∈ entries := by
  induction entries with
  | nil => simp
  | cons first entries ih =>
    obtain ⟨later, rest⟩ := List.pairwise_cons.mp ascending
    rw [lookup_cons_eq, List.mem_cons, ← ih rest]
    by_cases same : first.1 = k
    · subst same
      have alone : (first.1, o) ∉ entries := fun member =>
        Nat.lt_irrefl _ (later (first.1, o) member)
      rw [if_pos rfl, ih rest]
      simp [Prod.ext_iff, eq_comm, alone]
    · simp [same, Prod.ext_iff, Ne.symm same]

/-- Entries that ascend are known by what is found in them. -/
theorem eq_of_lookup_eq (ascending : Ascending entries) (also : Ascending others)
    (same : ∀ k, entries.lookup k = others.lookup k) : entries = others := by
  have members : entries.Perm others := by
    rw [List.perm_ext_iff_of_nodup (nodup_of_ascending ascending) (nodup_of_ascending also)]
    rintro ⟨k, o⟩
    rw [← lookup_eq_some_iff ascending, same, lookup_eq_some_iff also]
  exact eq_of_perm_of_ascending members ascending also

namespace Options

theorem get?_set (os : Options) (k other : Kind) (o : QueryOption) :
    (os.set k o).get? other = if k = other then some o else os.get? other :=
  lookup_insertEntry k other o os.entries

/-- Of the entries of a kind the last one counts. -/
theorem get?_ofList (entries : List (Kind × QueryOption)) (headers : List Header) (k : Kind) :
    (ofList entries headers).get? k = (entries.reverse.find? (·.1 == k)).map (·.2) := by
  suffices ∀ os : Options, (entries.foldl (fun os entry => os.set entry.1 entry.2) os).get? k =
      ((entries.reverse.find? (·.1 == k)).map (·.2)).or (os.get? k) by
    rw [ofList, this]
    exact Option.or_none
  induction entries with
  | nil => exact fun os => rfl
  | cons entry entries ih =>
    intro os
    rw [List.foldl_cons, ih, get?_set, List.reverse_cons, List.find?_append]
    cases entries.reverse.find? (·.1 == k) with
    | some later => rfl
    | none => by_cases same : entry.1 = k <;> simp [same]

@[simp] theorem headers_ofList (entries : List (Kind × QueryOption)) (headers : List Header) :
    (ofList entries headers).headers = headers :=
  List.foldlRecOn (motive := fun os : Options => os.headers = headers) entries _ rfl
    fun _ same _ _ => same

/-- However options are filed, their kinds ascend. -/
theorem ascending_ofList (entries : List (Kind × QueryOption)) (headers : List Header) :
    Ascending (ofList entries headers).entries :=
  List.foldlRecOn (motive := fun os : Options => Ascending os.entries) entries _ List.Pairwise.nil
    fun _ ascending _ _ => ascending_insertEntry ascending

/-- Options that agree on every kind and in their headers are the same. -/
theorem ext_get? {other : Options} (ascending : Ascending os.entries)
    (also : Ascending other.entries) (kinds : ∀ k, os.get? k = other.get? k)
    (headers : os.headers = other.headers) : os = other := by
  obtain ⟨entries, _⟩ := os
  obtain ⟨others, _⟩ := other
  obtain rfl : entries = others := eq_of_lookup_eq ascending also kinds
  exact congrArg _ headers

end Options
end EntityService.Query
