import Mathlib.Data.List.Basic
import Mathlib.Data.List.Forall2
import Mathlib.Data.List.Perm.Basic

/-! Computations that end in a value or in an error. A sequence of them ends in the first error that
one of its parts makes. -/
namespace EntityService.Outcome

variable {ε α β : Type}

theorem bind_eq_ok_iff {x : Except ε α} {f : α → Except ε β} {b : β} :
    x >>= f = .ok b ↔ ∃ a, x = .ok a ∧ f a = .ok b := by
  cases x <;> simp [bind, Except.bind]

theorem bind_eq_error_iff {x : Except ε α} {f : α → Except ε β} {e : ε} :
    x >>= f = .error e ↔ x = .error e ∨ ∃ a, x = .ok a ∧ f a = .error e := by
  cases x <;> simp [bind, Except.bind]

theorem map_eq_ok_iff {x : Except ε α} {f : α → β} {b : β} :
    x.map f = .ok b ↔ ∃ a, x = .ok a ∧ f a = b := by
  cases x <;> simp [Except.map]

theorem map_eq_error_iff {x : Except ε α} {f : α → β} {e : ε} :
    x.map f = .error e ↔ x = .error e := by
  cases x <;> simp [Except.map]

theorem mapError_eq_ok_iff {ε' : Type} {x : Except ε α} {f : ε → ε'} {a : α} :
    x.mapError f = .ok a ↔ x = .ok a := by
  cases x <;> simp [Except.mapError]

theorem mapError_eq_error_iff {ε' : Type} {x : Except ε α} {f : ε → ε'} {e : ε'} :
    x.mapError f = .error e ↔ ∃ cause, x = .error cause ∧ f cause = e := by
  cases x <;> simp [Except.mapError]

theorem pure_eq_ok_iff {a b : α} : (pure a : Except ε α) = .ok b ↔ a = b := by
  simp [pure, Except.pure]

/-- A traversal succeeds with the values of all its parts, in their order. -/
theorem mapM_eq_ok_iff {f : α → Except ε β} {as : List α} {bs : List β} :
    as.mapM f = .ok bs ↔ List.Forall₂ (fun a b => f a = .ok b) as bs := by
  induction as generalizing bs with
  | nil =>
    rw [List.mapM_nil, pure_eq_ok_iff, List.forall₂_nil_left_iff]
    exact eq_comm
  | cons a as ih =>
    simp only [List.mapM_cons, bind_eq_ok_iff, pure_eq_ok_iff, ih, List.forall₂_cons_left_iff]
    constructor
    · rintro ⟨b, head, bs, tail, rfl⟩
      exact ⟨b, bs, head, tail, rfl⟩
    · rintro ⟨b, bs, head, tail, rfl⟩
      exact ⟨b, head, bs, tail, rfl⟩

section Related

variable {R : α → β → Prop} {as : List α} {bs : List β}

theorem exists_value_of_mem {a : α} (each : List.Forall₂ R as bs) (member : a ∈ as) :
    ∃ b ∈ bs, R a b := by
  obtain ⟨i, bound, rfl⟩ := List.mem_iff_getElem.mp member
  obtain ⟨lengths, values⟩ := List.forall₂_iff_get.mp each
  exact ⟨bs[i], List.getElem_mem (lengths ▸ bound), values i bound (lengths ▸ bound)⟩

theorem exists_part_of_mem {b : β} (each : List.Forall₂ R as bs) (member : b ∈ bs) :
    ∃ a ∈ as, R a b :=
  exists_value_of_mem each.flip member

/-- What every part has in common with its value, all of them have in common. -/
theorem map_eq_of_forall₂ {γ : Type} {f : α → γ} {k : β → γ} (each : List.Forall₂ R as bs)
    (common : ∀ a b, R a b → f a = k b) : as.map f = bs.map k := by
  rw [← List.forall₂_eq_eq_eq, List.forall₂_map_left_iff, List.forall₂_map_right_iff]
  exact each.imp common

end Related

/-- Where each part succeeds with the value of another one changed in some way, so does the whole. -/
theorem mapM_ok_of_map {f f' : α → Except ε β} {k : β → β} {as : List α} {bs : List β}
    (each : ∀ a b, f a = .ok b → f' a = .ok (k b)) (traversed : as.mapM f = .ok bs) :
    as.mapM f' = .ok (bs.map k) :=
  mapM_eq_ok_iff.mpr (List.forall₂_map_right_iff.mpr ((mapM_eq_ok_iff.mp traversed).imp each))

theorem optionMapM_ok_of_map {f f' : α → Except ε β} {k : β → β} {a : Option α} {b : Option β}
    (each : ∀ a b, f a = .ok b → f' a = .ok (k b)) (traversed : a.mapM f = .ok b) :
    a.mapM f' = .ok (b.map k) := by
  cases a with
  | none =>
    cases traversed
    rfl
  | some a =>
    obtain ⟨value, succeeded, rfl⟩ := map_eq_ok_iff.mp (show (f a).map some = .ok b from traversed)
    exact map_eq_ok_iff.mpr ⟨k value, each a value succeeded, rfl⟩

/-- A traversal in another order has the same values in another order. -/
theorem mapM_perm {f : α → Except ε β} {as others : List α} {bs : List β}
    (order : others.Perm as) (traversed : as.mapM f = .ok bs) :
    ∃ cs, others.mapM f = .ok cs ∧ cs.Perm bs := by
  obtain ⟨cs, each, moved⟩ := List.perm_comp_forall₂ order (mapM_eq_ok_iff.mp traversed)
  exact ⟨cs, mapM_eq_ok_iff.mpr each, moved⟩

section Pure

variable {f : α → Except ε β} {as : List α}

/-- A traversal without an error is one that could not have ended in an error. -/
theorem mapM_eq_filterMap {k : α → Option β}
    (each : ∀ a ∈ as, ∃ b, f a = .ok b ∧ k a = some b) : as.mapM f = .ok (as.filterMap k) := by
  induction as with
  | nil => rfl
  | cons a as ih =>
    obtain ⟨⟨b, value, kept⟩, rest⟩ := List.forall_mem_cons.mp each
    rw [List.mapM_cons, value, ih rest, List.filterMap_cons_some kept]
    rfl

theorem findSomeM?_eq_ok {f : α → Except ε (Option β)} {k : α → Option β}
    (each : ∀ a ∈ as, f a = .ok (k a)) : as.findSomeM? f = .ok (as.findSome? k) := by
  induction as with
  | nil => rfl
  | cons a as ih =>
    obtain ⟨value, rest⟩ := List.forall_mem_cons.mp each
    rw [List.findSomeM?, value, List.findSome?_cons]
    cases k a with
    | some b => rfl
    | none => exact ih rest

theorem filterM_eq_ok {p : α → Except ε Bool} {q : α → Bool} (each : ∀ a ∈ as, p a = .ok (q a)) :
    as.filterM p = .ok (as.filter q) := by
  have aux (kept : List α) : as.filterAuxM p kept = .ok ((as.filter q).reverse ++ kept) := by
    induction as generalizing kept with
    | nil => rfl
    | cons a as ih =>
      obtain ⟨value, rest⟩ := List.forall_mem_cons.mp each
      rw [List.filterAuxM, value]
      change as.filterAuxM p (bif q a then a :: kept else kept) = _
      rw [ih rest]
      cases passes : q a <;> simp [passes]
  rw [List.filterM, aux, List.append_nil]
  exact congrArg Except.ok (List.reverse_reverse _)

end Pure

end EntityService.Outcome
