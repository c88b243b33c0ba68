import EntityService.Proofs.Path.Steps
import EntityService.Proofs.Path.Walks

/-! When a path fails. Where its elements so far have led, the next one fails exactly for one of
the reasons for which a single step is refused, and the error names that element and its position. -/
namespace EntityService.Path

open Schema Outcome

variable {d : Definitions} {g : Graph} {method : Http.Method} {c : Context} {path : List String}

theorem Led.resolve_snoc_eq_error_iff {before : List String} {raw : String} {e : PathError}
    (led : Led g method before c) : resolve g method (before ++ [raw]) = .error e ↔
      ∃ refusal, advance g method c (.ofText raw) = .error refusal ∧
        e = refusal.toError raw before.length method := by
  obtain ⟨groups, walked, rfl⟩ := led.walk
  rw [resolve_eq_error_iff (List.append_ne_nil_of_right_ne_nil _ (List.cons_ne_nil _ _)),
    walk_append_of_ok walked, Nat.zero_add, map_eq_error_iff]
  cases advanced : advance g method (Context.root.after groups.flatten) (.ofText raw) with
  | error refusal => simp [walk_cons_of_error advanced, eq_comm]
  | ok edges => simp [walk_cons_of_ok advanced, walk_nil, Except.map]

/-- A path whose elements before the last one lead somewhere fails if and only if the last one is
refused there, and its error is that refusal. -/
theorem resolve_take_eq_error_iff (built : d.build = .ok g) {k : Nat} (bound : k < path.length)
    (led : Led g method (path.take k) c) {e : PathError} :
    resolve g method (path.take (k + 1)) = .error e ↔
      ∃ refusal, Refused g method c (.ofText path[k]) refusal ∧
        e = refusal.toError path[k] k method := by
  have names := (Definitions.build_eq_ok_iff.mp built).typeNames_nodup
  have position : (path.take k).length = k := List.length_take_of_le (Nat.le_of_lt bound)
  rw [← List.take_append_getElem bound, led.resolve_snoc_eq_error_iff, position]
  simp only [advance_eq_error_iff names]

/-- A function is not invoked by a method that writes. -/
theorem resolve_take_eq_error_iff_delta :
    directory.build = .ok directoryGraph ∧ 1 < ["members", "delta"].length ∧
    Led directoryGraph ⟨"POST"⟩ (["members", "delta"].take 1) (.typed ⟨17, true⟩) ∧
    ∃ refusal, Refused directoryGraph ⟨"POST"⟩ (.typed ⟨17, true⟩) (.ofText "delta") refusal ∧
      .verbMismatch "delta" .function ⟨"POST"⟩ 1 = refusal.toError "delta" 1 ⟨"POST"⟩ := by
  have bound : 1 < ["members", "delta"].length := by decide
  have led : Led directoryGraph ⟨"POST"⟩ (["members", "delta"].take 1) (.typed ⟨17, true⟩) :=
    .inr ⟨label 0 none [.toType "members" .entitySetRoot ⟨17, true⟩], _, by decide, rfl, rfl⟩
  have refused := (resolve_take_eq_error_iff directory_built bound led).mp
    (by decide : _ = Except.error (.verbMismatch "delta" .function ⟨"POST"⟩ 1))
  exact ⟨directory_built, bound, led, refused⟩

end EntityService.Path
