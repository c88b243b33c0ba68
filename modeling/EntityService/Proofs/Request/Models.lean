import EntityService.Proofs.Outcome
import EntityService.Request.Model

/-! What a model is made of. -/
namespace EntityService.Request

open Outcome

variable {g : Schema.Graph} {settings : Settings} {captured : Captured} {m : Model}

/-- The parts of a request are read one by one, and all of them have to succeed. -/
theorem Model.build_eq_ok_iff : Model.build g settings captured = .ok m ↔ ∃ parts,
    decompose captured.url settings.serviceRoot = .ok parts ∧
    Path.resolve g captured.method parts.path = .ok m.segments ∧
    Query.Options.ofPairs parts.query captured.headers settings.reserved = .ok m.options ∧
    captured.readBody = .ok m.body ∧ m.method = captured.method := by
  simp only [Model.build, bind_eq_ok_iff, mapError_eq_ok_iff, pure_eq_ok_iff]
  constructor
  · rintro ⟨parts, decomposed, segments, resolved, options, read, body, understood, rfl⟩
    exact ⟨parts, decomposed, resolved, read, understood, rfl⟩
  · rintro ⟨parts, decomposed, resolved, read, understood, method⟩
    refine ⟨parts, decomposed, _, resolved, _, read, _, understood, ?_⟩
    rw [← method]

theorem Model.resolve_of_build (modelled : Model.build g settings captured = .ok m) :
    ∃ path, Path.resolve g captured.method path = .ok m.segments := by
  obtain ⟨parts, _, resolved, _⟩ := Model.build_eq_ok_iff.mp modelled
  exact ⟨parts.path, resolved⟩

end EntityService.Request
