import EntityService.Proofs.Naming.Identifiers
import EntityService.Proofs.Path.Spelling
import EntityService.Proofs.Request.ResponseVariable

/-! The response variable as an identifier. If the name of the resource is an identifier, so is the
variable, unless a digit stands behind underscores at the beginning of the name. -/
namespace EntityService.Request

open Schema EntityService.Path Naming

variable {d : Definitions} {g : Graph} {settings : Settings} {captured : Captured} {m : Model}

/-- Every request has a response variable, which is a plain word if the name of the resource is an
identifier. It is an identifier itself if and only if the name is not numbered. -/
theorem responseVariable_usable_iff (built : d.build = .ok g)
    (modelled : Model.build g settings captured = .ok m) : ∃ s, m.last? = some s ∧
      (isSimpleName (unqualified s.name).toList = true →
        m.responseVariable ≠ "" ∧ Plain m.responseVariable.toList ∧
          (isSimpleName m.responseVariable.toList = true ↔
            ¬ Numbered (unqualified s.name).toList)) := by
  have names := (Definitions.build_eq_ok_iff.mp built).typeNames_nodup
  obtain ⟨path, resolved⟩ := Model.resolve_of_build modelled
  obtain ⟨s, final⟩ := Option.isSome_iff_exists.mp
    (List.getLast?_isSome.mpr (ne_nil_of_resolve names resolved))
  refine ⟨s, final, fun simple => ?_⟩
  obtain ⟨filled, plain, _⟩ := isSimpleName_iff.mp simple
  have nonempty : unqualified s.name ≠ "" := by simpa using filled
  have alike : Alike (unqualified s.name).toList
      (if m.isKeyed then singular (unqualified s.name) else unqualified s.name).toList := by
    split
    · exact singular_alike plain nonempty
    · exact ⟨filled, plain, Iff.rfl⟩
  obtain ⟨written, shape, first⟩ := lowerCamel_shape alike.plain (by simpa using alike.filled)
  have word : m.responseVariable =
      lowerCamel (if m.isKeyed then singular (unqualified s.name) else unqualified s.name) := by
    simp only [Model.responseVariable, Model.last?, final]
  rw [word]
  refine ⟨written, shape, ?_⟩
  rw [← alike.numbered, ← first, isSimpleName_iff]
  simp [written, shape]

/-- Letters, some of them by year. -/
def archive : Definitions := .ofDeclarations [
  .inNamespace "archive",
  .entityType "letter" [.property "sender" "Edm.String"],
  .entitySet "sent_letters" "letter",
  .entitySet "_2024" "letter"]

def archiveGraph : Graph := archive.build.toOption.getD { types := [] }

theorem archive_built : archive.build = .ok archiveGraph := by decide

/-- One of the letters that were sent. -/
theorem responseVariable_usable_iff_letter : archive.build = .ok archiveGraph ∧
    Model.build archiveGraph {} (asking "sent_letters") = .ok (askingModel "sent_letters") ∧
    isSimpleName "sent_letters".toList = true ∧
    (askingModel "sent_letters").responseVariable = "sentLetter" ∧
    isSimpleName "sentLetter".toList = true := by
  have modelled : Model.build archiveGraph {} (asking "sent_letters") =
      .ok (askingModel "sent_letters") := asking_modelled (by decide) (by decide)
  have simple : isSimpleName "sent_letters".toList = true := by decide
  have word : (askingModel "sent_letters").responseVariable = "sentLetter" := by decide
  obtain ⟨s, final, usable⟩ := responseVariable_usable_iff archive_built modelled
  cases final
  have usable := (usable simple).2.2
  rw [word] at usable
  refine ⟨archive_built, modelled, simple, word, usable.mpr ?_⟩
  rintro ⟨c, first, digit⟩
  cases first
  contradiction

/-- Where the letters of a year have the year for a name, the variable for one of them is a number. -/
theorem responseVariable_of_year : archive.build = .ok archiveGraph ∧
    Model.build archiveGraph {} (asking "_2024") = .ok (askingModel "_2024") ∧
    isSimpleName "_2024".toList = true ∧ (askingModel "_2024").responseVariable = "2024" ∧
    "2024".toList.head?.any Char.isDigit = true :=
  ⟨archive_built, asking_modelled (by decide) (by decide), by decide, by decide, by decide⟩

end EntityService.Request
