import GraphQLTree.Proofs.Locations
import GraphQLTree.Proofs.Parsing.Returns

/-! How a text can be refused. What a grammar reads is never refused for its names or types; the only
end of a reading other than a tree or a misplaced token is a text between triple quotes that cannot be
cut. -/

namespace GraphQLTree

open Source

namespace Document

lemma parseSchema_cases (text : String) :
    (∃ items, schemaItems text = .ok items ∧
      parseSchema text = .ok ⟨items.map (·.tree (·.location (.ofText text))), none⟩) ∨
    (schemaItems text = .error .misplaced ∧ parseSchema text = .error .schema) ∨
    (schemaItems text = .error .splitCharacter ∧ parseSchema text = .error .splitCharacter) := by
  rw [parseSchema]
  cases hitems : schemaItems text with
  | error r =>
    cases r with
    | misplaced => exact .inr (.inl ⟨rfl, rfl⟩)
    | splitCharacter => exact .inr (.inr ⟨rfl, rfl⟩)
  | ok items =>
    have hchecked : ∀ item ∈ items, item.check = .ok () := fun item hi =>
      ((Grammar.yields_schemaDocument fun _ _ => named_of_mem_lexemes).of_runAll (fun _ ht => ht) hitems
        item hi).checked
    refine .inl ⟨items, rfl, ?_⟩
    simp only [schemaDocument_eq, forM_list_eq_ok.mpr hchecked]
    rfl

lemma parseExecutable_cases (text : String) :
    (∃ definitions, executableDefinitions text = .ok definitions ∧
      parseExecutable text = .ok ⟨definitions.map (·.tree (·.location (.ofText text))), none⟩) ∨
    (executableDefinitions text = .error .misplaced ∧ parseExecutable text = .error .executable) ∨
    (executableDefinitions text = .error .splitCharacter ∧ parseExecutable text = .error .splitCharacter) := by
  rw [parseExecutable]
  cases hdefinitions : executableDefinitions text with
  | error r =>
    cases r with
    | misplaced => exact .inr (.inl ⟨rfl, rfl⟩)
    | splitCharacter => exact .inr (.inr ⟨rfl, rfl⟩)
  | ok definitions =>
    have hchecked : ∀ d ∈ definitions, d.check = .ok () := fun d hd =>
      ((Grammar.yields_executableDocument fun _ _ => named_of_mem_lexemes).of_runAll (fun _ ht => ht)
        hdefinitions d hd).checked
    refine .inl ⟨definitions, rfl, ?_⟩
    simp only [executableDocument_eq, forM_list_eq_ok.mpr hchecked]
    rfl

/-- No text is refused for what its tree would be. Each is read or has a misplaced token, unless the
reading breaks off, which it does only at a text that cannot be cut. -/
theorem refusals_of_parse (text : String) :
    (∀ e, parseSchema text ≠ .error (.tree e)) ∧ (∀ e, parseExecutable text ≠ .error (.tree e)) ∧
      ((∃ d, parseSchema text = .ok d) ∨ parseSchema text = .error .schema ↔
        schemaItems text ≠ .error .splitCharacter) ∧
      ((∃ d, parseExecutable text = .ok d) ∨ parseExecutable text = .error .executable ↔
        executableDefinitions text ≠ .error .splitCharacter) ∧
      ((∀ t ∈ lexemes text.toList, t.token.isWhole = true) →
        schemaItems text ≠ .error .splitCharacter ∧ executableDefinitions text ≠ .error .splitCharacter) := by
  have hwhole : (∀ t ∈ lexemes text.toList, t.token.isWhole = true) →
      schemaItems text ≠ .error .splitCharacter ∧ executableDefinitions text ≠ .error .splitCharacter :=
    fun h => ⟨Grammar.returns_schemaDocument.runAll_ne h, Grammar.returns_executableDocument.runAll_ne h⟩
  refine ⟨?_, ?_, ?_, ?_, hwhole⟩
  · rcases parseSchema_cases text with ⟨items, -, hp⟩ | ⟨-, hp⟩ | ⟨-, hp⟩ <;> simp [hp]
  · rcases parseExecutable_cases text with ⟨definitions, -, hp⟩ | ⟨-, hp⟩ | ⟨-, hp⟩ <;> simp [hp]
  · rcases parseSchema_cases text with ⟨items, hi, hp⟩ | ⟨hi, hp⟩ | ⟨hi, hp⟩ <;> simp [hi, hp]
  · rcases parseExecutable_cases text with ⟨definitions, hd, hp⟩ | ⟨hd, hp⟩ | ⟨hd, hp⟩ <;> simp [hd, hp]

/-- A description whose lines are indented by a blank of one byte and by one of three. -/
def unevenlyIndented : String :=
  "\"\"\"\n a\n\u3000\n b\"\"\"scalar A"

theorem unevenlyIndented_is_refused :
    ¬((∃ d, parseSchema unevenlyIndented = .ok d) ∨ parseSchema unevenlyIndented = .error .schema) := by
  have h : parseSchema unevenlyIndented = .error .splitCharacter := rfl
  simp [h]

end Document

end GraphQLTree
