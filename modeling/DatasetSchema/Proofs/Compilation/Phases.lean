import DatasetSchema.Compilation.Basic
import DatasetSchema.Proofs.Declaration.Reordering

/-!
# The phases of a compilation

A document is read as a draft, the draft is loaded as a schema, and the schema is put in order and
written down. A phase that fails ends the compilation, and so every outcome of a compilation is
traced back to one of them. Notes have no part in it, but they are kept from phase to phase.

## Main results

* `Settings.outcome_parse_eq_ok_iff`, `Settings.outcome_parse_eq_error_iff`: outcomes of parsing;
* `Settings.outcome_generate_eq_error_iff`: a schema is refused for its circles;
* `Settings.outcome_compile_eq_ok_iff`, `Settings.outcome_compile_eq_error_iff`:
  outcomes of the whole.
-/

namespace DatasetSchema

open Attempt

/-! ## Reading and loading -/

namespace Schema

variable [Document.SyntaxReporter] {strict : Bool} {source : String} {schema : Schema}
  {d : Diagnostic}

/-- A document is a schema if it is a draft of one. -/
theorem outcome_ofText_eq_ok_iff :
    (ofText strict source).outcome = .ok schema ↔
      ∃ draft, Draft.ofText source = .ok draft ∧ (draft.load strict).outcome = .ok schema := by
  rw [ofText]
  simp [outcome_bind_eq_ok_iff, outcome_pure_eq_ok_iff, mapError_eq_ok_iff, Attempt.ofExcept,
    Attempt.note, Attempt.mapError]

/-- A document is no schema if it is no draft, or a draft that cannot be loaded. -/
theorem outcome_ofText_eq_error_iff :
    (ofText strict source).outcome = .error d ↔
      (∃ fault, Draft.ofText source = .error fault ∧ fault.diagnostic source = d) ∨
        ∃ draft, Draft.ofText source = .ok draft ∧
          ∃ fault, (draft.load strict).outcome = .error fault ∧ fault.diagnostic = d := by
  rw [ofText]
  simp [outcome_bind_eq_error_iff, outcome_pure_ne_error, mapError_eq_ok_iff, mapError_eq_error_iff,
    Attempt.ofExcept, Attempt.note, Attempt.mapError]

end Schema

namespace Settings

variable {settings : Settings} {source text : String} {schema : Schema} {failure : Failure}

theorem outcome_parse_eq_ok_iff [Document.SyntaxReporter] :
    (settings.parse source).outcome = .ok schema ↔
      ∃ draft, Draft.ofText source = .ok draft ∧
        (draft.load settings.strictIdentifiers).outcome = .ok schema := by
  rw [← Schema.outcome_ofText_eq_ok_iff, parse]
  simp [outcome_bind_eq_ok_iff, outcome_pure_eq_ok_iff, mapError_eq_ok_iff, Attempt.note,
    Attempt.mapError]

/-- Parsing gives well-formed schemas only. -/
theorem wellFormed_of_parse [Document.SyntaxReporter]
    (h : (settings.parse source).outcome = .ok schema) : schema.WellFormed := by
  obtain ⟨draft, -, hload⟩ := outcome_parse_eq_ok_iff.mp h
  exact Draft.wellFormed_of_load hload

/-- Parsing fails with the one diagnostic on the document, which is kept as it is. -/
theorem outcome_parse_eq_error_iff [Document.SyntaxReporter] :
    (settings.parse source).outcome = .error failure ↔
      ∃ d, (Schema.ofText settings.strictIdentifiers source).outcome = .error d ∧
        .parse [d] source = failure := by
  rw [parse]
  simp [outcome_bind_eq_error_iff, outcome_pure_ne_error, mapError_eq_error_iff, Attempt.note,
    Attempt.mapError]

/-! ## Putting in order and writing down -/

/-- A schema is refused if it has circles, with the diagnostics on them. -/
theorem outcome_generate_eq_error_iff :
    (settings.generate schema).outcome = .error failure ↔
      schema.circles ≠ [] ∧ .graph (schema.circles.map Dependency.circleDiagnostic) = failure := by
  by_cases h : schema.circles = []
  · obtain ⟨order, horder⟩ := Schema.exists_emissionOrder_of_circles h
    rw [outcome_generate_eq_ok_iff.mpr ⟨order, horder, rfl⟩]
    simp [h]
  · rw [outcome_generate_of_circles h]
    simp [h]

/-! ## The whole -/

theorem outcome_compile_eq_ok_iff [Document.SyntaxReporter] :
    (settings.compile source).outcome = .ok text ↔
      ∃ schema, (settings.parse source).outcome = .ok schema ∧
        (settings.generate schema).outcome = .ok text :=
  outcome_bind_eq_ok_iff

/-- Generating adds its warnings to those of parsing. -/
theorem warnings_compile [Document.SyntaxReporter]
    (h : (settings.parse source).outcome = .ok schema) :
    (settings.compile source).warnings =
      (settings.parse source).warnings ++ (settings.generate schema).warnings :=
  Attempt.warnings_bind_of_ok h

/-- A compilation fails in parsing, or after it in putting the definitions in order. -/
theorem outcome_compile_eq_error_iff [Document.SyntaxReporter] :
    (settings.compile source).outcome = .error failure ↔
      (settings.parse source).outcome = .error failure ∨
        ∃ schema, (settings.parse source).outcome = .ok schema ∧
          (settings.generate schema).outcome = .error failure :=
  outcome_bind_eq_error_iff

end Settings

end DatasetSchema
