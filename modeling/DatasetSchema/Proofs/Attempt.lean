import DatasetSchema.Journal

/-!
# Steps that follow one another

Of two steps the second one is taken only after the first has succeeded, and what fails ends the
whole. What an attempt notes is kept by what follows it. The warnings of an attempt are picked from
its notes, and so they follow one another as the notes do.

## Main definitions

* `Attempt.warnings`: the warnings among the notes of an attempt.

## Main results

* `bind_eq_ok_iff`, `Attempt.outcome_bind_eq_ok_iff`: when two steps succeed;
* `bind_eq_error_iff`, `Attempt.outcome_bind_eq_error_iff`: when they fail;
* `Attempt.bind_of_ok`, `Attempt.bind_of_error`: what comes of two attempts;
* `Attempt.warnings_bind_of_ok`: the warnings of two attempts.
-/

namespace DatasetSchema

/-- A computation with two steps succeeds if both succeed. -/
theorem bind_eq_ok_iff {ε α β : Type} {x : Except ε α} {f : α → Except ε β} {b : β} :
    (x >>= f) = .ok b ↔ ∃ a, x = .ok a ∧ f a = .ok b := by
  cases x with
  | error e => exact ⟨nofun, nofun⟩
  | ok a =>
    constructor
    · intro h
      exact ⟨a, rfl, h⟩
    · rintro ⟨a', ha, h⟩
      injection ha with ha
      rw [ha]
      exact h

/-- A computation with two steps fails if the first one fails, or the second one after it. -/
theorem bind_eq_error_iff {ε α β : Type} {x : Except ε α} {f : α → Except ε β} {e : ε} :
    (x >>= f) = .error e ↔ x = .error e ∨ ∃ a, x = .ok a ∧ f a = .error e := by
  cases x with
  | error e' =>
    show Except.error e' = .error e ↔ _
    simp
  | ok a =>
    show f a = .error e ↔ _
    simp

/-- A check is followed by the second step if it succeeds. -/
theorem check_bind_eq_ok_iff {ε β : Type} {x : Except ε Unit} {f : Unit → Except ε β} {b : β} :
    (x >>= f) = .ok b ↔ x = .ok () ∧ f () = .ok b := by
  rw [bind_eq_ok_iff]
  exact ⟨fun ⟨_, h⟩ => h, fun h => ⟨(), h⟩⟩

theorem mapError_eq_ok_iff {ε ε' α : Type} {x : Except ε α} {f : ε → ε'} {a : α} :
    x.mapError f = .ok a ↔ x = .ok a := by
  cases x with
  | error e => exact ⟨nofun, nofun⟩
  | ok b =>
    show Except.ok b = .ok a ↔ _
    rw [Except.ok.injEq, Except.ok.injEq]

theorem mapError_eq_error_iff {ε ε' α : Type} {x : Except ε α} {f : ε → ε'} {e' : ε'} :
    x.mapError f = .error e' ↔ ∃ e, x = .error e ∧ f e = e' := by
  cases x with
  | error e =>
    show Except.error (f e) = .error e' ↔ _
    simp
  | ok a => exact ⟨nofun, nofun⟩

namespace Attempt

variable {ε ε' α β : Type} {x : Attempt ε α} {f : α → Attempt ε β} {a : α} {b : β}
  {e : ε} {n : Note}

/-- After a success the notes of what follows are added. -/
theorem bind_of_ok (h : x.outcome = .ok a) :
    x >>= f = ⟨x.notes ++ (f a).notes, (f a).outcome⟩ := by
  show Attempt.bind x f = _
  rw [Attempt.bind, h]

/-- After a failure nothing follows. -/
theorem bind_of_error (h : x.outcome = .error e) : x >>= f = ⟨x.notes, .error e⟩ := by
  show Attempt.bind x f = _
  rw [Attempt.bind, h]

/-! ## Outcomes -/

theorem outcome_bind (x : Attempt ε α) (f : α → Attempt ε β) :
    (x >>= f).outcome = x.outcome >>= fun a => (f a).outcome := by
  cases h : x.outcome with
  | ok a => rw [bind_of_ok h]; rfl
  | error e => rw [bind_of_error h]; rfl

theorem outcome_bind_eq_ok_iff :
    (x >>= f).outcome = .ok b ↔ ∃ a, x.outcome = .ok a ∧ (f a).outcome = .ok b := by
  rw [outcome_bind, bind_eq_ok_iff]

theorem outcome_bind_eq_error_iff :
    (x >>= f).outcome = .error e ↔
      x.outcome = .error e ∨ ∃ a, x.outcome = .ok a ∧ (f a).outcome = .error e := by
  rw [outcome_bind, bind_eq_error_iff]

theorem outcome_pure_eq_ok_iff {a' : α} : (pure a : Attempt ε α).outcome = .ok a' ↔ a = a' := by
  show Except.ok a = .ok a' ↔ a = a'
  rw [Except.ok.injEq]

theorem outcome_pure_ne_error : (pure a : Attempt ε α).outcome ≠ .error e := nofun

theorem outcome_fail_ne_ok : (fail e : Attempt ε α).outcome ≠ .ok a := nofun

theorem outcome_fail_eq_error_iff {e' : ε} :
    (fail e : Attempt ε α).outcome = .error e' ↔ e = e' := by
  show Except.error e = .error e' ↔ e = e'
  rw [Except.error.injEq]

/-- What is made of a result at the end does not change whether there is one. -/
theorem isOk_bind_pure (x : Attempt ε α) (g : α → β) :
    (x >>= fun a => pure (g a)).outcome.isOk = x.outcome.isOk := by
  rw [outcome_bind]
  cases x.outcome <;> rfl

/-! ## Notes -/

/-- The notes of two attempts are those of the first and, if it succeeds, those of the second. -/
theorem mem_notes_bind_iff :
    n ∈ (x >>= f).notes ↔ n ∈ x.notes ∨ ∃ a, x.outcome = .ok a ∧ n ∈ (f a).notes := by
  cases h : x.outcome with
  | ok a => simp [bind_of_ok h]
  | error e => simp [bind_of_error h]

theorem notes_bind_eq_nil (hx : x.notes = []) (hf : ∀ a, (f a).notes = []) :
    (x >>= f).notes = [] := by
  rw [List.eq_nil_iff_forall_not_mem]
  intro n hn
  rcases mem_notes_bind_iff.mp hn with hn | ⟨a, -, hn⟩
  · simp [hx] at hn
  · simp [hf a] at hn

/-! ## Warnings -/

/-- The warnings among the notes of an attempt, in their order. -/
def warnings (x : Attempt ε α) : List Note :=
  x.notes.filter fun note => note.level = .warn

theorem warnings_bind_of_ok (h : x.outcome = .ok a) :
    (x >>= f).warnings = x.warnings ++ (f a).warnings := by
  rw [bind_of_ok h, warnings, List.filter_append]
  rfl

theorem warnings_bind_of_error (h : x.outcome = .error e) : (x >>= f).warnings = x.warnings := by
  rw [bind_of_error h]
  rfl

/-- What is made of a result at the end does not change the warnings. -/
theorem warnings_bind_pure (x : Attempt ε α) (g : α → β) :
    (x >>= fun a => pure (g a)).warnings = x.warnings := by
  cases h : x.outcome with
  | ok a => rw [warnings_bind_of_ok h]; exact List.append_nil _
  | error e => rw [warnings_bind_of_error h]

@[simp]
theorem warnings_note (n : Note) :
    (note n : Attempt ε Unit).warnings = if n.level = .warn then [n] else [] := by
  by_cases h : n.level = .warn <;> simp [warnings, note, h]

@[simp]
theorem warnings_pure (a : α) : (pure a : Attempt ε α).warnings = [] := rfl

@[simp]
theorem warnings_fail (e : ε) : (fail e : Attempt ε α).warnings = [] := rfl

@[simp]
theorem warnings_ofExcept (outcome : Except ε α) : (ofExcept outcome).warnings = [] := rfl

@[simp]
theorem warnings_mapError (f : ε → ε') (x : Attempt ε α) :
    (x.mapError f).warnings = x.warnings := rfl

end Attempt

end DatasetSchema
