import DatasetSchema.Draft.Load
import DatasetSchema.Proofs.Attempt

/-!
# Strict runs

Strict settings refuse the first name that lenient ones pass over, and otherwise there is no
difference. So a strict run is the lenient one, ended at its first note on a name that is passed
over. To end an attempt there is to end its parts, since every name is looked at before anything
else is done with what stands under it.

## Main definitions

* `Draft.refusing`: an attempt that is ended where it passes over a name.

## Main results

* `Draft.refusing_bind`: ending two attempts that follow one another;
* `Draft.load_strict_eq_refusing`: a strict run is a lenient one that is ended.
-/

namespace DatasetSchema.Draft

open Attempt
open Document (Value)

/-! ## Ending an attempt at the first name passed over -/

/-- The fault that a note on a name that is passed over would be under strict settings. -/
def refusal? : Note → Option Fault
  | .nameSkipped role name owner problem => some (.unusableName role name owner problem)
  | _ => none

/-- The attempt, ended where it passes over a name. -/
def refusing {α : Type} (x : Attempt Fault α) : Attempt Fault α :=
  match x.notes.findSome? refusal? with
  | some fault => ⟨x.notes.takeWhile fun note => (refusal? note).isNone, .error fault⟩
  | none => x

section Refusing

variable {α β : Type} {x : Attempt Fault α} {fault : Fault}

theorem refusing_eq_self (h : x.notes.findSome? refusal? = none) : refusing x = x := by
  rw [refusing, h]

/-- What is noted before the first name that is passed over is kept. -/
theorem refusing_eq_error {before after : List Note} {note : Note}
    (hnotes : x.notes = before ++ note :: after) (hbefore : ∀ n ∈ before, refusal? n = none)
    (hnote : refusal? note = some fault) : refusing x = ⟨before, .error fault⟩ := by
  have hfind : x.notes.findSome? refusal? = some fault := by
    rw [List.findSome?_eq_some_iff]
    exact ⟨before, note, after, hnotes, hnote, hbefore⟩
  have hkept : ∀ n ∈ before, (refusal? n).isNone := fun n hn => by simp [hbefore n hn]
  rw [refusing, hfind]
  simp [hnotes, List.takeWhile_append_of_pos hkept, hnote]

/-- Of attempts that follow one another each is ended, and nothing follows an end. -/
theorem refusing_bind (x : Attempt Fault α) (f : α → Attempt Fault β) :
    refusing (x >>= f) = refusing x >>= fun a => refusing (f a) := by
  -- The first note that would be refused is one of the first attempt, one of the second, or none.
  cases hfind : x.notes.findSome? refusal? with
  | some fault =>
    obtain ⟨before, note, after, hnotes, hnote, hbefore⟩ := List.findSome?_eq_some_iff.mp hfind
    rw [refusing_eq_error hnotes hbefore hnote]
    show refusing (x >>= f) = ⟨before, .error fault⟩
    cases hx : x.outcome with
    | error e =>
      rw [bind_of_error hx]
      exact refusing_eq_error hnotes hbefore hnote
    | ok a =>
      rw [bind_of_ok hx]
      have hall : x.notes ++ (f a).notes = before ++ note :: (after ++ (f a).notes) := by
        simp [hnotes]
      exact refusing_eq_error hall hbefore hnote
  | none =>
    rw [refusing_eq_self hfind]
    cases hx : x.outcome with
    | error e =>
      rw [bind_of_error hx, bind_of_error hx]
      exact refusing_eq_self hfind
    | ok a =>
      rw [bind_of_ok hx, bind_of_ok hx]
      cases hrest : (f a).notes.findSome? refusal? with
      | none =>
        rw [refusing_eq_self hrest]
        apply refusing_eq_self
        simp [hfind, hrest]
      | some fault =>
        obtain ⟨before, note, after, hnotes, hnote, hbefore⟩ := List.findSome?_eq_some_iff.mp hrest
        rw [refusing_eq_error hnotes hbefore hnote]
        have hall : x.notes ++ (f a).notes = (x.notes ++ before) ++ note :: after := by
          simp [hnotes]
        rw [List.findSome?_eq_none_iff] at hfind
        exact refusing_eq_error hall (List.forall_mem_append.mpr ⟨hfind, hbefore⟩) hnote

end Refusing

/-! ## A strict run -/

section Strict

variable {seen : List String}

/-- A name is refused where it would be passed over. -/
theorem acceptName_strict (role : NameRole) (owner : Option String) (name : String) :
    acceptName true role owner name = refusing (acceptName false role owner name) := by
  rw [acceptName, acceptName]
  cases nameProblem? role name <;> rfl

theorem loadFields_strict (definition : String) (written : List (String × Value)) :
    loadFields true definition seen written =
      refusing (loadFields false definition seen written) := by
  induction written generalizing seen with
  | nil => rfl
  | cons entry rest ih =>
    obtain ⟨name, written⟩ := entry
    rw [loadFields, loadFields, refusing_bind, ← acceptName_strict]
    congr 1
    funext taken
    -- Whether a name is taken is the same in both runs, so the loops take the same way from there.
    split
    · split
      · rfl
      · rw [refusing_bind]
        congr 1
        funext type
        rw [refusing_bind, ih]
        rfl
    · exact ih

theorem loadClasses_strict (definition : String) (written : List Value) :
    loadClasses true definition seen written =
      refusing (loadClasses false definition seen written) := by
  induction written generalizing seen with
  | nil => rfl
  | cons value rest ih =>
    rw [loadClasses, loadClasses]
    split
    · rfl
    · next name _ =>
      rw [refusing_bind, ← acceptName_strict]
      congr 1
      funext taken
      split
      · split
        · split <;> rfl
        · rw [refusing_bind, ih]
          rfl
      · exact ih

theorem Definition.load_strict (draft : Definition) (name : String) :
    draft.load true name = refusing (draft.load false name) := by
  rw [load, load]
  split
  · rfl
  · split
    · rfl
    · split
      · rfl
      · rw [refusing_bind, loadFields_strict]
        rfl
    · split
      · rfl
      · rw [refusing_bind, loadClasses_strict]
        rfl

theorem loadInto_strict (schema : Schema) (written : List (String × Definition)) :
    loadInto true schema written = refusing (loadInto false schema written) := by
  induction written generalizing schema with
  | nil => rfl
  | cons entry rest ih =>
    obtain ⟨name, draft⟩ := entry
    rw [loadInto, loadInto, refusing_bind, ← acceptName_strict]
    congr 1
    funext taken
    split
    · rw [refusing_bind, Definition.load_strict]
      congr 1
      funext definition
      split
      · rfl
      · rw [refusing_bind]
        congr 1
        funext _
        exact ih _
    · exact ih schema

/-- A strict run is a lenient one, ended where that passes over a name. -/
theorem load_strict_eq_refusing (draft : Draft) :
    draft.load true = refusing (draft.load false) := by
  rw [load, load]
  split
  · rfl
  · exact loadInto_strict .empty _

end Strict

end DatasetSchema.Draft
