import DatasetSchema.Proofs.Draft.Reload
import DatasetSchema.Proofs.Draft.Strict
import Mathlib.Data.List.Infix

/-!
# Lenient runs

A lenient run comes to what a strict one comes to when all unusable names are taken out first. It
leaves a note on each of them that it meets, in document order. An entry is met if the entries
before it are accepted: the loops over definitions, fields and classes go on with the next entry
after one that is accepted, and they end with the first one that is not.

## Main definitions

* `Draft.usablePart`: a draft without its unusable names and what stands under them;
* `Draft.met`: the entries that are met when entries are taken one after the other;
* `Draft.skipNotes`: the notes on the unusable names that a lenient run meets.

## Main results

* `Draft.outcome_load_usablePart`: what a lenient run comes to;
* `Draft.IsLoop.warnings_eq`: the warnings of a loop;
* `Draft.warnings_load`: the warnings of a lenient run;
* `Draft.strict_load_refuses_first_skip`: strict and lenient runs compared.
-/

namespace DatasetSchema.Draft

open Attempt
open Document (Value)

/-! ## One entry -/

section Steps

variable {strict : Bool} {definition name : String} {seen : List String} {problem : NameProblem}

theorem exists_problem_of_not_usable {role : NameRole} (h : ¬ Usable role name) :
    ∃ problem, nameProblem? role name = some problem :=
  Option.ne_none_iff_exists'.mp fun hnone => h (nameProblem?_eq_none_iff.mp hnone)

theorem loadFields_cons_of_usable {written : Value} {rest : List (String × Value)}
    (h : Usable .field name) :
    loadFields strict definition seen ((name, written) :: rest) =
      if seen.contains name then fail (.duplicateMember .field name definition)
      else
        Attempt.ofExcept (fieldType definition name written) >>= fun type =>
          loadFields strict definition (name :: seen) rest >>= fun others =>
            pure (⟨name, type⟩ :: others) := by
  rw [loadFields, acceptName_of_usable h]
  rfl

theorem loadFields_cons_of_problem {written : Value} {rest : List (String × Value)}
    (h : nameProblem? .field name = some problem) :
    loadFields false definition seen ((name, written) :: rest) =
      note (.nameSkipped .field name (some definition) problem) >>= fun _ =>
        loadFields false definition seen rest := by
  rw [loadFields, acceptName, h]
  rfl

theorem loadClasses_cons_of_usable {value : Value} {rest : List Value}
    (hname : value.scalarText? = some name) (h : Usable .domainClass name) :
    loadClasses strict definition seen (value :: rest) =
      match seen.find? fun other => memberName other == memberName name with
      | some other =>
        if other == name then .fail (.duplicateMember .domainClass name definition)
        else .fail (.collidingClasses other name definition)
      | none =>
        loadClasses strict definition (name :: seen) rest >>= fun others =>
          pure (name :: others) := by
  rw [loadClasses, hname]
  simp only [acceptName_of_usable h]
  rfl

theorem loadClasses_cons_of_problem {value : Value} {rest : List Value}
    (hname : value.scalarText? = some name) (h : nameProblem? .domainClass name = some problem) :
    loadClasses false definition seen (value :: rest) =
      note (.nameSkipped .domainClass name (some definition) problem) >>= fun _ =>
        loadClasses false definition seen rest := by
  rw [loadClasses, hname]
  simp only [acceptName, h]
  rfl

theorem loadInto_cons_of_usable {schema : Schema} {draft : Definition}
    {rest : List (String × Definition)} (h : Usable .definition name) :
    loadInto strict schema ((name, draft) :: rest) =
      draft.load strict name >>= fun definition =>
        match schema.insert? ⟨name, definition⟩ with
        | none => .fail (.duplicateDefinition name)
        | some schema =>
          note (.definitionLoaded name definition.kind) >>= fun _ =>
            loadInto strict schema rest := by
  rw [loadInto, acceptName_of_usable h]
  rfl

theorem loadInto_cons_of_problem {schema : Schema} {draft : Definition}
    {rest : List (String × Definition)} (h : nameProblem? .definition name = some problem) :
    loadInto false schema ((name, draft) :: rest) =
      note (.nameSkipped .definition name none problem) >>= fun _ =>
        loadInto false schema rest := by
  rw [loadInto, acceptName, h]
  rfl

end Steps

/-! ## What a lenient run comes to -/

/-- A definition without the members that have unusable names. -/
def Definition.usablePart (draft : Definition) : Definition where
  tag := draft.tag
  fields := draft.fields.map (usableEntries .field)
  classes := draft.classes.map fun written =>
    written.filter fun value => ∀ name ∈ value.scalarText?, Usable .domainClass name

/-- A draft without the definitions and members that have unusable names. -/
def usablePart (draft : Draft) : Draft where
  definitions := draft.definitions.map fun written =>
    (usableEntries .definition written).map fun entry => (entry.1, entry.2.usablePart)

section Outcomes

variable {definition : String} {seen : List String}

theorem outcome_loadFields_usableEntries (written : List (String × Value)) :
    (loadFields true definition seen (usableEntries .field written)).outcome =
      (loadFields false definition seen written).outcome := by
  induction written generalizing seen with
  | nil => rfl
  | cons entry rest ih =>
    obtain ⟨name, written⟩ := entry
    by_cases husable : Usable .field name
    · rw [usableEntries_cons_of_usable husable, loadFields_cons_of_usable husable,
        loadFields_cons_of_usable husable]
      split
      · rfl
      · simp only [outcome_bind, ih]
    · obtain ⟨problem, hproblem⟩ := exists_problem_of_not_usable husable
      rw [usableEntries_cons_of_not_usable husable, loadFields_cons_of_problem hproblem, ih]
      rfl

theorem outcome_loadClasses_filter (written : List Value) :
    (loadClasses true definition seen
        (written.filter fun value => ∀ name ∈ value.scalarText?,
          Usable .domainClass name)).outcome =
      (loadClasses false definition seen written).outcome := by
  induction written generalizing seen with
  | nil => rfl
  | cons value rest ih =>
    cases hname : value.scalarText? with
    | none =>
      -- What is no scalar has no name, and so it is kept and fails in both runs.
      rw [List.filter_cons_of_pos (by simp [hname]), loadClasses, loadClasses, hname]
    | some name =>
      by_cases husable : Usable .domainClass name
      · rw [List.filter_cons_of_pos (by simpa [hname] using husable),
          loadClasses_cons_of_usable hname husable, loadClasses_cons_of_usable hname husable]
        split
        · rfl
        · simp only [outcome_bind, ih]
      · obtain ⟨problem, hproblem⟩ := exists_problem_of_not_usable husable
        rw [List.filter_cons_of_neg (by simpa [hname] using husable),
          loadClasses_cons_of_problem hname hproblem, ih]
        rfl

theorem Definition.outcome_load_usablePart (draft : Definition) (name : String) :
    (draft.usablePart.load true name).outcome = (draft.load false name).outcome := by
  obtain ⟨tag, fields, classes⟩ := draft
  simp only [load, usablePart]
  split
  · rfl
  · split
    · rfl
    · cases fields with
      | none => rfl
      | some written => simp only [Option.map_some, outcome_bind, outcome_loadFields_usableEntries]
    · cases classes with
      | none => rfl
      | some written => simp only [Option.map_some, outcome_bind, outcome_loadClasses_filter]

theorem outcome_loadInto_usablePart (schema : Schema) (written : List (String × Definition)) :
    (loadInto true schema
        ((usableEntries .definition written).map fun entry =>
          (entry.1, entry.2.usablePart))).outcome =
      (loadInto false schema written).outcome := by
  induction written generalizing schema with
  | nil => rfl
  | cons entry rest ih =>
    obtain ⟨name, draft⟩ := entry
    by_cases husable : Usable .definition name
    · rw [usableEntries_cons_of_usable husable, List.map_cons, loadInto_cons_of_usable husable,
        loadInto_cons_of_usable husable, outcome_bind, outcome_bind,
        Definition.outcome_load_usablePart]
      congr 1
      funext definition
      split
      · rfl
      · simp only [outcome_bind, ih]
    · obtain ⟨problem, hproblem⟩ := exists_problem_of_not_usable husable
      rw [usableEntries_cons_of_not_usable husable, loadInto_cons_of_problem hproblem, ih]
      rfl

/-- A lenient run comes to what a strict one comes to without the unusable names. -/
theorem outcome_load_usablePart (draft : Draft) :
    (draft.usablePart.load true).outcome = (draft.load false).outcome := by
  obtain ⟨definitions⟩ := draft
  cases definitions with
  | none => rfl
  | some written => exact outcome_loadInto_usablePart .empty written

end Outcomes

/-! ## What a lenient run meets -/

/-- The entries that are met when entries are taken one after the other: those with only
accepted ones before them. -/
def met {α : Type} (accepted : List α → Bool) (entries : List α) : List α :=
  ((entries.inits.zip entries).filter fun e => accepted e.1).map Prod.snd

theorem met_cons {α : Type} (accepted : List α → Bool) (a : α) (rest : List α) :
    met accepted (a :: rest) =
      (if accepted [] then [a] else []) ++ met (fun before => accepted (a :: before)) rest := by
  have hinits : ((rest.inits.map (a :: ·)).zip rest).filter (fun e => accepted e.1) =
      ((rest.inits.zip rest).filter fun e => accepted (a :: e.1)).map (Prod.map (a :: ·) id) := by
    rw [List.zip_map_left, List.filter_map]
    rfl
  rw [met, List.inits_cons, List.zip_cons_cons, List.filter_cons, hinits]
  by_cases h : accepted [] <;> simp [h, met, Function.comp_def]

theorem met_eq_nil {α : Type} {accepted : List α → Bool} (h : ∀ before, accepted before = false)
    (entries : List α) : met accepted entries = [] := by
  simp [met, h]

/-- A loop over entries with the warnings that each entry calls for: an entry is accepted, and the
loop goes on in another state, or nothing follows. -/
structure IsLoop {σ α β : Type} (loop : σ → List α → Attempt Fault β) (warningsOf : α → List Note) :
    Prop where
  /-- Without entries there is nothing to warn of. -/
  nil : ∀ state, (loop state []).outcome.isOk ∧ (loop state []).warnings = []
  /-- An entry is accepted or ends the loop, and is warned of in either case. -/
  cons : ∀ state entry,
    (∃ next, ∀ rest,
      (loop state (entry :: rest)).warnings = warningsOf entry ++ (loop next rest).warnings ∧
        (loop state (entry :: rest)).outcome.isOk = (loop next rest).outcome.isOk) ∨
    ∀ rest, (loop state (entry :: rest)).warnings = warningsOf entry ∧
      (loop state (entry :: rest)).outcome.isOk = false

/-- The warnings of a loop are those of the entries that it meets. -/
theorem IsLoop.warnings_eq {σ α β : Type} {loop : σ → List α → Attempt Fault β}
    {warningsOf : α → List Note} (h : IsLoop loop warningsOf) (state : σ) (entries : List α) :
    (loop state entries).warnings =
      (met (fun before => (loop state before).outcome.isOk) entries).flatMap warningsOf := by
  induction entries generalizing state with
  | nil => rw [(h.nil state).2]; rfl
  | cons entry rest ih =>
    rw [met_cons, if_pos (h.nil state).1, List.singleton_append, List.flatMap_cons]
    rcases h.cons state entry with ⟨next, hnext⟩ | hend
    · rw [(hnext rest).1, ih next]
      simp only [(hnext _).2]
    · rw [(hend rest).1, met_eq_nil fun before => (hend before).2]
      simp

/-- The note on a name, if the name is unusable. -/
def skipNote (role : NameRole) (owner : Option String) (name : String) : List Note :=
  ((nameProblem? role name).map (.nameSkipped role name owner)).toList

/-- The notes on the unusable names that a lenient run meets in a definition with a usable name. -/
def Definition.skipNotes (name : String) (draft : Definition) : List Note :=
  match draft.tag.bind DefinitionKind.ofTag? with
  | some .struct =>
    (met (fun before => (loadFields false name [] before).outcome.isOk)
      (draft.fields.getD [])).flatMap fun entry => skipNote .field (some name) entry.1
  | some .classDomain =>
    (met (fun before => (loadClasses false name [] before).outcome.isOk)
      (draft.classes.getD [])).flatMap
      fun value => value.scalarText?.toList.flatMap (skipNote .domainClass (some name))
  | none => []

/-- The notes on the unusable names that a lenient run meets, in document order. -/
def skipNotes (draft : Draft) : List Note :=
  (met (fun before => (loadInto false .empty before).outcome.isOk)
    (draft.definitions.getD [])).flatMap fun entry =>
      if Usable .definition entry.1 then entry.2.skipNotes entry.1
      else skipNote .definition none entry.1

/-! ## The warnings of a lenient run -/

theorem skipNote_of_usable {role : NameRole} {owner : Option String} {name : String}
    (h : Usable role name) : skipNote role owner name = [] := by
  rw [skipNote, nameProblem?_eq_none_iff.mpr h]
  rfl

theorem isLoop_loadFields (definition : String) :
    IsLoop (loadFields false definition) fun entry =>
      skipNote .field (some definition) entry.1 where
  nil _ := ⟨rfl, rfl⟩
  cons seen entry := by
    obtain ⟨name, written⟩ := entry
    -- Only a usable entry can end the loop; one that is not is noted and passed over.
    by_cases husable : Usable .field name
    · simp only [loadFields_cons_of_usable husable, skipNote_of_usable husable, List.nil_append]
      by_cases hseen : seen.contains name
      · right
        intro rest
        rw [if_pos hseen]
        exact ⟨rfl, rfl⟩
      · cases htype : fieldType definition name written with
        | error fault =>
          right
          intro rest
          rw [if_neg hseen, bind_of_error rfl]
          exact ⟨rfl, rfl⟩
        | ok type =>
          left
          refine ⟨name :: seen, fun rest => ?_⟩
          rw [if_neg hseen, bind_of_ok rfl]
          exact ⟨warnings_bind_pure _ _, isOk_bind_pure _ _⟩
    · obtain ⟨problem, hproblem⟩ := exists_problem_of_not_usable husable
      left
      refine ⟨seen, fun rest => ?_⟩
      rw [loadFields_cons_of_problem hproblem, warnings_bind_of_ok rfl, bind_of_ok rfl]
      simp [skipNote, hproblem, Note.level]

theorem isLoop_loadClasses (definition : String) :
    IsLoop (loadClasses false definition) fun value =>
      value.scalarText?.toList.flatMap (skipNote .domainClass (some definition)) where
  nil _ := ⟨rfl, rfl⟩
  cons seen value := by
    cases hname : value.scalarText? with
    | none =>
      right
      intro rest
      rw [loadClasses, hname]
      exact ⟨rfl, rfl⟩
    | some name =>
      simp only [Option.toList_some, List.flatMap_singleton]
      by_cases husable : Usable .domainClass name
      · simp only [loadClasses_cons_of_usable hname husable, skipNote_of_usable husable,
          List.nil_append]
        split
        · right
          intro rest
          split <;> exact ⟨rfl, rfl⟩
        · left
          exact ⟨name :: seen, fun rest => ⟨warnings_bind_pure _ _, isOk_bind_pure _ _⟩⟩
      · obtain ⟨problem, hproblem⟩ := exists_problem_of_not_usable husable
        left
        refine ⟨seen, fun rest => ?_⟩
        rw [loadClasses_cons_of_problem hname hproblem, warnings_bind_of_ok rfl, bind_of_ok rfl]
        simp [skipNote, hproblem, Note.level]

theorem Definition.warnings_load (draft : Definition) (name : String) :
    (draft.load false name).warnings = draft.skipNotes name := by
  obtain ⟨_ | tag, fields, classes⟩ := draft
  · rfl
  rw [load, skipNotes, Option.bind_some]
  cases hkind : DefinitionKind.ofTag? tag with
  | none => simp only [hkind, warnings_fail]
  | some kind =>
    cases kind with
    | struct =>
      simp only [hkind]
      cases fields with
      | none => rfl
      | some written =>
        rw [warnings_bind_pure]
        exact (isLoop_loadFields name).warnings_eq [] written
    | classDomain =>
      simp only [hkind]
      cases classes with
      | none => rfl
      | some written =>
        rw [warnings_bind_pure]
        exact (isLoop_loadClasses name).warnings_eq [] written

theorem isLoop_loadInto :
    IsLoop (loadInto false) fun entry =>
      if Usable .definition entry.1 then entry.2.skipNotes entry.1
      else skipNote .definition none entry.1 where
  nil _ := ⟨rfl, rfl⟩
  cons schema entry := by
    obtain ⟨name, draft⟩ := entry
    by_cases husable : Usable .definition name
    · simp only [loadInto_cons_of_usable husable, if_pos husable, ← Definition.warnings_load]
      cases hload : (draft.load false name).outcome with
      | error fault =>
        right
        intro rest
        rw [bind_of_error hload]
        exact ⟨rfl, rfl⟩
      | ok definition =>
        cases hinsert : schema.insert? ⟨name, definition⟩ with
        | none =>
          right
          intro rest
          rw [warnings_bind_of_ok hload, bind_of_ok hload, hinsert]
          exact ⟨List.append_nil _, rfl⟩
        | some next =>
          left
          refine ⟨next, fun rest => ?_⟩
          rw [warnings_bind_of_ok hload, bind_of_ok hload, hinsert]
          -- That a definition is loaded is noted, but not as a warning.
          exact ⟨rfl, rfl⟩
    · obtain ⟨problem, hproblem⟩ := exists_problem_of_not_usable husable
      simp only [if_neg husable]
      left
      refine ⟨schema, fun rest => ?_⟩
      rw [loadInto_cons_of_problem hproblem, warnings_bind_of_ok rfl, bind_of_ok rfl]
      simp [skipNote, hproblem, Note.level]

/-- A lenient run warns of the unusable names that it meets. -/
theorem warnings_load (draft : Draft) : (draft.load false).warnings = draft.skipNotes := by
  obtain ⟨definitions⟩ := draft
  cases definitions with
  | none => rfl
  | some written => exact isLoop_loadInto.warnings_eq .empty written

/-! ## Strict and lenient runs -/

theorem exists_of_mem_skipNote {role : NameRole} {owner : Option String} {name : String}
    {note : Note} (h : note ∈ skipNote role owner name) :
    ∃ problem, note = .nameSkipped role name owner problem := by
  rw [skipNote, Option.mem_toList, Option.map_eq_some_iff] at h
  obtain ⟨problem, -, rfl⟩ := h
  exact ⟨problem, rfl⟩

/-- A lenient run warns of names that are passed over only. -/
theorem exists_of_mem_skipNotes {draft : Draft} {note : Note} (h : note ∈ draft.skipNotes) :
    ∃ role name owner problem, note = .nameSkipped role name owner problem := by
  obtain ⟨⟨name, definition⟩, -, h⟩ := List.mem_flatMap.mp h
  split at h
  · rw [Definition.skipNotes] at h
    split at h
    · obtain ⟨_, -, h⟩ := List.mem_flatMap.mp h
      exact ⟨_, _, _, exists_of_mem_skipNote h⟩
    · obtain ⟨_, -, h⟩ := List.mem_flatMap.mp h
      obtain ⟨_, -, h⟩ := List.mem_flatMap.mp h
      exact ⟨_, _, _, exists_of_mem_skipNote h⟩
    · cases h
  · exact ⟨_, _, _, exists_of_mem_skipNote h⟩

/-- What is not warned of is not refused. -/
theorem refusal?_eq_none_of_not_warning {note : Note} (h : note.level ≠ .warn) :
    refusal? note = none := by
  cases note <;> first | rfl | exact absurd rfl h

/-- A lenient run comes to what a strict run comes to when the unusable names are taken out. A
strict run is the same as a lenient one that warns of nothing; otherwise it refuses the name that
the lenient run warns of first, whatever that run comes to. A lenient run warns of the unusable
names that it meets, of each once and in document order, and of nothing else. -/
theorem strict_load_refuses_first_skip (draft : Draft) :
    (draft.load false).outcome = (draft.usablePart.load true).outcome ∧
      ((∃ role name owner problem rest,
          (draft.load false).warnings = .nameSkipped role name owner problem :: rest ∧
            (draft.load true).outcome = .error (.unusableName role name owner problem) ∧
            (Fault.unusableName role name owner problem).diagnostic.code.map ErrorCode.text =
              some "E203") ∨
        (draft.load false).warnings = [] ∧ draft.load true = draft.load false) ∧
      (draft.load false).warnings = draft.skipNotes := by
  refine ⟨(outcome_load_usablePart draft).symm, ?_, warnings_load draft⟩
  rw [load_strict_eq_refusing]
  cases hwarnings : (draft.load false).warnings with
  | nil =>
    right
    refine ⟨rfl, refusing_eq_self ?_⟩
    rw [List.findSome?_eq_none_iff]
    intro note hnote
    have hlevel := List.filter_eq_nil_iff.mp hwarnings note hnote
    exact refusal?_eq_none_of_not_warning (by simpa using hlevel)
  | cons note rest =>
    left
    have hmem : note ∈ draft.skipNotes := by simp [← warnings_load, hwarnings]
    obtain ⟨role, name, owner, problem, rfl⟩ := exists_of_mem_skipNotes hmem
    refine ⟨role, name, owner, problem, rest, rfl, ?_, ?_⟩
    · -- The notes before the first warning are no warnings, and so none of them would be refused.
      obtain ⟨before, after, hnotes, hbefore, -, -⟩ := List.filter_eq_cons_iff.mp hwarnings
      have hkept : ∀ n ∈ before, refusal? n = none := fun n hn =>
        refusal?_eq_none_of_not_warning (by simpa using hbefore n hn)
      rw [refusing_eq_error hnotes hkept rfl]
    · cases owner <;> rfl

end DatasetSchema.Draft
