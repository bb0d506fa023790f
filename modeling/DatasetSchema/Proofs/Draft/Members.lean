import DatasetSchema.Draft.Load
import DatasetSchema.Proofs.TypeExpr.Parameters
import Mathlib.Data.List.Forall2

/-!
# Loading the members of a definition

The fields of a struct and the classes of a domain are taken over in document order, those
with unusable names left out. Each loop is described as a whole: when it succeeds, and what
it then gives. The names that a loop has met so far appear in the descriptions only as names
that must not come again.

## Main definitions

* `Draft.Usable`: the names that can be used in a role;
* `Draft.usableEntries`, `Draft.usableClasses`: what is left when unusable names are left out.

## Main results

* `Draft.outcome_loadFields_eq_ok_iff`: the fields of a struct;
* `Draft.outcome_loadClasses_eq_ok_iff`: the classes of a domain.
-/

namespace DatasetSchema

namespace Draft

open Attempt
open Document (Value)

/-! ## Usable names -/

/-- The name can be used in the role: it is an identifier, and no reserved word if it becomes a name
of the generated module. -/
def Usable (role : NameRole) (name : String) : Prop :=
  isIdentifier name ∧ (role.isBound → ¬ isReservedWord name)

instance (role : NameRole) (name : String) : Decidable (Usable role name) :=
  inferInstanceAs (Decidable (isIdentifier name ∧ (role.isBound → ¬ isReservedWord name)))

theorem nameProblem?_eq_none_iff {role : NameRole} {name : String} :
    nameProblem? role name = none ↔ Usable role name := by
  rw [nameProblem?, Usable]
  cases isIdentifier name <;> cases role.isBound <;> cases isReservedWord name <;> decide

variable {strict : Bool} {role : NameRole} {owner : Option String} {name : String}

section AcceptName

variable {α : Type} {taken skipped : Attempt Fault α} {a : α}

/-- What follows a usable name is done. -/
theorem outcome_acceptName_of_usable (h : Usable role name) :
    (acceptName strict role owner name >>= fun b => if b then taken else skipped).outcome = .ok a ↔
      taken.outcome = .ok a := by
  rw [outcome_bind_eq_ok_iff, acceptName, nameProblem?_eq_none_iff.mpr h]
  simp only [outcome_pure_eq_ok_iff, exists_eq_left', if_true]

/-- What follows an unusable name is left out, unless settings are strict. -/
theorem outcome_acceptName_of_not_usable (h : ¬ Usable role name) :
    (acceptName strict role owner name >>= fun b => if b then taken else skipped).outcome = .ok a ↔
      strict = false ∧ skipped.outcome = .ok a := by
  rw [outcome_bind_eq_ok_iff, acceptName]
  split
  · next hproblem => exact absurd (nameProblem?_eq_none_iff.mp hproblem) h
  · next problem _ =>
    cases strict with
    | true => simp [outcome_fail_ne_ok]
    | false =>
      simp only [Bool.false_eq_true, if_false, outcome_bind_eq_ok_iff,
        outcome_pure_eq_ok_iff, true_and]
      constructor
      · rintro ⟨_, ⟨_, -, rfl⟩, hskipped⟩
        exact hskipped
      · intro hskipped
        exact ⟨false, ⟨(), rfl, rfl⟩, hskipped⟩

/-- Strict settings do not allow for an unusable name. -/
theorem strict_imp_and_iff {p q : Prop} (h : ¬ p) : (strict → p ∧ q) ↔ strict = false := by
  simp [h]

end AcceptName

/-- The entries with usable names, in their order. -/
def usableEntries {α : Type} (role : NameRole) (entries : List (String × α)) : List (String × α) :=
  entries.filter fun entry => Usable role entry.1

theorem usableEntries_cons_of_usable {α : Type} {value : α} {rest : List (String × α)}
    (h : Usable role name) :
    usableEntries role ((name, value) :: rest) = (name, value) :: usableEntries role rest :=
  List.filter_cons_of_pos (decide_eq_true h)

theorem usableEntries_cons_of_not_usable {α : Type} {value : α} {rest : List (String × α)}
    (h : ¬ Usable role name) :
    usableEntries role ((name, value) :: rest) = usableEntries role rest :=
  List.filter_cons_of_neg (by simpa using h)

/-! ## Fields -/

/-- What is written denotes the type when white space is taken out. -/
def WritesType (written : Value) (type : FieldType) : Prop :=
  ∃ text, written.scalarText? = some text ∧
    FieldType.ofText (Text.stripWhiteSpace text) = .ok type

/-- An entry of a struct gives the field. -/
def WritesField (entry : String × Value) (field : Field) : Prop :=
  field.name = entry.1 ∧ WritesType entry.2 field.type

theorem fieldType_eq_ok_iff {definition field : String} {written : Value} {type : FieldType} :
    fieldType definition field written = .ok type ↔ WritesType written type := by
  rw [fieldType, WritesType]
  cases written.scalarText? with
  | none => simp
  | some text => simp [mapError_eq_ok_iff, FieldType.ofText]

variable {definition : String} {seen : List String}

/-- The fields of a struct are those of its entries with usable names. These names have to be
distinct, and the entries have to hold types. -/
theorem outcome_loadFields_eq_ok_iff {written : List (String × Value)} {fields : List Field} :
    (loadFields strict definition seen written).outcome = .ok fields ↔
      (strict → ∀ entry ∈ written, Usable .field entry.1) ∧
        ((usableEntries .field written).map Prod.fst).Nodup ∧
        (∀ name ∈ (usableEntries .field written).map Prod.fst, name ∉ seen) ∧
        List.Forall₂ WritesField (usableEntries .field written) fields := by
  induction written generalizing seen fields with
  | nil =>
    rw [loadFields, outcome_pure_eq_ok_iff]
    simp [usableEntries, eq_comm]
  | cons entry rest ih =>
    obtain ⟨name, written⟩ := entry
    -- The induction is over all sets of names seen, since a field that is taken is
    -- seen by the rest.
    rw [loadFields]
    by_cases husable : Usable .field name
    · rw [outcome_acceptName_of_usable husable, usableEntries_cons_of_usable husable, List.map_cons,
        List.nodup_cons, List.forall_mem_cons, List.forall_mem_cons]
      constructor
      · intro h
        split at h
        · contradiction
        · next hseen =>
          rw [List.contains_iff_mem] at hseen
          obtain ⟨type, htype, h⟩ := outcome_bind_eq_ok_iff.mp h
          obtain ⟨others, hothers, h⟩ := outcome_bind_eq_ok_iff.mp h
          obtain rfl := outcome_pure_eq_ok_iff.mp h
          obtain ⟨hstrict, hnodup, hfresh, hfields⟩ := ih.mp hothers
          refine ⟨fun hs => ⟨husable, hstrict hs⟩, ⟨?_, hnodup⟩, ⟨hseen, ?_⟩, ?_⟩
          · -- The rest of the loop has seen this name, and so does not have it.
            intro hname
            exact hfresh name hname List.mem_cons_self
          · intro other hother hmem
            exact hfresh other hother (List.mem_cons_of_mem name hmem)
          · exact .cons ⟨rfl, fieldType_eq_ok_iff.mp htype⟩ hfields
      · rintro ⟨hstrict, ⟨hname, hnodup⟩, ⟨hseen, hfresh⟩, hfields⟩
        obtain ⟨⟨_, type⟩, others, ⟨rfl, htype⟩, hothers, rfl⟩ :=
          List.forall₂_cons_left_iff.mp hfields
        rw [if_neg (by rwa [List.contains_iff_mem]), outcome_bind_eq_ok_iff]
        refine ⟨type, fieldType_eq_ok_iff.mpr htype, outcome_bind_eq_ok_iff.mpr ⟨others, ?_, rfl⟩⟩
        refine ih.mpr ⟨fun hs => (hstrict hs).2, hnodup, ?_, hothers⟩
        intro other hother hmem
        rcases List.mem_cons.mp hmem with rfl | hmem
        · exact hname hother
        · exact hfresh other hother hmem
    · rw [outcome_acceptName_of_not_usable husable, usableEntries_cons_of_not_usable husable, ih,
        List.forall_mem_cons, strict_imp_and_iff husable]
      -- Under lenient settings the condition on all names is void.
      refine and_congr_right fun hlenient => ?_
      simp [hlenient]

/-! ## Classes -/

/-- The classes of a domain that are scalars with usable names, in their order. -/
def usableClasses (written : List Value) : List String :=
  (written.filterMap Value.scalarText?).filter fun name => Usable .domainClass name

theorem usableClasses_cons_of_usable {value : Value} {rest : List Value}
    (hname : value.scalarText? = some name) (h : Usable .domainClass name) :
    usableClasses (value :: rest) = name :: usableClasses rest := by
  rw [usableClasses, List.filterMap_cons_some hname]
  exact List.filter_cons_of_pos (decide_eq_true h)

theorem usableClasses_cons_of_not_usable {value : Value} {rest : List Value}
    (hname : value.scalarText? = some name) (h : ¬ Usable .domainClass name) :
    usableClasses (value :: rest) = usableClasses rest := by
  rw [usableClasses, List.filterMap_cons_some hname]
  exact List.filter_cons_of_neg (by simpa using h)

/-- The classes of a domain are its usable classes. All have to be scalars, and the enum members
that the usable ones become have to be distinct. -/
theorem outcome_loadClasses_eq_ok_iff {written : List Value} {classes : List String} :
    (loadClasses strict definition seen written).outcome = .ok classes ↔
      (∀ value ∈ written, ∃ name, value.scalarText? = some name) ∧
        (strict → ∀ value ∈ written, ∀ name ∈ value.scalarText?, Usable .domainClass name) ∧
        ((usableClasses written).map memberName).Nodup ∧
        (∀ member ∈ (usableClasses written).map memberName, member ∉ seen.map memberName) ∧
        classes = usableClasses written := by
  induction written generalizing seen classes with
  | nil =>
    rw [loadClasses, outcome_pure_eq_ok_iff]
    simp [usableClasses, eq_comm]
  | cons value rest ih =>
    rw [loadClasses, List.forall_mem_cons, List.forall_mem_cons]
    split
    -- A class that is no scalar fails before its name could be looked at.
    · next hnone => simp [hnone, outcome_fail_ne_ok]
    · next name hname =>
      by_cases husable : Usable .domainClass name
      · rw [outcome_acceptName_of_usable husable, usableClasses_cons_of_usable hname husable,
          List.map_cons, List.nodup_cons, List.forall_mem_cons]
        constructor
        · intro h
          split at h
          · split at h <;> contradiction
          · next hfind =>
            -- No class so far has the same member name, whatever its own name is.
            have hseen : memberName name ∉ seen.map memberName := by
              rw [List.mem_map]
              rintro ⟨other, hother, hmember⟩
              have hdiffers := List.find?_eq_none.mp hfind other hother
              simp [hmember] at hdiffers
            obtain ⟨others, hothers, h⟩ := outcome_bind_eq_ok_iff.mp h
            obtain rfl := outcome_pure_eq_ok_iff.mp h
            obtain ⟨hscalar, hstrict, hnodup, hfresh, rfl⟩ := ih.mp hothers
            refine ⟨⟨⟨name, hname⟩, hscalar⟩, ?_, ⟨?_, hnodup⟩, ⟨hseen, ?_⟩, rfl⟩
            · intro hs
              refine ⟨?_, hstrict hs⟩
              rintro _ hname'
              obtain rfl : name = _ := Option.some.inj (hname.symm.trans hname')
              exact husable
            · intro hmember
              exact hfresh _ hmember List.mem_cons_self
            · intro member hmember hmem
              exact hfresh member hmember (List.mem_cons_of_mem _ hmem)
        · rintro ⟨⟨-, hscalar⟩, hstrict, ⟨hmember, hnodup⟩, ⟨hseen, hfresh⟩, rfl⟩
          have hfind : seen.find? (fun other => memberName other == memberName name) = none := by
            rw [List.find?_eq_none]
            intro other hother hsame
            exact hseen (List.mem_map.mpr ⟨other, hother, beq_iff_eq.mp hsame⟩)
          rw [hfind]
          refine outcome_bind_eq_ok_iff.mpr ⟨usableClasses rest, ?_, rfl⟩
          refine ih.mpr ⟨hscalar, fun hs => (hstrict hs).2, hnodup, ?_, rfl⟩
          intro member hmem hmem'
          rw [List.map_cons] at hmem'
          rcases List.mem_cons.mp hmem' with rfl | hmem'
          · exact hmember hmem
          · exact hfresh member hmem hmem'
      · have hnot : ¬ ∀ other ∈ value.scalarText?, Usable .domainClass other :=
          fun h => husable (h name hname)
        rw [outcome_acceptName_of_not_usable husable,
          usableClasses_cons_of_not_usable hname husable, ih, strict_imp_and_iff hnot]
        -- The name is not used, but the class still has to be a scalar, and the rest as well.
        constructor
        · rintro ⟨hlenient, hscalar, -, h⟩
          exact ⟨⟨⟨name, hname⟩, hscalar⟩, hlenient, h⟩
        · rintro ⟨⟨-, hscalar⟩, hlenient, h⟩
          refine ⟨hlenient, hscalar, ?_, h⟩
          rw [hlenient]
          exact nofun

end Draft

end DatasetSchema
