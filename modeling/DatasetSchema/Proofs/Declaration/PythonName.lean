import DatasetSchema.Proofs.Declaration.BareName
import DatasetSchema.Proofs.Text.PythonIdentifier

/-!
# Names of a module as identifiers of Python

Documents spell their names with all letters and numbers of Unicode, and Python spells its
identifiers with fewer characters. So a document can have names that are no identifiers of Python,
and these come into the module as they are. Upper case changes nothing about this: a letter that
Python knows becomes such letters, and one that it does not know becomes one that it does not know.
The exception is one mark, which may not start an identifier while its upper case may.

## Main definitions

* `Text.XidCase`: how the upper case of a character is related to the character.

## Main results

* `Text.xidCase_uppercaseChar`: the cases for all characters;
* `isPythonIdentifier_memberName`: which classes become enum members with names of Python;
* `Settings.isPythonIdentifier_bareNames_iff`: when all names in a module are identifiers of Python.
-/

namespace DatasetSchema

namespace Text

/-! ## Ranges of code points -/

/-- All code points from `first` to `last` lie in one range of the table. -/
def covers (ranges : List (Nat × Nat)) (first last : Nat) : Bool :=
  -- The tables are long, and this comparison is the one that is computed fast.
  ranges.any fun range => range.1.ble first && last.ble range.2

/-- No code point from `first` to `last` lies in a range of the table. -/
def avoids (ranges : List (Nat × Nat)) (first last : Nat) : Bool :=
  ranges.all fun range => range.2.blt first || last.blt range.1

variable {ranges : List (Nat × Nat)} {first last n : Nat} {c : Char}

theorem covers_iff :
    covers ranges first last ↔ ∃ range ∈ ranges, range.1 ≤ first ∧ last ≤ range.2 := by
  simp only [covers, List.any_eq_true, Bool.and_eq_true, Nat.ble_eq]

theorem covers_of_le (h : covers ranges first last) (hfirst : first ≤ n) (hlast : n ≤ last) :
    covers ranges n n := by
  obtain ⟨range, hrange, hin⟩ := covers_iff.mp h
  exact covers_iff.mpr ⟨range, hrange, by omega⟩

theorem inRanges_iff_covers : inRanges ranges c ↔ covers ranges c.toNat c.toNat := by
  simp only [covers_iff, inRanges, List.any_eq_true, Bool.and_eq_true, decide_eq_true_eq]

theorem inRanges_of_avoids (h : avoids ranges first last) (hfirst : first ≤ c.toNat)
    (hlast : c.toNat ≤ last) : inRanges ranges c = false := by
  rw [Bool.eq_false_iff, ne_eq, inRanges_iff_covers, covers_iff]
  rintro ⟨range, hrange, hin⟩
  have hout := List.all_eq_true.mp h range hrange
  rw [Bool.or_eq_true, Nat.blt_eq, Nat.blt_eq] at hout
  omega

/-- All code points in the ranges of both tables are those of characters. -/
theorem xidRanges_valid :
    (xidStartRanges ++ xidExtendRanges).all fun range =>
      range.2.blt 0xD800 || (Nat.blt 0xDFFF range.1 && range.2.blt 0x110000) := by
  decide +kernel

theorem inRanges_ofNat (hranges : ranges ⊆ xidStartRanges ++ xidExtendRanges)
    (h : covers ranges n n) :
    inRanges ranges (Char.ofNat n) := by
  obtain ⟨range, hrange, hin⟩ := covers_iff.mp h
  have hvalid := List.all_eq_true.mp xidRanges_valid range (hranges hrange)
  rw [Bool.or_eq_true, Bool.and_eq_true, Nat.blt_eq, Nat.blt_eq, Nat.blt_eq] at hvalid
  have hchar : n.isValidChar := by
    rw [Nat.isValidChar]
    omega
  rwa [inRanges_iff_covers, toNat_ofNat_of_isValidChar hchar]

theorem isXidStart_of_covers (h : covers xidStartRanges n n) : isXidStart (Char.ofNat n) :=
  inRanges_ofNat (List.subset_append_left _ _) h

theorem isXidContinue_of_isXidStart (h : isXidStart c) : isXidContinue c := by
  rw [isXidContinue, h, Bool.true_or]

theorem isXidContinue_of_covers (h : covers xidStartRanges n n || covers xidExtendRanges n n) :
    isXidContinue (Char.ofNat n) := by
  rw [Bool.or_eq_true] at h
  rcases h with h | h
  · exact isXidContinue_of_isXidStart (isXidStart_of_covers h)
  · rw [isXidContinue, inRanges_ofNat (List.subset_append_right _ _) h, Bool.or_true]

theorem isXidContinue_of_avoids (hstart : avoids xidStartRanges first last)
    (hextend : avoids xidExtendRanges first last) (hfirst : first ≤ c.toNat)
    (hlast : c.toNat ≤ last) :
    isXidContinue c = false := by
  rw [isXidContinue, isXidStart, inRanges_of_avoids hstart hfirst hlast,
    inRanges_of_avoids hextend hfirst hlast]
  rfl

/-! ## Upper case -/

/-- How the upper case of a character is related to the character. -/
inductive XidCase (c : Char) : List Char → Prop
  | same (ne : c ≠ '\u0345') : XidCase c [c]
  /-- The mark that is written below a Greek letter becomes a letter of its own. -/
  | mark (eq : c = '\u0345') : XidCase c ['\u0399']
  | letter {d : Char} {ds : List Char} (start : isXidStart c) (start' : isXidStart d)
      (rest : ∀ e ∈ ds, isXidContinue e) : XidCase c (d :: ds)
  | foreign {d : Char} (not_continue : isXidContinue c = false)
      (not_continue' : isXidContinue d = false) : XidCase c [d]

namespace CaseRun

/-- Where a run puts a code point. -/
def target (run : CaseRun) (n : Nat) : Nat :=
  (run.shift + n).toNat

/-- The run leads from letters that may start identifiers to such letters. -/
def keepsLetters (run : CaseRun) : Bool :=
  covers xidStartRanges run.first run.last &&
    (covers xidStartRanges (run.target run.first) (run.target run.last) ||
      -- The letters of a run with gaps may have code points between them that are none.
      (List.range' run.first (run.last + 1 - run.first)).all fun n =>
        !run.contains n || covers xidStartRanges (run.target n) (run.target n))

/-- The run leads from characters that are in no identifier to such characters. -/
def keepsForeign (run : CaseRun) : Bool :=
  [xidStartRanges, xidExtendRanges].all fun ranges =>
    avoids ranges run.first run.last && avoids ranges (run.target run.first) (run.target run.last)

end CaseRun

theorem caseRuns_xid :
    caseRuns.all fun run =>
      run.keepsLetters || (run.keepsForeign && (run.target run.last).blt 0xD800) ||
        (run.first == 0x345 && run.last == 0x345 && run.shift == 84) := by
  decide +kernel

theorem wideUppercase_xid :
    wideUppercase.all fun entry =>
      covers xidStartRanges entry.1 entry.1 &&
        match entry.2 with
        | [] => false
        | code :: codes =>
          covers xidStartRanges code code &&
            codes.all fun code => covers xidStartRanges code code ||
              covers xidExtendRanges code code := by
  decide +kernel

namespace CaseRun

variable {run : CaseRun}

theorem target_le_target (run : CaseRun) {m n : Nat} (h : m ≤ n) : run.target m ≤ run.target n := by
  rw [target, target]
  omega

theorem covers_of_keepsLetters (h : run.keepsLetters) (hcontains : run.contains n) :
    covers xidStartRanges n n ∧ covers xidStartRanges (run.target n) (run.target n) := by
  obtain ⟨hfirst, hlast⟩ := le_of_contains hcontains
  rw [keepsLetters, Bool.and_eq_true, Bool.or_eq_true] at h
  obtain ⟨hsource, htarget⟩ := h
  refine ⟨covers_of_le hsource hfirst hlast, ?_⟩
  rcases htarget with htarget | htarget
  · exact covers_of_le htarget (run.target_le_target hfirst) (run.target_le_target hlast)
  · have hmem : n ∈ List.range' run.first (run.last + 1 - run.first) := by
      rw [List.mem_range'_1]
      omega
    simpa [hcontains] using List.all_eq_true.mp htarget n hmem

/-- A run leads to a letter from a letter, or to a foreign character from a foreign one. -/
theorem xidCase_target (hrun : run ∈ caseRuns) (hcontains : run.contains c.toNat) :
    XidCase c [Char.ofNat (run.target c.toNat)] := by
  obtain ⟨hfirst, hlast⟩ := le_of_contains hcontains
  have hcases := List.all_eq_true.mp caseRuns_xid run hrun
  rw [Bool.or_eq_true, Bool.or_eq_true, Bool.and_eq_true, Bool.and_eq_true,
    Bool.and_eq_true] at hcases
  -- The three kinds of runs that the table was checked for: letters, foreign characters, one mark.
  rcases hcases with (hletters | ⟨hforeign, hvalid⟩) | ⟨⟨hmark, hmark'⟩, hshift⟩
  · obtain ⟨hsource, htarget⟩ := covers_of_keepsLetters hletters hcontains
    have hstart := isXidStart_of_covers hsource
    rw [Char.ofNat_toNat] at hstart
    exact .letter hstart (isXidStart_of_covers htarget) nofun
  · rw [keepsForeign] at hforeign
    simp only [List.all_cons, List.all_nil, Bool.and_true, Bool.and_eq_true] at hforeign
    obtain ⟨⟨hstart, hstart'⟩, hextend, hextend'⟩ := hforeign
    have hchar : (run.target c.toNat).isValidChar := by
      rw [Nat.blt_eq] at hvalid
      have hle := run.target_le_target hlast
      rw [Nat.isValidChar]
      omega
    have htoNat := toNat_ofNat_of_isValidChar hchar
    refine .foreign (isXidContinue_of_avoids hstart hextend hfirst hlast) ?_
    apply isXidContinue_of_avoids hstart' hextend'
    · rw [htoNat]
      exact run.target_le_target hfirst
    · rw [htoNat]
      exact run.target_le_target hlast
  · rw [beq_iff_eq] at hmark hmark' hshift
    have hc : c.toNat = 0x345 := by omega
    rw [target, hshift, hc]
    apply XidCase.mark
    rw [← Char.ofNat_toNat c, hc]

end CaseRun

/-- A wide upper case leads from a letter to a letter, with more characters behind it. -/
theorem xidCase_wide {codes : List Nat} (h : (c.toNat, codes) ∈ wideUppercase) :
    XidCase c (codes.map Char.ofNat) := by
  have hentry := List.all_eq_true.mp wideUppercase_xid _ h
  rw [Bool.and_eq_true] at hentry
  obtain ⟨hsource, htarget⟩ := hentry
  have hstart := isXidStart_of_covers hsource
  rw [Char.ofNat_toNat] at hstart
  cases codes with
  | nil => contradiction
  | cons code codes =>
    rw [Bool.and_eq_true, List.all_eq_true] at htarget
    refine .letter hstart (isXidStart_of_covers htarget.1) ?_
    rw [List.forall_mem_map]
    exact fun code hcode => isXidContinue_of_covers (htarget.2 code hcode)

/-- An ASCII letter has an ASCII letter for its upper case. -/
theorem xidCase_toUpper (h : c.toNat < 128) : XidCase c [c.toUpper] := by
  have hletter : c.toUpper = c ∨ isXidStart c ∧ isXidStart c.toUpper :=
    of_forall_ascii (P := fun c => c.toUpper = c ∨ isXidStart c ∧ isXidStart c.toUpper)
      (by decide +kernel) h
  rcases hletter with hsame | ⟨hstart, htarget⟩
  · rw [hsame]
    refine .same ?_
    rintro rfl
    exact absurd h (by decide)
  · exact .letter hstart htarget nofun

theorem xidCase_uppercaseChar (c : Char) : XidCase c (uppercaseChar c) := by
  rw [uppercaseChar]
  split
  · next hascii => exact xidCase_toUpper hascii
  · rcases uppercaseCode_cases c.toNat with ⟨codes, hentry, heq⟩ | ⟨run, hrun, hcontains, heq⟩ | heq
    · rw [heq]
      exact xidCase_wide hentry
    · rw [heq]
      exact CaseRun.xidCase_target hrun hcontains
    · rw [heq, List.map_singleton, Char.ofNat_toNat]
      refine .same ?_
      rintro rfl
      have hupper : uppercaseCode '\u0345'.toNat = [0x399] := by decide +kernel
      exact absurd (hupper.symm.trans heq) (by decide)

/-- The mark is in identifiers but does not start them; the letter that it becomes does. -/
theorem isXidStart_mark :
    isXidStart '\u0345' = false ∧ isXidContinue '\u0345' ∧ isXidStart '\u0399' := by
  decide +kernel

/-- A character may stand inside an identifier exactly if its upper case may. -/
theorem all_isXidContinue_uppercaseChar (c : Char) :
    (uppercaseChar c).all isXidContinue = isXidContinue c := by
  have hcase := xidCase_uppercaseChar c
  generalize uppercaseChar c = upper at hcase
  cases hcase with
  | same hne => simp
  | mark h =>
    obtain ⟨-, hmark, hletter⟩ := isXidStart_mark
    simp [h, hmark, isXidContinue_of_isXidStart hletter]
  | letter hstart hstart' hrest =>
    simpa [isXidContinue_of_isXidStart hstart, isXidContinue_of_isXidStart hstart'] using hrest
  | foreign hnot hnot' => simp [hnot, hnot']

theorem all_isXidContinue_flatMap_uppercaseChar (cs : List Char) :
    (cs.flatMap uppercaseChar).all isXidContinue = cs.all isXidContinue := by
  simp [List.all_flatMap, all_isXidContinue_uppercaseChar]

end Text

open Text

/-- What may start an identifier may also stand inside one. -/
theorem isXidContinue_of_start {c : Char} (h : c == '_' || isXidStart c) : isXidContinue c := by
  rw [Bool.or_eq_true, beq_iff_eq] at h
  rcases h with rfl | h
  · rw [isXidContinue, Bool.or_eq_true]
    exact .inr (inRanges_iff_covers.mpr rfl)
  · exact isXidContinue_of_isXidStart h

theorem isPythonIdentifier_of_toList {s : String} {c : Char} {cs : List Char}
    (h : s.toList = c :: cs) :
    isPythonIdentifier s = ((c == '_' || isXidStart c) && cs.all isXidContinue) := by
  rw [isPythonIdentifier, h]

/-- A class becomes an enum member with a name of Python if it has such a name itself, or one in
which the mark stands first and all else is in order. -/
theorem isPythonIdentifier_memberName {name : String} :
    isPythonIdentifier (memberName name) ↔
      isPythonIdentifier name ∨ ∃ cs, name.toList = '\u0345' :: cs ∧ cs.all isXidContinue := by
  have hmember : (memberName name).toList = name.toList.flatMap uppercaseChar :=
    String.toList_ofList
  cases hname : name.toList with
  | nil =>
    rw [hname] at hmember
    simp [isPythonIdentifier, hmember, hname]
  | cons c cs =>
    rw [hname, List.flatMap_cons] at hmember
    rw [isPythonIdentifier_of_toList hname]
    have hrest := all_isXidContinue_flatMap_uppercaseChar cs
    have hcase := xidCase_uppercaseChar c
    generalize uppercaseChar c = upper at hcase hmember
    cases hcase with
    | same hne =>
      rw [List.singleton_append] at hmember
      rw [isPythonIdentifier_of_toList hmember, hrest]
      simp [hne]
    | mark h =>
      obtain ⟨hmark, -, hletter⟩ := isXidStart_mark
      rw [List.singleton_append] at hmember
      rw [isPythonIdentifier_of_toList hmember, hrest]
      simp [h, hmark, hletter]
    | letter hstart hstart' hall =>
      have hne : c ≠ '\u0345' := by
        rintro rfl
        exact Bool.false_ne_true (isXidStart_mark.1.symm.trans hstart)
      rw [List.cons_append] at hmember
      rw [isPythonIdentifier_of_toList hmember, List.all_append, hrest, List.all_eq_true.mpr hall]
      simp [hstart, hstart', hne]
    | foreign hnot hnot' =>
      -- Neither character is in any identifier, so neither name is one.
      have hfirst : ∀ {d : Char}, isXidContinue d = false → (d == '_' || isXidStart d) = false := by
        intro d hd
        rw [Bool.eq_false_iff]
        intro hstart
        exact Bool.false_ne_true (hd.symm.trans (isXidContinue_of_start hstart))
      have hne : c ≠ '\u0345' := by
        rintro rfl
        exact Bool.false_ne_true (hnot.symm.trans isXidStart_mark.2.1)
      rw [List.singleton_append] at hmember
      rw [isPythonIdentifier_of_toList hmember, hfirst hnot, hfirst hnot']
      simp [hne]

/-- A definition whose class binds names of Python in its body: a struct with such fields, or a
class domain with classes that become such members. -/
def Definition.BindsPythonNames : Definition → Prop
  | .struct fields => ∀ field ∈ fields, isPythonIdentifier field.name
  | .classDomain classes => ∀ c ∈ classes,
      isPythonIdentifier c ∨ ∃ cs, c.toList = '\u0345' :: cs ∧ cs.all isXidContinue

theorem Definition.bindsPythonNames_iff (definition : Definition) :
    definition.BindsPythonNames ↔ ∀ name ∈ definition.bodyNames, isPythonIdentifier name := by
  cases definition with
  | struct fields => rw [BindsPythonNames, bodyNames, List.forall_mem_map]
  | classDomain classes =>
    rw [BindsPythonNames, bodyNames, List.forall_mem_map]
    simp only [isPythonIdentifier_memberName]

namespace Settings

variable {settings : Settings} {source text : String}

/-- In a generated module all names are identifiers of Python exactly if the definitions of the
schema have such names, bind such names, and refer to such names. That they are identifiers in the
sense of documents is not enough. -/
theorem isPythonIdentifier_bareNames_iff [Document.SyntaxReporter]
    (h : (settings.compile source).outcome = .ok text) :
    ∃ schema order, (settings.parse source).outcome = .ok schema ∧
      schema.emissionOrder = .ok order ∧
      (schema.module order).render settings = text ∧
      ((∀ name ∈ (schema.module order).bareNames, isPythonIdentifier name) ↔
        ∀ entry ∈ schema.entries, isPythonIdentifier entry.name ∧
          entry.definition.BindsPythonNames ∧
          ∀ reference ∈ entry.definition.references, isPythonIdentifier reference) := by
  obtain ⟨schema, hparse, hgenerate⟩ := outcome_compile_eq_ok_iff.mp h
  obtain ⟨order, horder, htext⟩ := outcome_generate_eq_ok_iff.mp hgenerate
  refine ⟨schema, order, hparse, horder, htext, ?_⟩
  simp only [(Schema.isArrangement_of_emissionOrder horder).forall_bareNames_iff,
    Definition.bindsPythonNames_iff]

/-- A document with a definition whose name ends in a fraction. -/
def halfSizeText : String :=
  "defs:\n  Size½:\n    $def: struct\n    $fields:\n      width: Int\n"

/-- What the document says. -/
def halfSize : Schema :=
  ⟨[⟨"Size½", .struct [⟨"width", .plain .int⟩]⟩], by decide⟩

/-- The module for the document. -/
def halfSizeModule : String :=
  "# Generated by the dsdl parser. DO NOT EDIT!\n\n" ++
    "from dsdl.types import *\nfrom enum import Enum\n\n\n" ++
    "class Size½(Struct):\n    width = IntField()\n"

theorem outcome_parse_halfSizeText : (parse ⟨true, 4, 1⟩ halfSizeText).outcome = .ok halfSize := by
  decide +kernel

theorem emissionOrder_halfSize : halfSize.emissionOrder = .ok ["Size½"] :=
  Schema.emissionOrder_graph_eq_ok_of_iterate 1 (by decide +kernel) (by decide) (by decide)

theorem render_halfSize : (halfSize.module ["Size½"]).render ⟨true, 4, 1⟩ = halfSizeModule := by
  decide +kernel

theorem outcome_compile_halfSizeText :
    (compile ⟨true, 4, 1⟩ halfSizeText).outcome = .ok halfSizeModule :=
  outcome_compile_eq_ok_iff.mpr ⟨halfSize, outcome_parse_halfSizeText,
    outcome_generate_eq_ok_iff.mpr ⟨["Size½"], emissionOrder_halfSize, render_halfSize⟩⟩

/-- The definition has no name of Python, and so not all names in the module are. -/
theorem isPythonIdentifier_bareNames_halfSize :
    (compile ⟨true, 4, 1⟩ halfSizeText).outcome = .ok halfSizeModule ∧
      ∃ schema order, (parse ⟨true, 4, 1⟩ halfSizeText).outcome = .ok schema ∧
        schema.emissionOrder = .ok order ∧
        (schema.module order).render ⟨true, 4, 1⟩ = halfSizeModule ∧
        ((∀ name ∈ (schema.module order).bareNames, isPythonIdentifier name) ↔
          ∀ entry ∈ schema.entries, isPythonIdentifier entry.name ∧
            entry.definition.BindsPythonNames ∧
            ∀ reference ∈ entry.definition.references, isPythonIdentifier reference) :=
  ⟨outcome_compile_halfSizeText, isPythonIdentifier_bareNames_iff outcome_compile_halfSizeText⟩

/-- The document is accepted, also under strict settings, and its name stands in the module. -/
theorem not_forall_isPythonIdentifier_halfSize :
    (parse ⟨true, 4, 1⟩ halfSizeText).outcome = .ok halfSize ∧
      halfSize.emissionOrder = .ok ["Size½"] ∧
        (compile ⟨true, 4, 1⟩ halfSizeText).outcome =
            .ok ((halfSize.module ["Size½"]).render ⟨true, 4, 1⟩) ∧
          ¬ ∀ name ∈ (halfSize.module ["Size½"]).bareNames, isPythonIdentifier name := by
  have hnames : (halfSize.module ["Size½"]).bareNames = ["Size½", "width"] := by decide +kernel
  have hnot : isPythonIdentifier "Size½" = false := by decide +kernel
  rw [render_halfSize, hnames]
  exact ⟨outcome_parse_halfSizeText, emissionOrder_halfSize, outcome_compile_halfSizeText,
    fun hall => Bool.false_ne_true (hnot.symm.trans (hall "Size½" List.mem_cons_self))⟩

end Settings

end DatasetSchema
