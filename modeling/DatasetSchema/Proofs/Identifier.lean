import DatasetSchema.Identifier
import Mathlib.Data.List.TakeWhile

/-!
# Names in a text

A name is a run of the characters that identifiers are made of. The letters and numbers beyond ASCII
are given by tables, and so what a name does not contain is decided here once: a name ends at the
first quote, bracket, comma, equals sign or blank. Upper case brings no blanks either.

## Main results

* `isNameChar_of_lt`: in ASCII, the characters of names are letters, digits and `_`;
* `IsName.takeWhile_append`, `IsName.dropWhile_append`: a name is split from what follows it;
* `Text.uppercaseCode_cases`: where the upper case of a code point comes from;
* `notMem_memberName`: the name of an enum member has no blank.
-/

namespace DatasetSchema

/-- A table of ranges above ASCII has no ASCII character. -/
theorem Text.inRanges_eq_false {ranges : List (Nat × Nat)} {c : Char}
    (h : ∀ range ∈ ranges, 128 ≤ range.1) (hc : c.toNat < 128) : inRanges ranges c = false := by
  rw [inRanges, List.any_eq_false]
  intro range hrange hin
  have hle : range.1 ≤ c.toNat := by
    rw [Bool.and_eq_true, decide_eq_true_eq] at hin
    exact hin.1
  have hrange_le := h range hrange
  omega

theorem Text.nameRanges_above : ∀ range ∈ alphabeticRanges ++ numericRanges, 128 ≤ range.1 := by
  decide +kernel

/-- In ASCII, the characters of names are letters, digits and `_`. -/
theorem isNameChar_of_lt {c : Char} (h : c.toNat < 128) :
    isNameChar c = (c.isAlpha || c.isDigit || c == '_') := by
  have habove := List.forall_mem_append.mp Text.nameRanges_above
  have halphabetic := Text.inRanges_eq_false habove.1 h
  have hnumeric := Text.inRanges_eq_false habove.2 h
  rw [isNameChar, Text.isAlphabetic, Text.isNumeric, halphabetic, hnumeric, Bool.or_false,
    Bool.or_false]

/-- The punctuation of type expressions and of modules is no part of a name. -/
theorem isNameChar_punctuation {c : Char}
    (h : c ∈ ['"', '\'', '[', ']', ',', '=', '(', ')', ' ', '\n']) : isNameChar c = false := by
  -- All are ASCII characters, so the tables play no part.
  have hall : ['"', '\'', '[', ']', ',', '=', '(', ')', ' ', '\n'].all (fun c =>
      decide (c.toNat < 128) && !(c.isAlpha || c.isDigit || c == '_')) = true := by decide
  have hc := List.all_eq_true.mp hall c h
  rw [Bool.and_eq_true, decide_eq_true_eq, Bool.not_eq_true'] at hc
  rw [isNameChar_of_lt hc.1]
  exact hc.2

theorem isNameChar_head?_cons {c : Char} {cs : List Char} (h : isNameChar c = false) :
    ∀ d ∈ (c :: cs).head?, isNameChar d = false := by
  rintro _ ⟨⟩
  exact h

/-- A non-empty text of characters that may stand inside an identifier. -/
def IsName (s : List Char) : Prop :=
  s ≠ [] ∧ ∀ c ∈ s, isNameChar c

-- The instance for a list is asked for, since one for all characters would try them all.
instance (s : List Char) : Decidable (IsName s) :=
  decidable_of_iff (s ≠ [] ∧ s.all isNameChar) (and_congr_right fun _ => List.all_eq_true)

/-- What may start an identifier may also stand inside one. -/
theorem isNameChar_of_isNameStart {c : Char} (h : isNameStart c) : isNameChar c := by
  rw [isNameStart, Bool.or_eq_true] at h
  rw [isNameChar, Bool.or_eq_true, Bool.or_eq_true]
  exact h.imp_left Or.inl

/-- An identifier is a name. -/
theorem isName_of_isIdentifier {s : String} (h : isIdentifier s) : IsName s.toList := by
  rw [isIdentifier] at h
  split at h
  · contradiction
  · next c cs hs =>
    rw [Bool.and_eq_true, List.all_eq_true] at h
    obtain ⟨hstart, hrest⟩ := h
    rw [hs]
    refine ⟨List.cons_ne_nil c cs, ?_⟩
    intro d hd
    rcases List.mem_cons.mp hd with rfl | hd
    · exact isNameChar_of_isNameStart hstart
    · exact hrest d hd

/-- ASCII letters and digits make names. -/
theorem isName_of_isAlphanum {s : List Char} (hne : s ≠ []) (h : s.all Char.isAlphanum) :
    IsName s := by
  refine ⟨hne, ?_⟩
  intro c hc
  have halphanum := List.all_eq_true.mp h c hc
  rw [Char.isAlphanum, Bool.or_eq_true] at halphanum
  rw [isNameChar, Text.isAlphabetic, Text.isNumeric]
  rcases halphanum with halpha | hdigit
  · rw [halpha]
    rfl
  · rw [hdigit]
    simp

/-- A text that is made of letters when its case is ignored is a name. -/
theorem isName_of_isAlpha_toLower {s : List Char} (hne : s ≠ []) (h : ∀ c ∈ s, c.toLower.isAlpha) :
    IsName s := by
  refine isName_of_isAlphanum hne (List.all_eq_true.mpr ?_)
  intro c hc
  have hlower := h c hc
  rw [Char.isAlphanum, Bool.or_eq_true]
  left
  -- An upper-case letter is a letter, and no other character is changed.
  by_cases hupper : c.isUpper
  · show (c.isUpper || c.isLower) = true
    rw [hupper, Bool.true_or]
  · have hsame : c.toLower = c := dif_neg fun hrange => hupper (decide_eq_true hrange)
    rwa [hsame] at hlower

namespace IsName

variable {name rest : List Char}

/-- A name that is followed by none of its characters is taken off a text as a whole. -/
theorem takeWhile_append (h : IsName name) (hrest : ∀ c ∈ rest.head?, isNameChar c = false) :
    (name ++ rest).takeWhile isNameChar = name := by
  rw [List.takeWhile_append_of_pos h.2]
  cases rest with
  | nil => simp
  | cons c rest => simp [hrest c rfl]

/-- What is left when a name is taken off a text. -/
theorem dropWhile_append (h : IsName name) (hrest : ∀ c ∈ rest.head?, isNameChar c = false) :
    (name ++ rest).dropWhile isNameChar = rest := by
  rw [List.dropWhile_append_of_pos h.2]
  cases rest with
  | nil => rfl
  | cons c rest => simp [hrest c rfl]

/-- A text is split in one way into a name and what follows it. -/
theorem append_cons_inj {name' rest' : List Char} {c c' : Char} (h : IsName name)
    (h' : IsName name') (hc : isNameChar c = false) (hc' : isNameChar c' = false)
    (heq : name ++ c :: rest = name' ++ c' :: rest') :
    name = name' ∧ c = c' ∧ rest = rest' := by
  have htake := congrArg (List.takeWhile isNameChar) heq
  rw [h.takeWhile_append (isNameChar_head?_cons hc),
    h'.takeWhile_append (isNameChar_head?_cons hc')] at htake
  subst htake
  exact ⟨rfl, List.cons.inj (List.append_cancel_left heq)⟩

/-- The characters that a text starts with are a name if there are any. -/
theorem takeWhile (h : rest.takeWhile isNameChar ≠ []) : IsName (rest.takeWhile isNameChar) :=
  ⟨h, fun _ hc => List.mem_takeWhile_imp hc⟩

end IsName

/-! ## Upper case -/

theorem Text.caseRuns_bounds :
    ∀ run ∈ caseRuns, 65 ≤ run.shift + run.first ∧
      (run.shift + run.last < 97 ∨ 122 < run.shift + run.first) := by
  decide +kernel

theorem Text.wideUppercase_bounds :
    ∀ entry ∈ wideUppercase, ∀ code ∈ entry.2, 65 ≤ code ∧ (code < 97 ∨ 122 < code) := by
  decide +kernel

/-- The upper case of a code point is an entry of the table of wide ones, or one of a
run, or the code point. -/
theorem Text.uppercaseCode_cases (n : Nat) :
    (∃ codes, (n, codes) ∈ wideUppercase ∧ uppercaseCode n = codes) ∨
      (∃ run ∈ caseRuns, run.contains n ∧ uppercaseCode n = [(run.shift + n).toNat]) ∨
        uppercaseCode n = [n] := by
  rw [uppercaseCode]
  split
  · next codes hcodes =>
    obtain ⟨before, after, htable, -⟩ := List.lookup_eq_some_iff.mp hcodes
    have hentry : (n, codes) ∈ wideUppercase := htable ▸ by simp
    exact .inl ⟨codes, hentry, rfl⟩
  · right
    split
    · next run hrun =>
      have hcontains : run.contains n := List.find?_some (p := (CaseRun.contains · n)) hrun
      exact .inl ⟨run, List.mem_of_find?_eq_some hrun, hcontains, rfl⟩
    · exact .inr rfl

theorem Text.CaseRun.le_of_contains {run : CaseRun} {n : Nat} (h : run.contains n) :
    run.first ≤ n ∧ n ≤ run.last := by
  rw [contains, Bool.and_eq_true, Bool.and_eq_true, decide_eq_true_eq, decide_eq_true_eq] at h
  exact h.1

/-- The upper case of a letter beyond ASCII has no code point below those of letters, and none of
a small ASCII letter. -/
theorem Text.bounds_of_mem_uppercaseCode {n code : Nat} (hn : 128 ≤ n)
    (h : code ∈ uppercaseCode n) :
    65 ≤ code ∧ (code < 97 ∨ 122 < code) := by
  rcases uppercaseCode_cases n with ⟨codes, hentry, heq⟩ | ⟨run, hrun, hcontains, heq⟩ | heq
  · rw [heq] at h
    exact wideUppercase_bounds _ hentry code h
  · rw [heq, List.mem_singleton] at h
    have hbounds := caseRuns_bounds run hrun
    have hle := CaseRun.le_of_contains hcontains
    omega
  · rw [heq, List.mem_singleton] at h
    omega

theorem Text.eq_of_toUpper_blank {d : Char} (hd : d = ' ' ∨ d = '\n') :
    ∀ n < 128, (Char.ofNat n).toUpper = d → Char.ofNat n = d := by
  rcases hd with rfl | rfl
  · decide
  · decide

/-- A blank in an upper-case text was there before. -/
theorem Text.eq_of_mem_uppercaseChar {c d : Char} (hd : d = ' ' ∨ d = '\n')
    (h : d ∈ uppercaseChar c) : c = d := by
  rw [uppercaseChar] at h
  split at h
  · next hascii =>
    have hupper := eq_of_toUpper_blank hd c.toNat hascii
    rw [Char.ofNat_toNat] at hupper
    exact hupper (List.mem_singleton.mp h).symm
  · next hascii =>
    obtain ⟨code, hcode, rfl⟩ := List.mem_map.mp h
    have hge := (bounds_of_mem_uppercaseCode (Nat.not_lt.mp hascii) hcode).1
    have hlt : (Char.ofNat code).toNat < 65 ∧ Char.ofNat code ≠ Char.ofNat 0 := by
      rcases hd with hd | hd <;> rw [hd] <;> decide
    by_cases hvalid : code.isValidChar
    · have htoNat : (Char.ofNat code).toNat = code := by
        rw [Char.ofNat, dif_pos hvalid]
        rfl
      omega
    · exact absurd (dif_neg hvalid) hlt.2

/-- There is no blank in the name of an enum member. -/
theorem notMem_memberName {name : String} {c : Char} (h : isIdentifier name)
    (hc : c = ' ' ∨ c = '\n') :
    c ∉ (memberName name).toList := by
  intro hmem
  rw [memberName, Text.uppercase, String.toList_ofList, List.mem_flatMap] at hmem
  obtain ⟨d, hd, hupper⟩ := hmem
  obtain rfl := Text.eq_of_mem_uppercaseChar hc hupper
  have hblank : isNameChar d = false := by
    refine isNameChar_punctuation ?_
    rcases hc with rfl | rfl <;> decide
  exact Bool.false_ne_true (hblank.symm.trans ((isName_of_isIdentifier h).2 d hd))

end DatasetSchema
