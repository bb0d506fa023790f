import DatasetSchema.Proofs.Identifier

/-!
# Small letters and upper case

Every reserved word has a small ASCII letter, and an upper-case text has none, whichever
letters it comes from. So a reserved word may name a class, and the enum member that it becomes
is called by another word.

## Main results

* `Text.not_isLower_of_mem_uppercaseChar`: no ASCII letter in an upper-case text is a small one;
* `not_isReservedWord_memberName`: the name of an enum member is no reserved word;
* `toList_memberName_ne_nil`: the name of an enum member is not empty.
-/

namespace DatasetSchema

namespace Text

/-- What holds of the characters with the first 128 codes holds of all characters
that have such a code. -/
theorem of_forall_ascii {P : Char → Prop} (h : ∀ code < 128, P (Char.ofNat code)) {c : Char}
    (hascii : c.toNat < 128) : P c := by
  have hcode := h c.toNat hascii
  rwa [Char.ofNat_toNat] at hcode

theorem toNat_ofNat_of_isValidChar {code : Nat} (h : code.isValidChar) :
    (Char.ofNat code).toNat = code := by
  unfold Char.ofNat
  rw [dif_pos h]
  rfl

theorem toNat_ofNat_of_not_isValidChar {code : Nat} (h : ¬ code.isValidChar) :
    (Char.ofNat code).toNat = 0 := by
  unfold Char.ofNat
  rw [dif_neg h]
  rfl

/-- No ASCII letter in an upper-case text is a small one. -/
theorem not_isLower_of_mem_uppercaseChar {c d : Char} (h : d ∈ uppercaseChar c) : ¬ d.isLower := by
  rw [uppercaseChar] at h
  split at h
  · next hascii =>
    rw [List.mem_singleton.mp h]
    exact of_forall_ascii (P := fun c => ¬ c.toUpper.isLower) (by decide) hascii
  · next hascii =>
    obtain ⟨code, hcode, rfl⟩ := List.mem_map.mp h
    have hnot := (bounds_of_mem_uppercaseCode (Nat.not_lt.mp hascii) hcode).2
    intro hlower
    obtain ⟨hfirst, hlast⟩ := Bool.and_eq_true_iff.mp hlower
    have hle : 97 ≤ (Char.ofNat code).toNat := of_decide_eq_true hfirst
    have hle' : (Char.ofNat code).toNat ≤ 122 := of_decide_eq_true hlast
    by_cases hvalid : code.isValidChar
    · rw [toNat_ofNat_of_isValidChar hvalid] at hle hle'
      omega
    · rw [toNat_ofNat_of_not_isValidChar hvalid] at hle
      omega

end Text

/-- Every reserved word has a small letter. -/
theorem exists_isLower_of_isReservedWord {word : String} (h : isReservedWord word) :
    ∃ c ∈ word.toList, c.isLower := by
  have hwords : reservedWords.all (fun word => word.toList.any Char.isLower) := by decide
  have hword := List.all_eq_true.mp hwords word (List.contains_iff_mem.mp h)
  exact List.any_eq_true.mp hword

/-- The name of an enum member is no reserved word. -/
theorem not_isReservedWord_memberName (name : String) : ¬ isReservedWord (memberName name) := by
  intro h
  obtain ⟨d, hd, hlower⟩ := exists_isLower_of_isReservedWord h
  rw [memberName, Text.uppercase, String.toList_ofList, List.mem_flatMap] at hd
  obtain ⟨c, -, hd⟩ := hd
  exact Text.not_isLower_of_mem_uppercaseChar hd hlower

/-! ## What is left of a name -/

theorem Text.uppercaseCode_ne_nil (n : Nat) : uppercaseCode n ≠ [] := by
  have htable : ∀ entry ∈ wideUppercase, entry.2 ≠ [] := by decide +kernel
  rcases uppercaseCode_cases n with ⟨codes, hentry, heq⟩ | ⟨run, -, -, heq⟩ | heq
  · rw [heq]
    exact htable _ hentry
  · rw [heq]
    exact List.cons_ne_nil _ _
  · rw [heq]
    exact List.cons_ne_nil _ _

theorem Text.uppercaseChar_ne_nil (c : Char) : uppercaseChar c ≠ [] := by
  rw [uppercaseChar]
  split
  · exact List.cons_ne_nil _ _
  · rw [ne_eq, List.map_eq_nil_iff]
    exact uppercaseCode_ne_nil c.toNat

theorem toList_memberName_ne_nil {name : String} (h : isIdentifier name) :
    (memberName name).toList ≠ [] := by
  obtain ⟨c, rest, hname⟩ := List.exists_cons_of_ne_nil (isName_of_isIdentifier h).1
  rw [memberName, Text.uppercase, String.toList_ofList, hname, List.flatMap_cons]
  exact List.append_ne_nil_of_left_ne_nil (Text.uppercaseChar_ne_nil c) _

end DatasetSchema
