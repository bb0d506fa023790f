import DatasetSchema.Number.Shortest
import DatasetSchema.Proofs.Identifier

/-!
# How numbers are spelled

The text of a number begins with a digit, a minus sign or a point, and none of these starts an
identifier. So a number in a document gives a name to nothing, whichever way it is written there.

## Main definitions

* `Number.StartsNoIdentifier`: the first character of a text starts no identifier.

## Main results

* `Number.not_isIdentifier_toString`: whole numbers;
* `Number.not_isIdentifier_text`: numbers with a point or an exponent.
-/

namespace DatasetSchema

theorem isNameStart_of_isDigit {c : Char} (h : c.isDigit) : isNameStart c = false := by
  rw [Char.isDigit, Bool.and_eq_true, decide_eq_true_eq, decide_eq_true_eq, ge_iff_le,
    UInt32.le_iff_toNat_le, UInt32.le_iff_toNat_le] at h
  have hdigits : ∀ n < 58, 48 ≤ n → isNameStart (Char.ofNat n) = false := by decide +kernel
  have hc := hdigits c.toNat (Nat.lt_succ_of_le h.2) h.1
  rwa [Char.ofNat_toNat] at hc

namespace Number

/-- The first character of the text starts no identifier. -/
def StartsNoIdentifier (s : String) : Prop :=
  ∃ c rest, s.toList = c :: rest ∧ isNameStart c = false

section

variable {s : String} {c : Char} {cs : List Char}

theorem StartsNoIdentifier.append (h : StartsNoIdentifier s) (t : String) :
    StartsNoIdentifier (s ++ t) := by
  obtain ⟨c, rest, hs, hc⟩ := h
  exact ⟨c, rest ++ t.toList, by rw [String.toList_append, hs, List.cons_append], hc⟩

theorem StartsNoIdentifier.not_isIdentifier (h : StartsNoIdentifier s) : ¬ isIdentifier s := by
  obtain ⟨c, rest, hs, hc⟩ := h
  rw [isIdentifier, hs]
  simp [hc]

theorem startsNoIdentifier_ofList (h : isNameStart c = false) :
    StartsNoIdentifier (String.ofList (c :: cs)) :=
  ⟨c, cs, String.toList_ofList, h⟩

theorem startsNoIdentifier_sign : StartsNoIdentifier "-" :=
  ⟨'-', [], by decide, by decide +kernel⟩

theorem exists_toDigits_eq_cons (n : Nat) :
    ∃ c cs, Nat.toDigits 10 n = c :: cs ∧ isNameStart c = false := by
  obtain ⟨c, cs, hdigits⟩ := List.exists_cons_of_ne_nil (Nat.toDigits_ne_nil (n := n) (b := 10))
  have hc : c ∈ Nat.toDigits 10 n := hdigits ▸ List.mem_cons_self
  exact ⟨c, cs, hdigits, isNameStart_of_isDigit
    (Nat.isDigit_of_mem_toDigits (by decide) (by decide) hc)⟩

end

theorem startsNoIdentifier_repr (n : Nat) : StartsNoIdentifier n.repr := by
  obtain ⟨c, cs, hdigits, hc⟩ := exists_toDigits_eq_cons n
  exact ⟨c, cs, by rw [Nat.toList_repr, hdigits], hc⟩

/-- The text of a whole number begins with a digit or a minus sign. -/
theorem not_isIdentifier_toString (n : Int) : ¬ isIdentifier (toString n) := by
  cases n with
  | ofNat n => exact (startsNoIdentifier_repr n).not_isIdentifier
  | negSucc n => exact (startsNoIdentifier_sign.append (n + 1).repr).not_isIdentifier

namespace Decimal

theorem startsNoIdentifier_positional (d : Decimal) : StartsNoIdentifier d.positional := by
  obtain ⟨c, cs, hdigits, hc⟩ := exists_toDigits_eq_cons d.digits
  rw [positional]
  simp only [hdigits]
  split
  · exact (startsNoIdentifier_ofList hc).append ".0"
  · split
    · next hpoint =>
      obtain ⟨k, hk⟩ := Nat.exists_eq_succ_of_ne_zero
        (n := ((c :: cs).length + d.exponent).toNat) (by omega)
      rw [hk]
      exact ((startsNoIdentifier_ofList hc).append ".").append _
    · exact StartsNoIdentifier.append ⟨'0', ['.'], by decide, by decide +kernel⟩ _

theorem startsNoIdentifier_scientific (d : Decimal) : StartsNoIdentifier d.scientific := by
  obtain ⟨c, cs, hdigits, hc⟩ := exists_toDigits_eq_cons d.digits
  rw [scientific, hdigits]
  cases cs with
  | nil => exact ((startsNoIdentifier_ofList hc).append "e").append _
  | cons d cs => exact ((startsNoIdentifier_ofList hc).append "e").append _

end Decimal

/-- The text of a number with a point or an exponent begins with a digit, a minus sign or a
point. -/
theorem not_isIdentifier_text (x : Binary64) : ¬ isIdentifier x.text := by
  have hsign : ∀ {negative : Bool} {s : String}, StartsNoIdentifier s →
      ¬ isIdentifier (Binary64.sign negative ++ s) := by
    intro negative s hs
    cases negative with
    | true => exact (startsNoIdentifier_sign.append s).not_isIdentifier
    | false =>
      show ¬ isIdentifier ("" ++ s)
      rw [String.empty_append]
      exact hs.not_isIdentifier
  have hpoint : isNameStart '.' = false := by decide +kernel
  have hzero : isNameStart '0' = false := by decide +kernel
  cases x with
  | nan => exact StartsNoIdentifier.not_isIdentifier ⟨'.', ['n', 'a', 'n'], by decide, hpoint⟩
  | infinite negative => exact hsign ⟨'.', ['i', 'n', 'f'], by decide, hpoint⟩
  | finite negative count =>
    cases count with
    | zero => exact hsign ⟨'0', ['.', '0'], by decide, hzero⟩
    | succ count =>
      refine hsign ?_
      rw [Decimal.compact]
      split
      · exact Decimal.startsNoIdentifier_positional _
      · exact Decimal.startsNoIdentifier_scientific _

end Number

end DatasetSchema
