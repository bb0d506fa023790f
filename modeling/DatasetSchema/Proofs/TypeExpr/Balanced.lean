import DatasetSchema.TypeExpr.Basic
import Mathlib.Data.List.Basic
import Mathlib.Order.MinMax

/-!
# Balanced texts

A text is balanced if its quoted runs and bracketed groups are closed. Reading a
balanced text leaves what is open at a place as it was, and so the depth of a text is
the largest depth of its parts.

## Main definitions

* `TypeExpr.Balanced`: a sequence of quoted runs, bracketed groups and other characters;
* `TypeExpr.nestingDepth`: how deep the brackets of a text nest outside quoted runs.

## Main results

* `TypeExpr.Balanced.nestingDepth_append`: the depth of a balanced text and what follows it;
* `TypeExpr.tooDeepAt?_eq_none_iff`: no bracket of a text is too deep if the text does not nest
  deeper.
-/

namespace DatasetSchema.TypeExpr

/-- The character opens a quoted run, and closes a run that it opened. -/
def IsQuote (c : Char) : Prop :=
  c = '"' ∨ c = '\''

instance (c : Char) : Decidable (IsQuote c) :=
  inferInstanceAs (Decidable (c = '"' ∨ c = '\''))

/-- A sequence of closed quoted runs, closed bracketed groups and other characters. Commas are among
these only inside a group. -/
inductive Balanced : (inGroup : Bool) → List Char → Prop
  | nil {g : Bool} : Balanced g []
  | quoted {g : Bool} {quote : Char} {run rest : List Char} :
      IsQuote quote → quote ∉ run → Balanced g rest → Balanced g (quote :: (run ++ quote :: rest))
  | group {g : Bool} {inner rest : List Char} :
      Balanced true inner → Balanced g rest → Balanced g ('[' :: (inner ++ ']' :: rest))
  | other {g : Bool} {c : Char} {rest : List Char} :
      ¬ IsQuote c → c ≠ '[' → c ≠ ']' → (c = ',' → g = true) → Balanced g rest →
        Balanced g (c :: rest)

namespace Balanced

variable {g : Bool} {c : Char} {s t : List Char}

theorem append (hs : Balanced g s) (ht : Balanced g t) : Balanced g (s ++ t) := by
  induction hs with
  | nil => exact ht
  | quoted hquote hrun _ ih => simpa using (ih ht).quoted hquote hrun
  | group hinner _ _ ih => simpa using hinner.group (ih ht)
  | other hquote hopen hclose hcomma _ ih => exact (ih ht).other hquote hopen hclose hcomma

/-- What is balanced between commas is balanced inside a group. -/
theorem inGroup (h : Balanced g s) : Balanced true s := by
  induction h with
  | nil => exact .nil
  | quoted hquote hrun _ ih => exact ih.quoted hquote hrun
  | group hinner _ _ ih => exact hinner.group ih
  | other hquote hopen hclose _ _ ih => exact ih.other hquote hopen hclose fun _ => rfl

/-- A text without quotes, brackets and commas is balanced. -/
theorem of_plain (h : ∀ c ∈ s, ¬ IsQuote c ∧ c ≠ '[' ∧ c ≠ ']' ∧ c ≠ ',') : Balanced g s := by
  induction s with
  | nil => exact .nil
  | cons c s ih =>
    obtain ⟨hquote, hopen, hclose, hcomma⟩ := h c List.mem_cons_self
    exact (ih fun c hc => h c (List.mem_cons_of_mem _ hc)).other hquote hopen hclose
      fun heq => absurd heq hcomma

/-- What follows a plain character of a balanced text is balanced. -/
theorem of_cons (h : Balanced g (c :: s)) (hquote : ¬ IsQuote c) (hopen : c ≠ '[') :
    Balanced g s := by
  cases h with
  | quoted hc => exact absurd hc hquote
  | group => exact absurd rfl hopen
  | other _ _ _ _ hrest => exact hrest

end Balanced

/-! ## Nesting while a balanced text is read -/

namespace Nesting

variable {d : Nat} {c quote : Char}

theorem step_quote (h : IsQuote quote) : (⟨none, d⟩ : Nesting).step quote = ⟨some quote, d⟩ := by
  rcases h with rfl | rfl <;> rfl

theorem step_quoted (h : c ≠ quote) : (⟨some quote, d⟩ : Nesting).step c = ⟨some quote, d⟩ := by
  simp [step, h]

theorem step_unquote : (⟨some quote, d⟩ : Nesting).step quote = ⟨none, d⟩ := by
  simp [step]

theorem step_open : (⟨none, d⟩ : Nesting).step '[' = ⟨none, d + 1⟩ := rfl

theorem step_close : (⟨none, d + 1⟩ : Nesting).step ']' = ⟨none, d⟩ := rfl

theorem step_other (hquote : ¬ IsQuote c) (hopen : c ≠ '[') (hclose : c ≠ ']') :
    (⟨none, d⟩ : Nesting).step c = ⟨none, d⟩ := by
  have hdouble : c ≠ '"' := fun h => hquote (.inl h)
  have hsingle : c ≠ '\'' := fun h => hquote (.inr h)
  simp [step, hdouble, hsingle, hopen, hclose]

/-- The largest number of brackets that are open at some place of the text. -/
def peak : Nesting → List Char → Nat
  | n, [] => n.depth
  | n, c :: cs => max n.depth (peak (n.step c) cs)

theorem depth_le_peak (n : Nesting) (s : List Char) : n.depth ≤ n.peak s := by
  cases s with
  | nil => exact le_rfl
  | cons c s => exact le_max_left _ _

/-- No bracket opens inside a quoted run. -/
theorem peak_quoted {run rest : List Char} (h : quote ∉ run) :
    (⟨some quote, d⟩ : Nesting).peak (run ++ quote :: rest) = (⟨none, d⟩ : Nesting).peak rest := by
  induction run with
  | nil =>
    rw [List.nil_append, peak, step_unquote]
    exact max_eq_right (depth_le_peak ⟨none, d⟩ rest)
  | cons c run ih =>
    obtain ⟨hc, hrun⟩ : c ≠ quote ∧ quote ∉ run := by simpa [eq_comm] using h
    rw [List.cons_append, peak, step_quoted hc, ih hrun]
    exact max_eq_right (depth_le_peak ⟨none, d⟩ rest)

end Nesting

open Nesting

/-- How deep the brackets of a text nest, those in quoted runs aside. -/
def nestingDepth (source : List Char) : Nat :=
  Nesting.outside.peak source

variable {g : Bool} {d : Nat} {c : Char} {s t rest : List Char}

/-- A character that opens and closes nothing does not nest. -/
theorem nestingDepth_cons (hquote : ¬ IsQuote c) (hopen : c ≠ '[') (hclose : c ≠ ']') :
    nestingDepth (c :: s) = nestingDepth s := by
  rw [nestingDepth, Nesting.outside, peak, step_other hquote hopen hclose]
  exact max_eq_right (Nat.zero_le _)

/-- A quoted run does not nest, whatever it holds. -/
theorem nestingDepth_quoted {quote : Char} {run : List Char} (hquote : IsQuote quote)
    (hrun : quote ∉ run) : nestingDepth (quote :: (run ++ quote :: s)) = nestingDepth s := by
  rw [nestingDepth, Nesting.outside, peak, step_quote hquote, peak_quoted hrun]
  exact max_eq_right (Nat.zero_le _)

/-- A balanced text nests on top of what is open before it, and what follows nests as without it. -/
theorem Balanced.peak_append (h : Balanced g s) :
    (⟨none, d⟩ : Nesting).peak (s ++ rest) =
      max (d + nestingDepth s) ((⟨none, d⟩ : Nesting).peak rest) := by
  induction h generalizing d rest with
  | nil =>
    have hle := depth_le_peak ⟨none, d⟩ rest
    exact (max_eq_right hle).symm
  | @quoted g quote run s hquote hrun _ ih =>
    rw [nestingDepth_quoted hquote hrun, List.cons_append, peak, step_quote hquote,
      List.append_assoc, List.cons_append, peak_quoted hrun, ih]
    simp only
    omega
  | @group g inner s _ _ ihinner ih =>
    -- The group stands on one more bracket, so the induction needs every depth before the text.
    have hdepth : nestingDepth ('[' :: (inner ++ ']' :: s)) =
        max (1 + nestingDepth inner) (nestingDepth s) := by
      rw [nestingDepth, Nesting.outside, peak, step_open, ihinner, peak, step_close]
      simp only [nestingDepth, Nesting.outside]
      omega
    rw [hdepth, List.cons_append, peak, step_open, List.append_assoc, List.cons_append, ihinner,
      peak, step_close, ih]
    simp only
    omega
  | @other g c s hquote hopen hclose _ _ ih =>
    rw [nestingDepth_cons hquote hopen hclose, List.cons_append, peak,
      step_other hquote hopen hclose, ih]
    simp only
    omega

/-- The brackets of a text after a balanced one nest as on their own. -/
theorem Balanced.nestingDepth_append (h : Balanced g s) (t : List Char) :
    nestingDepth (s ++ t) = max (nestingDepth s) (nestingDepth t) := by
  rw [nestingDepth, Nesting.outside, h.peak_append, Nat.zero_add]
  rfl

/-- A bracketed group nests one deeper than the text inside. -/
theorem Balanced.nestingDepth_group (h : Balanced g s) :
    nestingDepth ('[' :: (s ++ [']'])) = 1 + nestingDepth s := by
  rw [nestingDepth, Nesting.outside, peak, step_open, h.peak_append, peak, step_close, peak]
  simp only
  omega

/-- One character opens at most one bracket, and only an opening bracket outside quotes opens
one. -/
theorem Nesting.depth_step_le {n : Nesting} (h : ¬ (n.quote = none ∧ c = '[')) :
    (n.step c).depth ≤ n.depth := by
  unfold Nesting.step
  split
  · split <;> exact le_rfl
  · next hquote =>
    split
    · exact le_rfl
    · split
      · next _ hopen => exact absurd ⟨hquote, by simpa using hopen⟩ h
      · split
        · exact Nat.sub_le _ _
        · exact le_rfl

/-- A bracket is too deep exactly if the text nests deeper than the limit. -/
theorem tooDeepAt?_eq_none_iff {limit offset : Nat} {n : Nesting} (h : n.depth ≤ limit) :
    tooDeepAt? limit n offset s = none ↔ n.peak s ≤ limit := by
  induction s generalizing n offset with
  | nil => simpa [tooDeepAt?, peak] using h
  | cons c s ih =>
    have hopen : n.quote = none ∧ c = '[' → (n.step c).depth = n.depth + 1 := by
      rintro ⟨hquote, rfl⟩
      simp [Nesting.step, hquote]
    rw [tooDeepAt?, peak]
    split
    · next hdeep =>
      -- The bracket that opens here is the one too many.
      obtain ⟨hbracket, hlimit⟩ : (n.quote = none ∧ c = '[') ∧ limit ≤ n.depth := by
        simpa using hdeep
      have hpeak := depth_le_peak (n.step c) s
      have hdepth := hopen hbracket
      simp only [reduceCtorEq, false_iff]
      omega
    · next hdeep =>
      have hle : (n.step c).depth ≤ limit := by
        by_cases hbracket : n.quote = none ∧ c = '['
        · have hlt : n.depth < limit := by simpa [hbracket] using hdeep
          have hdepth := hopen hbracket
          omega
        · exact (depth_step_le hbracket).trans h
      rw [ih hle]
      omega

end DatasetSchema.TypeExpr
