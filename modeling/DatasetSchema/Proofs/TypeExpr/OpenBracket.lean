import DatasetSchema.Proofs.TypeExpr.Lossless
import Mathlib.Data.List.Induction

/-!
# Brackets that are open

A bracket is open behind a text if nothing in the text closes it. This is said by the groups of the
text and not by a count: between two open brackets stand closed groups only, and a closing bracket
that closes none stands before the first one. The scan for brackets that are too deep keeps the
number of open brackets, and the bracket that it tells is the first one that opens inside too many.

## Main definitions

* `TypeExpr.LeavesOpen`: the number of brackets that are open behind a text;
* `TypeExpr.IsFirstTooDeep`: the first bracket of a text that opens inside too many.

## Main results

* `TypeExpr.leavesOpen_iff`: the scan is outside quoted runs exactly where brackets count, and
  knows how many are open;
* `TypeExpr.checkNesting_eq_error_iff`: which texts the scan refuses, and what it tells.
-/

namespace DatasetSchema.TypeExpr

/-- The text ends outside quoted runs, and `d` of its brackets are open at its end. A closing
bracket closes none if none is open. -/
inductive LeavesOpen : (d : Nat) → List Char → Prop
  | balanced {s : List Char} : Balanced true s → LeavesOpen 0 s
  | unopened {s t : List Char} : LeavesOpen 0 s → Balanced true t → LeavesOpen 0 (s ++ ']' :: t)
  | bracket {d : Nat} {s t : List Char} :
      LeavesOpen d s → Balanced true t → LeavesOpen (d + 1) (s ++ '[' :: t)

variable {d : Nat} {c : Char} {g : Bool} {n : Nesting} {s t source before after : List Char}

namespace LeavesOpen

/-- A balanced text opens and closes nothing. -/
theorem append_balanced (h : LeavesOpen d s) (ht : Balanced true t) : LeavesOpen d (s ++ t) := by
  cases h with
  | balanced hs => exact .balanced (hs.append ht)
  | unopened hs hrest =>
    rw [List.append_assoc, List.cons_append]
    exact .unopened hs (hrest.append ht)
  | bracket hs hrest =>
    rw [List.append_assoc, List.cons_append]
    exact .bracket hs (hrest.append ht)

/-- A closing bracket closes the last open one: the two and what is between them are a group. -/
theorem close (h : LeavesOpen (d + 1) s) : LeavesOpen d (s ++ [']']) := by
  cases h with
  | @bracket d s t hs ht =>
    have hgroup : Balanced true ('[' :: (t ++ [']'])) := ht.group .nil
    simpa using hs.append_balanced hgroup

end LeavesOpen

/-! ## The scan counts the open brackets -/

/-- Where a scan is behind a text: outside quoted runs with so many brackets open, or inside a run
that began with so many open. -/
def Nesting.IsLeftBy (n : Nesting) (s : List Char) : Prop :=
  match n.quote with
  | none => LeavesOpen n.depth s
  | some quote => ∃ before run, s = before ++ quote :: run ∧ IsQuote quote ∧ quote ∉ run ∧
      LeavesOpen n.depth before

/-- One character leads a scan to where it is behind the text with this character. -/
theorem Nesting.IsLeftBy.step (h : n.IsLeftBy s) : (n.step c).IsLeftBy (s ++ [c]) := by
  -- Outside a run the cases are those of the scan; inside a run only its own quote matters.
  obtain ⟨_ | quote, d⟩ := n
  · change LeavesOpen d s at h
    by_cases hquote : IsQuote c
    · rw [step_quote hquote]
      exact ⟨s, [], rfl, hquote, List.not_mem_nil, h⟩
    by_cases hopen : c = '['
    · subst hopen
      rw [step_open]
      exact .bracket h .nil
    by_cases hclose : c = ']'
    · subst hclose
      cases d with
      -- A closing bracket where none is open is ignored.
      | zero => exact LeavesOpen.unopened h .nil
      | succ d =>
        rw [step_close]
        exact h.close
    · rw [step_other hquote hopen hclose]
      exact h.append_balanced (Balanced.nil.other hquote hopen hclose fun _ => rfl)
  · obtain ⟨before, run, rfl, hquote, hrun, hbefore⟩ := h
    by_cases hc : c = quote
    · subst hc
      rw [step_unquote]
      have hquoted : Balanced true (c :: (run ++ [c])) := Balanced.nil.quoted hquote hrun
      have hclosed := hbefore.append_balanced hquoted
      simpa [IsLeftBy] using hclosed
    · rw [step_quoted hc]
      refine ⟨before, run ++ [c], by simp, hquote, ?_, hbefore⟩
      simpa [hrun] using Ne.symm hc

/-- A scan of a text is where the text leaves it. -/
theorem Nesting.isLeftBy_foldl (s : List Char) : (s.foldl Nesting.step .outside).IsLeftBy s := by
  induction s using List.reverseRecOn with
  | nil => exact LeavesOpen.balanced .nil
  | append_singleton s c ih =>
    rw [List.foldl_concat]
    exact ih.step

/-- Inside a quoted run nothing opens or closes. -/
theorem Nesting.foldl_step_quoted {quote : Char} {run : List Char} (h : quote ∉ run) :
    run.foldl Nesting.step ⟨some quote, d⟩ = ⟨some quote, d⟩ := by
  induction run with
  | nil => rfl
  | cons c run ih =>
    obtain ⟨hc, hrun⟩ : c ≠ quote ∧ quote ∉ run := by simpa [eq_comm] using h
    rw [List.foldl_cons, step_quoted hc, ih hrun]

/-- A balanced text leaves a scan where it was. -/
theorem Balanced.foldl_step (h : Balanced g s) : s.foldl Nesting.step ⟨none, d⟩ = ⟨none, d⟩ := by
  induction h generalizing d with
  | nil => rfl
  | quoted hquote hrun _ ih =>
    rw [List.foldl_cons, Nesting.step_quote hquote, List.foldl_append,
      Nesting.foldl_step_quoted hrun, List.foldl_cons, Nesting.step_unquote, ih]
  | group _ _ ihinner ih =>
    rw [List.foldl_cons, Nesting.step_open, List.foldl_append, ihinner, List.foldl_cons,
      Nesting.step_close, ih]
  | other hquote hopen hclose _ _ ih =>
    rw [List.foldl_cons, Nesting.step_other hquote hopen hclose, ih]

/-- A scan is outside quoted runs with `d` brackets open exactly behind the texts that
leave `d` brackets open. -/
theorem leavesOpen_iff : LeavesOpen d s ↔ s.foldl Nesting.step .outside = ⟨none, d⟩ := by
  constructor
  · intro h
    induction h with
    | balanced hs => exact hs.foldl_step
    | unopened _ ht ih =>
      rw [List.foldl_append, ih, List.foldl_cons]
      exact ht.foldl_step
    | bracket _ ht ih =>
      rw [List.foldl_append, ih, List.foldl_cons, Nesting.step_open]
      exact ht.foldl_step
  · intro h
    have hleft := Nesting.isLeftBy_foldl s
    rw [h] at hleft
    exact hleft

/-! ## The first bracket that is too deep -/

/-- The text ends outside quoted runs and leaves so many brackets open that one more would be too
deep. -/
def LeavesFull (limit : Nat) (s : List Char) : Prop :=
  ∃ d, limit ≤ d ∧ LeavesOpen d s

/-- The bracket between `before` and `after` is the first one of a text that opens inside
`limit` open brackets. -/
structure IsFirstTooDeep (limit : Nat) (source before after : List Char) : Prop where
  /-- The bracket stands there. -/
  text : source = before ++ '[' :: after
  /-- It opens inside `limit` open brackets. -/
  full : LeavesFull limit before
  /-- No bracket before it does. -/
  first : ∀ other rest, source = other ++ '[' :: rest → LeavesFull limit other →
    before.length ≤ other.length

/-- A place at which one more bracket is too deep. -/
def Nesting.IsFull (limit : Nat) (n : Nesting) : Prop :=
  n.quote = none ∧ limit ≤ n.depth

theorem leavesFull_iff {limit : Nat} :
    LeavesFull limit s ↔ (s.foldl Nesting.step .outside).IsFull limit := by
  simp only [LeavesFull, leavesOpen_iff, Nesting.IsFull]
  constructor
  · rintro ⟨d, hlimit, hscan⟩
    rw [hscan]
    exact ⟨rfl, hlimit⟩
  · rintro ⟨hquote, hlimit⟩
    refine ⟨_, hlimit, ?_⟩
    rw [← hquote]

variable {limit start offset : Nat}

theorem tooDeepAt?_cons :
    tooDeepAt? limit n start (c :: s) = some offset ↔
      (c = '[' ∧ n.IsFull limit) ∧ start = offset ∨
        ¬ (c = '[' ∧ n.IsFull limit) ∧
          tooDeepAt? limit (n.step c) (start + c.utf8Size) s = some offset := by
  have hdeep : (n.quote.isNone && c == '[' && decide (limit ≤ n.depth)) = true ↔
      c = '[' ∧ n.IsFull limit := by
    simp only [Bool.and_eq_true, Option.isNone_iff_eq_none, beq_iff_eq, decide_eq_true_eq,
      Nesting.IsFull]
    tauto
  rw [tooDeepAt?]
  split
  · next h => simp [hdeep.mp h]
  · next h => simp [hdeep.not.mp h]

/-- What a scan tells is the first bracket at which it is full. -/
theorem tooDeepAt?_eq_some_iff :
    tooDeepAt? limit n start s = some offset ↔
      ∃ before after, (s = before ++ '[' :: after ∧ (before.foldl Nesting.step n).IsFull limit ∧
        ∀ other rest, s = other ++ '[' :: rest → (other.foldl Nesting.step n).IsFull limit →
          before.length ≤ other.length) ∧ offset = start + Text.byteLength before := by
  -- The induction is on the text, for every state that the scan can be in before it.
  induction s generalizing n start with
  | nil => simp [tooDeepAt?]
  | cons c s ih =>
    rw [tooDeepAt?_cons, ih]
    constructor
    · rintro (⟨⟨rfl, hfull⟩, rfl⟩ | ⟨hdeep, before, after, ⟨rfl, hfull, hfirst⟩, rfl⟩)
      · exact ⟨[], s, ⟨rfl, hfull, fun _ _ _ _ => Nat.zero_le _⟩, rfl⟩
      · refine ⟨c :: before, after, ⟨rfl, hfull, ?_⟩, by rw [Text.byteLength_cons, Nat.add_assoc]⟩
        rintro (_ | ⟨d, other⟩) rest heq hother
        · -- The text does not begin with a bracket that is too deep.
          exact absurd ⟨(List.cons.inj heq).1, hother⟩ hdeep
        · obtain ⟨rfl, htail⟩ := List.cons.inj heq
          exact Nat.succ_le_succ (hfirst other rest htail hother)
    · rintro ⟨_ | ⟨d, before⟩, after, ⟨heq, hfull, hfirst⟩, rfl⟩
      · exact .inl ⟨⟨(List.cons.inj heq).1, hfull⟩, rfl⟩
      · obtain ⟨rfl, rfl⟩ := List.cons.inj heq
        refine .inr ⟨?_, before, after, ⟨rfl, hfull, ?_⟩,
          by rw [Text.byteLength_cons, Nat.add_assoc]⟩
        · rintro ⟨rfl, hfull'⟩
          exact absurd (hfirst [] _ rfl hfull') (Nat.not_succ_le_zero _)
        · intro other rest heq hother
          exact Nat.le_of_succ_le_succ (hfirst (c :: other) rest (congrArg (c :: ·) heq) hother)

/-- A text is refused for the first bracket that opens inside `maxNesting` open ones. -/
theorem checkNesting_eq_error_iff {fault : Fault} :
    checkNesting start source = .error fault ↔
      ∃ before after, IsFirstTooDeep maxNesting source before after ∧
        fault = .nestedTooDeeply (start + Text.byteLength before) := by
  simp only [checkNesting_eq_error_iff_exists_offset, tooDeepAt?_eq_some_iff, ← leavesFull_iff]
  constructor
  · rintro ⟨_, ⟨before, after, ⟨htext, hfull, hfirst⟩, rfl⟩, rfl⟩
    exact ⟨before, after, ⟨htext, hfull, hfirst⟩, rfl⟩
  · rintro ⟨before, after, ⟨htext, hfull, hfirst⟩, rfl⟩
    exact ⟨_, ⟨before, after, ⟨htext, hfull, hfirst⟩, rfl⟩, rfl⟩

/-- A text with a bracket that opens inside too many open ones has a first one. -/
theorem exists_isFirstTooDeep (h : source = before ++ '[' :: after)
    (hfull : LeavesFull limit before) :
    ∃ before after, IsFirstTooDeep limit source before after := by
  induction hlength : before.length using Nat.strong_induction_on generalizing before after with
  | _ length ih =>
    subst hlength
    by_cases hfirst : ∀ other rest, source = other ++ '[' :: rest → LeavesFull limit other →
        before.length ≤ other.length
    · exact ⟨before, after, h, hfull, hfirst⟩
    · push Not at hfirst
      obtain ⟨other, rest, hother, hfull', hlt⟩ := hfirst
      exact ih other.length hlt hother hfull' rfl

end DatasetSchema.TypeExpr
