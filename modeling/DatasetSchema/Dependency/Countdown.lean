import DatasetSchema.Dependency.Graph

/-!
# Countdown to the order of emission

Every name counts how many of its dependencies are not declared yet. A name that counts none is
ready, and of the ready names the one that stands first in the graph is declared next. Then each of
its dependents is told, counts one less, and becomes ready when nothing is left to count. The
countdown ends when no name is ready.
-/

namespace DatasetSchema.Dependency

/-- The state of a countdown. -/
structure Countdown where
  /-- How many dependencies each name still misses. -/
  missing : List (String × Nat)
  /-- The names that miss none and are not declared. -/
  ready : List String
  /-- The names that are still to be told of the last declaration. -/
  pending : List String
  /-- The declared names, the last one at the end. -/
  order : List String
  deriving DecidableEq, Repr

namespace Countdown

variable (graph : Graph)

/-- Nothing is declared yet. -/
def start : Countdown :=
  { missing := graph.names.map fun name => (name, graph.inDegree name)
    ready := graph.names.filter fun name => graph.inDegree name == 0
    pending := []
    order := [] }

/-- How many dependencies a name still misses. -/
def missingOf (state : Countdown) (name : String) : Nat :=
  (state.missing.lookup name).getD 0

/-- The counts after one dependency less for a name. -/
def countDown (name : String) (missing : List (String × Nat)) : List (String × Nat) :=
  missing.map fun count => if count.1 == name then (count.1, count.2 - 1) else count

/-- Counting down changes one count at a time. -/
theorem countDown_cons (name : String) (count : String × Nat) (missing : List (String × Nat)) :
    countDown name (count :: missing) =
      (if count.1 = name then (count.1, count.2 - 1) else count) :: countDown name missing := by
  simp [countDown]

/-- Tells a name that one of its dependencies is declared. -/
def tell (state : Countdown) (name : String) : Countdown :=
  { state with
    missing := countDown name state.missing
    ready := if state.missingOf name = 1 then state.ready ++ [name] else state.ready }

/-- Declares a name that is ready. -/
def declare (state : Countdown) (name : String) : Countdown :=
  { state with
    ready := state.ready.erase name
    pending := graph.dependents name
    order := state.order ++ [name] }

/-- The next state: one more name is told, or, if all are told, one more name is declared. -/
def next? (state : Countdown) : Option Countdown :=
  match state.pending with
  | name :: pending => some ({ state with pending }.tell name)
  | [] => (graph.names.find? state.ready.contains).map (state.declare graph)

/-- What is left to count in all. -/
def leftToCount : List (String × Nat) → Nat
  | [] => 0
  | count :: missing => count.2 + leftToCount missing

/-- What is left to count, and to declare of what is ready. -/
def work (state : Countdown) : Nat :=
  leftToCount state.missing + state.ready.length

/-- Counting down takes nothing that is not there. -/
theorem leftToCount_countDown_le (name : String) (missing : List (String × Nat)) :
    leftToCount (countDown name missing) ≤ leftToCount missing := by
  induction missing with
  | nil => simp [countDown]
  | cons count missing ih =>
    rw [countDown_cons]
    by_cases h : count.1 = name <;> simp only [h, if_true, if_false, leftToCount] <;> omega

/-- Counting down takes something from a name that misses some dependency. -/
theorem leftToCount_countDown_lt {name : String} {missing : List (String × Nat)} {left : Nat}
    (h : missing.lookup name = some (left + 1)) :
    leftToCount (countDown name missing) < leftToCount missing := by
  induction missing with
  | nil => simp at h
  | cons count missing ih =>
    rw [countDown_cons]
    rw [List.lookup_cons] at h
    by_cases hname : count.1 = name
    · have hcount : count.2 = left + 1 := by simpa [hname] using h
      have hle := leftToCount_countDown_le name missing
      simp only [hname, if_true, leftToCount]
      omega
    · have hne : (name == count.1) = false := by simpa using Ne.symm hname
      rw [hne] at h
      have hlt := ih h
      simp only [hname, if_false, leftToCount]
      omega

/-- A name that gets ready had something left to count, so telling it brings no work. -/
theorem work_tell_le (state : Countdown) (name : String) : (state.tell name).work ≤ state.work := by
  have hle := leftToCount_countDown_le name state.missing
  unfold work tell
  split
  · next h =>
    have hlookup : state.missing.lookup name = some (0 + 1) := by
      unfold missingOf at h
      cases hl : state.missing.lookup name <;> simp_all
    have hlt := leftToCount_countDown_lt hlookup
    simp only [List.length_append, List.length_singleton]
    omega
  · simp only
    omega

/-- Declaring a name that is ready takes work away. -/
theorem work_declare_lt {state : Countdown} {name : String} (h : name ∈ state.ready) :
    (state.declare graph name).work < state.work := by
  have hlength := List.length_erase_of_mem h
  have hpos := List.length_pos_of_mem h
  unfold work declare
  simp only
  omega

/-- Every step takes work away, or leaves as much and one name less to be told. -/
theorem work_next? {state state' : Countdown} (h : state.next? graph = some state') :
    state'.work < state.work ∨
      state'.work ≤ state.work ∧ state'.pending.length < state.pending.length := by
  unfold next? at h
  split at h
  · next name pending hpending =>
    cases h
    refine .inr ⟨work_tell_le { state with pending } name, ?_⟩
    simp [tell, hpending]
  · next hpending =>
    obtain ⟨name, hfind, rfl⟩ := Option.map_eq_some_iff.1 h
    refine .inl (work_declare_lt graph ?_)
    simpa using List.find?_some hfind

/-- The last state of a countdown. -/
def run (state : Countdown) : Countdown :=
  match _h : state.next? graph with
  | some state' => run state'
  | none => state
termination_by (state.work, state.pending.length)
decreasing_by
  rcases work_next? graph _h with hlt | ⟨hle, hlt⟩
  · exact Prod.Lex.left _ _ hlt
  · rcases Nat.lt_or_eq_of_le hle with hw | hw
    · exact Prod.Lex.left _ _ hw
    · rw [hw]
      exact Prod.Lex.right _ hlt

end Countdown

end DatasetSchema.Dependency
