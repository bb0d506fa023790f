/-!
# Nesting of a type expression

Reading a type expression from left to right, a place of it lies inside a quoted run or not, and
some brackets are open there. Brackets inside a quoted run are text. An expression may have at most
`maxNesting` brackets open at once.
-/

namespace DatasetSchema.TypeExpr

/-- What is open at a place of a text. -/
structure Nesting where
  /-- The quote that closes the run which the place lies in. -/
  quote : Option Char
  /-- The number of open brackets. -/
  depth : Nat
  deriving DecidableEq, Repr

namespace Nesting

/-- Nothing is open. -/
def outside : Nesting := ⟨none, 0⟩

/-- Whether nothing is open. -/
def isOutside (n : Nesting) : Bool :=
  n.quote.isNone && n.depth == 0

/-- What is open after one more character. A closing bracket without an open one changes nothing. -/
def step (n : Nesting) (c : Char) : Nesting :=
  match n.quote with
  | some quote => if c == quote then { n with quote := none } else n
  | none =>
    if c == '"' || c == '\'' then { n with quote := some c }
    else if c == '[' then { n with depth := n.depth + 1 }
    else if c == ']' then { n with depth := n.depth - 1 }
    else n

end Nesting

/-- The number of brackets that may be open at once. -/
def maxNesting : Nat := 32

/-- The position of the first bracket that opens inside `limit` open ones. The text continues
another one that has `nesting` open and ends at `offset`. -/
def tooDeepAt? (limit : Nat) (nesting : Nesting) (offset : Nat) : List Char → Option Nat
  | [] => none
  | c :: cs =>
    if nesting.quote.isNone && c == '[' && limit ≤ nesting.depth then some offset
    else tooDeepAt? limit (nesting.step c) (offset + c.utf8Size) cs

end DatasetSchema.TypeExpr
