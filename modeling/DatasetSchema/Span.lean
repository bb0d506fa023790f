/-!
# Spans

A span is a range of byte positions of a text: from its start up to, and without, its end.
-/

namespace DatasetSchema

/-- A range of byte positions. -/
structure Span where
  /-- The position of the first byte. -/
  start : Nat
  /-- The position after the last one. -/
  stop : Nat
  /-- A part does not end before it begins. -/
  start_le_stop : start ≤ stop
  deriving DecidableEq, Repr

namespace Span

/-- The span from `start` to `stop`, or the empty one at `start` if `stop` lies before it. -/
def clamped (start stop : Nat) : Span :=
  ⟨start, max start stop, Nat.le_max_left start stop⟩

/-- The span of `length` bytes that begins at `start`. -/
def ofLength (start length : Nat) : Span :=
  ⟨start, start + length, Nat.le_add_right start length⟩

/-- The number of bytes in a span. -/
def length (span : Span) : Nat :=
  span.stop - span.start

/-- Whether a span holds no byte. -/
def isEmpty (span : Span) : Bool :=
  span.start == span.stop

/-- The smallest span that holds both. -/
def union (a b : Span) : Span :=
  ⟨min a.start b.start, max a.stop b.stop, by
    have ha := a.start_le_stop
    omega⟩

/-- The span moved to the right. -/
def shift (span : Span) (offset : Nat) : Span :=
  ⟨span.start + offset, span.stop + offset, Nat.add_le_add_right span.start_le_stop offset⟩

/-- The span as text, such as `3..9`. -/
def text (span : Span) : String :=
  toString span.start ++ ".." ++ toString span.stop

end Span

/-- A value together with the span of the text that it was read from. -/
structure Spanned (α : Type) where
  value : α
  span : Span
  deriving DecidableEq, Repr

end DatasetSchema
