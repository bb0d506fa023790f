/-!
# Lengths in bytes

Positions in a text count the bytes of its UTF-8 form, so the characters before a position weigh one
to four each.
-/

namespace DatasetSchema.Text

/-- The number of bytes of the UTF-8 form of a text. -/
def byteLength : List Char → Nat
  | [] => 0
  | c :: cs => c.utf8Size + byteLength cs

/-- The empty text takes no byte. -/
@[simp]
theorem byteLength_nil : byteLength [] = 0 := rfl

/-- A character takes the bytes of its own form. -/
@[simp]
theorem byteLength_cons (c : Char) (cs : List Char) :
    byteLength (c :: cs) = c.utf8Size + byteLength cs := rfl

/-- Lengths add up along a text. -/
@[simp]
theorem byteLength_append (s t : List Char) :
    byteLength (s ++ t) = byteLength s + byteLength t := by
  induction s with
  | nil => simp
  | cons c s ih => simp [ih, Nat.add_assoc]

end DatasetSchema.Text
